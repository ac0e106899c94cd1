import Surface.Report.Shape
import Surface.Report.RenderHtml

/-!
# Surface.Report.HtmlMarkup

The markup of a page depends on no string of the report.

A fragment is compared with the same fragment of the report whose strings are erased, from the
items of the lists up to the page. What is interpolated is escaped or inert, so only the literals
of a fragment and the fragments in it have markup.
-/

namespace Surface

open Shape (shape)

set_option maxRecDepth 1000

/-! ## Lists and options -/

section Fragments

variable {α β : Type} {f : α → String} {g : β → String} {l : List α} {l' : List β}

theorem forall₂_items (h : List.Forall₂ (fun a b => SameItem (f a) (g b)) l l') :
    List.Forall₂ SameItem (l.map f) (l'.map g) :=
  List.forall₂_map_left_iff.mpr (List.forall₂_map_right_iff.mpr h)

theorem fragments_markup (h : List.Forall₂ (fun a b => SameItem (f a) (g b)) l l') :
    SameMarkup (fragments f l) (fragments g l') := sameMarkup_items (forall₂_items h)

/-- A list of items, or what stands for it when it is empty. -/
theorem orWhenEmpty_markup {otherwise : String} (hotherwise : Closed otherwise)
    (h : List.Forall₂ (fun a b => SameItem (f a) (g b)) l l') :
    SameMarkup (orWhenEmpty (fragments f l) otherwise)
      (orWhenEmpty (fragments g l') otherwise) := by
  unfold orWhenEmpty fragments
  rw [isEmpty_items (forall₂_items h)]
  split
  · exact sameMarkup_self.mpr hotherwise
  · exact fragments_markup h

/-- A text that is shown if it is there. -/
theorem optional_markup [Shape α] {before after : String} (hbefore : Closed before)
    (hafter : Closed after) (hf : ∀ a, Plain (f a)) (o : Option α) :
    SameMarkup ((o.map fun a => join [before, f a, after]).getD "")
      (((shape o).map fun a => join [before, f a, after]).getD "") := by
  cases o with
  | none => exact sameMarkup_stable.empty
  | some a =>
    refine sameMarkup_stable.join ?_
    simp [hbefore, hafter, hf]

end Fragments

theorem plain_orWhenEmpty {fragment otherwise : String} (h : Plain fragment)
    (hotherwise : Plain otherwise) : Plain (orWhenEmpty fragment otherwise) := by
  unfold orWhenEmpty
  split
  · exact hotherwise
  · exact h

@[simp] theorem orDash_inert {α : Type} [ToString α] (h : ∀ a : α, Inert (toString a))
    (o : Option α) : Inert (orDash o) := inert_getD h (inert_literal rfl (by decide)) o

/-! ## Items of texts -/

theorem evidenceItem_same (item : Evidence) :
    SameItem (evidenceItem item) (evidenceItem (shape item)) := by
  refine sameItem_join (by decide) ?_
  simp
  split_ands <;> exact closed_literal rfl (by decide)

theorem codeItem_same (a b : String) : SameItem (codeItem a) (codeItem b) := by
  refine sameItem_join (by decide) ?_
  simp
  split_ands <;> exact closed_literal rfl (by decide)

theorem textItem_same (a b : String) : SameItem (textItem a) (textItem b) := by
  refine sameItem_join (by decide) ?_
  simp
  split_ands <;> exact closed_literal rfl (by decide)

theorem none_closed : Closed "<li>None.</li>" := closed_literal rfl (by decide)

theorem texts_markup (l : List String) :
    SameMarkup (fragments textItem l) (fragments textItem (shape l)) :=
  fragments_markup (forall₂_shape (fun a => textItem_same a (shape a)) l)

theorem textsOrNone_markup (l : List String) :
    SameMarkup (orWhenEmpty (fragments textItem l) "<li>None.</li>")
      (orWhenEmpty (fragments textItem (shape l)) "<li>None.</li>") :=
  orWhenEmpty_markup none_closed (forall₂_shape (fun a => textItem_same a (shape a)) l)

/-! ## Findings -/

theorem findingTag_same (severity : Severity) :
    SameItem (findingTag severity) (findingTag severity) := by
  have hne : findingTag severity ≠ "" := join_ne_empty (by decide) _
  refine ⟨hne, hne, ?_⟩
  -- The class is within the quotes of the tag, which the parts around it leave open.
  exact ⟨by cases severity <;> decide, rfl⟩

theorem findingArticle_same (finding : Finding) :
    SameItem (findingArticle finding) (findingArticle (shape finding)) := by
  have htag := findingTag_same finding.severity
  have hclosed : Closed (findingTag finding.severity) := htag.same.1
  have hevidence := fragments_markup (forall₂_shape evidenceItem_same finding.evidence)
  have hbefore : Closed "<p><strong>Remediation:</strong> " := closed_literal rfl (by decide)
  have hafter : Closed "</p>" := closed_literal rfl (by decide)
  have hremediation := optional_markup hbefore hafter plain_escapeHtml finding.remediation
  have hreferences := orWhenEmpty_markup none_closed
    (forall₂_shape (fun a => codeItem_same a (shape a)) finding.references)
  refine sameItem_join htag.left ?_
  simp [hclosed, hevidence, hremediation, hreferences]
  split_ands <;> exact closed_literal rfl (by decide)

/-! ## DNS -/

theorem cnameItem_same (hop : CnameHop) : SameItem (cnameItem hop) (cnameItem (shape hop)) := by
  refine sameItem_join (by decide) ?_
  simp
  split_ands <;> exact closed_literal rfl (by decide)

theorem danglingItem_same (observation : DanglingCnameObservation) :
    SameItem (danglingItem observation) (danglingItem (shape observation)) := by
  have hempty : Closed "<li>No conclusive evidence retained.</li>" := closed_literal rfl (by decide)
  have hevidence := orWhenEmpty_markup hempty
    (forall₂_shape (fun a => textItem_same a (shape a)) observation.evidence)
  have herrors := texts_markup observation.errors
  have hlimitations := texts_markup observation.limitations
  refine sameItem_join (by decide) ?_
  simp [hevidence, herrors, hlimitations]
  split_ands <;> exact closed_literal rfl (by decide)

theorem danglingSection_markup (observations : List DanglingCnameObservation) :
    SameMarkup (danglingSection observations) (danglingSection (shape observations)) := by
  have hitems := fragments_markup (forall₂_shape danglingItem_same observations)
  unfold danglingSection
  rw [shape_isEmpty]
  split
  · exact sameMarkup_literal rfl (by decide)
  refine sameMarkup_stable.join ?_
  simp [hitems]
  split_ands <;> exact closed_literal rfl (by decide)

theorem resolvedRow_same (host : ResolvedHost) :
    SameItem (resolvedRow host) (resolvedRow (shape host)) := by
  refine sameItem_join (by decide) ?_
  simp
  split_ands <;> exact closed_literal rfl (by decide)

theorem axfrRow_same (limits : AxfrLimits) (attempt : AxfrAttempt) :
    SameItem (axfrRow limits attempt) (axfrRow limits (shape attempt)) := by
  refine sameItem_join (by decide) ?_
  simp
  split_ands <;> exact closed_literal rfl (by decide)

theorem axfrSection_markup (axfr : Option AuthoritativeAxfrObservation) :
    SameMarkup (axfrSection axfr) (axfrSection (shape axfr)) := by
  cases axfr with
  | none => exact sameMarkup_literal rfl (by decide)
  | some axfr =>
    have hempty : Closed "<tr><td colspan=\"8\">No endpoint attempts.</td></tr>" :=
      closed_literal rfl (by decide)
    have hattempts := orWhenEmpty_markup hempty
      (forall₂_shape (axfrRow_same axfr.limits) axfr.attempts)
    refine sameMarkup_stable.join ?_
    simp [hattempts]
    split_ands <;> exact closed_literal rfl (by decide)

theorem wildcardSection_markup (wildcard : Option WildcardDnsObservation) :
    SameMarkup (wildcardSection wildcard) (wildcardSection (shape wildcard)) := by
  cases wildcard with
  | none => exact sameMarkup_literal rfl (by decide)
  | some wildcard =>
    have hfingerprints := orWhenEmpty_markup none_closed
      (forall₂_shape (fun a => codeItem_same a (shape a)) wildcard.answerFingerprints)
    have herrors := textsOrNone_markup wildcard.errors
    have hlimitations := textsOrNone_markup wildcard.limitations
    refine sameMarkup_stable.join ?_
    simp [hfingerprints, herrors, hlimitations]
    split_ands <;> exact closed_literal rfl (by decide)

theorem rrsetItem_same (rrset : DnssecRrsetObservation) :
    SameItem (rrsetItem rrset) (rrsetItem (shape rrset)) := by
  refine sameItem_join (by decide) ?_
  simp
  split_ands <;> exact closed_literal rfl (by decide)

theorem dnssecSection_markup (dnssec : Option DnssecObservation) :
    SameMarkup (dnssecSection dnssec) (dnssecSection (shape dnssec)) := by
  cases dnssec with
  | none => exact sameMarkup_literal rfl (by decide)
  | some dnssec =>
    have hempty : Closed "<li>None completed.</li>" := closed_literal rfl (by decide)
    have hchecked := orWhenEmpty_markup hempty (forall₂_shape rrsetItem_same dnssec.checkedRrsets)
    have herrors := textsOrNone_markup dnssec.errors
    have hlimitations := textsOrNone_markup dnssec.limitations
    refine sameMarkup_stable.join ?_
    simp [hchecked, herrors, hlimitations]
    split_ands <;> exact closed_literal rfl (by decide)

theorem dnsSection_markup (debugRecord : DnsRecord → String) (dns : Option DnsObservation) :
    SameMarkup (dnsSection debugRecord dns) (dnsSection debugRecord (shape dns)) := by
  cases dns with
  | none => exact sameMarkup_literal rfl (by decide)
  | some dns =>
    have hrecords :
        SameMarkup (fragments (fun record => codeItem (debugRecord record)) dns.records)
          (fragments (fun record => codeItem (debugRecord record)) (shape dns.records)) :=
      fragments_markup (forall₂_shape (fun _ => codeItem_same _ _) dns.records)
    have hempty : Closed "<li>None observed.</li>" := closed_literal rfl (by decide)
    have hchain := orWhenEmpty_markup hempty (forall₂_shape cnameItem_same dns.cnameChain)
    have hdangling := danglingSection_markup dns.danglingCnames
    have hresolved := fragments_markup (forall₂_shape resolvedRow_same dns.resolvedHosts)
    have hdnssec := dnssecSection_markup dns.dnssec
    have haxfr := axfrSection_markup dns.authoritativeAxfr
    have hwildcard := wildcardSection_markup dns.wildcardDns
    refine sameMarkup_stable.join ?_
    simp [hrecords, hchain, hdangling, hresolved, hdnssec, haxfr, hwildcard]
    split_ands <;> exact closed_literal rfl (by decide)

/-! ## Hosts and services -/

theorem portItem_same {port : PortProjection} (htransport : Inert port.transport)
    (hstate : Inert port.state) : SameItem (portItem port) (portItem port) := by
  refine sameItem_join (by decide) ?_
  simp [htransport, hstate]
  split_ands <;> exact closed_literal rfl (by decide)

theorem hostArticle_same (report : ScanReport) (host : HostObservation) :
    SameItem (hostArticle report host) (hostArticle (shape report) (shape host)) := by
  have hports : SameMarkup (fragments portItem (ports report host))
      (fragments portItem (ports (shape report) (shape host))) := by
    rw [ports_shape]
    refine fragments_markup (List.forall₂_same.mpr fun port hport => ?_)
    obtain ⟨htransport, hstate, _⟩ := ports_inert hport
    exact portItem_same htransport hstate
  refine sameItem_join (by decide) ?_
  simp [hports]
  split_ands <;> exact closed_literal rfl (by decide)

theorem detailText_plain (detail : String × String) : Plain (detailText detail) := by
  refine plain_join ?_
  simp only [List.forall_mem_cons]
  exact ⟨plain_escapeHtml _, by decide, plain_escapeHtml _, by simp⟩

theorem serviceRow_same (service : ServiceObservation) :
    SameItem (serviceRow service) (serviceRow (shape service)) := by
  have hdetails (details : OrdMap String String) :
      Plain (orWhenEmpty (", ".intercalate (details.entries.map detailText)) "—") := by
    refine plain_orWhenEmpty (plain_intercalate (by decide) fun text htext => ?_) (by decide)
    obtain ⟨detail, _, rfl⟩ := List.mem_map.mp htext
    exact detailText_plain detail
  refine sameItem_join (by decide) ?_
  simp [hdetails]
  split_ands <;> exact closed_literal rfl (by decide)

theorem selectionsParagraph_markup {posture : SshProjection} (hstatus : Inert posture.status) :
    SameMarkup (selectionsParagraph posture) (selectionsParagraph (shape posture)) := by
  have hkex : (shape posture).selections.kex.isSome = posture.selections.kex.isSome :=
    shape_isSome _
  unfold selectionsParagraph
  rw [hkex]
  split
  · refine sameMarkup_stable.join ?_
    simp [hstatus]
    split_ands <;> exact closed_literal rfl (by decide)
  · exact sameMarkup_literal rfl (by decide)

theorem sshEntry_same (service : ServiceObservation) {posture : SshProjection}
    (hstatus : Inert posture.status) :
    SameItem (sshEntry service posture) (sshEntry (shape service) (shape posture)) := by
  have hselections := selectionsParagraph_markup hstatus
  have hbefore : Closed "<p><strong>Skip reason (bounded):</strong> <code>" :=
    closed_literal rfl (by decide)
  have hafter : Closed "</code></p>" := closed_literal rfl (by decide)
  have hreason := optional_markup hbefore hafter
    (fun reason => plain_escapeHtml (boundedSshValue (some reason))) posture.reason
  refine sameItem_join (by decide) ?_
  simp [hstatus, hselections, hreason]
  split_ands <;> exact closed_literal rfl (by decide)

theorem sshSection_markup (services : List ServiceObservation) :
    SameMarkup (sshSection services) (sshSection (shape services)) := by
  have hentries : List.Forall₂ SameItem
      (services.filterMap fun service => (ssh service).map (sshEntry service))
      ((shape services).filterMap fun service => (ssh service).map (sshEntry service)) := by
    refine List.rel_filterMap ?_ (forall₂_shape (R := fun a b => b = shape a) (fun _ => rfl) _)
    rintro service _ rfl
    change Option.Rel SameItem ((ssh service).map (sshEntry service))
      ((ssh (shape service)).map (sshEntry (shape service)))
    rw [ssh_shape]
    cases hssh : ssh service with
    | none => exact .none
    | some posture => exact .some (sshEntry_same service (ssh_status_inert hssh))
  have hjoined := sameMarkup_items hentries
  unfold sshSection
  simp only
  rw [isEmpty_items hentries]
  split
  · exact sameMarkup_stable.empty
  refine sameMarkup_stable.join ?_
  simp [hjoined]
  split_ands <;> exact closed_literal rfl (by decide)

/-! ## HTTP and TLS -/

theorem redirectItem_same (redirect : RedirectObservation) :
    SameItem (redirectItem redirect) (redirectItem (shape redirect)) := by
  refine sameItem_join (by decide) ?_
  simp
  split_ands <;> exact closed_literal rfl (by decide)

theorem headerItem_same (a b : String × String) : SameItem (headerItem a) (headerItem b) := by
  refine sameItem_join (by decide) ?_
  simp
  split_ands <;> exact closed_literal rfl (by decide)

theorem headerItems_same (headers : OrdMap String String) :
    List.Forall₂ (fun a b => SameItem (headerItem a) (headerItem b)) headers.entries
      (shape headers).entries := by
  refine List.forall₂_iff_zip.mpr ⟨?_, fun _ => headerItem_same _ _⟩
  change headers.size = ((List.range headers.size).map _).length
  rw [List.length_map, List.length_range]

theorem cookieItem_same (cookie : CookieObservation) :
    SameItem (cookieItem cookie) (cookieItem (shape cookie)) := by
  refine sameItem_join (by decide) ?_
  simp
  split_ands <;> exact closed_literal rfl (by decide)

theorem httpArticle_same (http : HttpObservation) :
    SameItem (httpArticle http) (httpArticle (shape http)) := by
  have hredirects := orWhenEmpty_markup none_closed
    (forall₂_shape redirectItem_same http.redirects)
  have hretained : Closed "<li>None retained.</li>" := closed_literal rfl (by decide)
  have hheaders := orWhenEmpty_markup hretained (headerItems_same http.headers)
  have hcookies := orWhenEmpty_markup none_closed (forall₂_shape cookieItem_same http.cookies)
  have hbefore : Closed "<p class=\"error\"><strong>Error:</strong> " :=
    closed_literal rfl (by decide)
  have hafter : Closed "</p>" := closed_literal rfl (by decide)
  have herror := optional_markup hbefore hafter plain_escapeHtml http.error
  have hstatus (status : Option Nat) : Inert ((status.map toString).getD "error") :=
    inert_getD (fun n => inert_nat n) (inert_literal rfl (by decide)) status
  have htruncated (b : Bool) : Inert (if b then " (truncated)" else "") :=
    inert_ite (inert_literal rfl (by decide)) (inert_literal rfl (by decide))
  refine sameItem_join (by decide) ?_
  simp [hredirects, hheaders, hcookies, herror, hstatus, htruncated]
  split_ands <;> exact closed_literal rfl (by decide)

theorem yesNo_inert (b : Bool) : Inert (if b then "yes" else "no") :=
  inert_ite (inert_literal rfl (by decide)) (inert_literal rfl (by decide))

theorem tlsRow_same (tls : TlsObservation) : SameItem (tlsRow tls) (tlsRow (shape tls)) := by
  have hjoined (sep : String) (hsep : Plain sep) (texts : List String) :
      Plain (orWhenEmpty (sep.intercalate (texts.map escapeHtml)) "—") := by
    refine plain_orWhenEmpty (plain_intercalate hsep fun text htext => ?_) (by decide)
    obtain ⟨value, _, rfl⟩ := List.mem_map.mp htext
    exact plain_escapeHtml value
  have hnames := hjoined ", " (by decide)
  have herrors := hjoined "; " (by decide)
  have hpassed (b : Bool) : Inert (if b then "passed" else "failed") :=
    inert_ite (inert_literal rfl (by decide)) (inert_literal rfl (by decide))
  refine sameItem_join (by decide) ?_
  simp [hpassed, hnames, herrors, yesNo_inert]
  split_ands <;> exact closed_literal rfl (by decide)

/-! ## Errors, intelligence and score -/

theorem errorItem_same (error : ScanError) :
    SameItem (errorItem error) (errorItem (shape error)) := by
  have hbefore : Closed "<code>" := closed_literal rfl (by decide)
  have hafter : Closed "</code>: " := closed_literal rfl (by decide)
  have htarget := optional_markup hbefore hafter plain_escapeHtml error.target
  refine sameItem_join (by decide) ?_
  simp [htarget]
  split_ands <;> exact closed_literal rfl (by decide)

theorem ctRow_same (candidate : CertificateTransparencyCandidate) :
    SameItem (ctRow candidate) (ctRow (shape candidate)) := by
  refine sameItem_join (by decide) ?_
  simp [yesNo_inert]
  split_ands <;> exact closed_literal rfl (by decide)

theorem ctDnsGroups_inert : ∀ group ∈ ctDnsGroups, Inert group.2 := by
  simp only [ctDnsGroups, List.forall_mem_cons]
  refine ⟨?_, ?_, ?_, ?_, ?_, by simp⟩
  all_goals exact inert_literal rfl (by decide)

/-- A label is shown when a candidate of its status is there. -/
theorem ctGroup_rel {group : CertificateTransparencyDnsStatus × String} (hgroup : Inert group.2)
    (candidates : List CertificateTransparencyCandidate) :
    Option.Rel SameMarkup (ctGroup candidates group) (ctGroup (shape candidates) group) := by
  have hfilter : (shape candidates).filter (fun candidate => candidate.dnsStatus = group.1) =
      shape (candidates.filter fun candidate => candidate.dnsStatus = group.1) := List.filter_map ..
  have hitems := forall₂_items (forall₂_shape ctRow_same
    (candidates.filter fun candidate => candidate.dnsStatus = group.1))
  have hrows := sameMarkup_items hitems
  unfold ctGroup fragments
  rw [hfilter]
  simp only
  rw [isEmpty_items hitems]
  split
  · exact .none
  refine .some (sameMarkup_stable.join ?_)
  simp [hgroup, hrows]
  split_ands <;> exact closed_literal rfl (by decide)

theorem ctSection_markup (observation : Option CertificateTransparencyObservation) :
    SameMarkup (ctSection observation) (ctSection (shape observation)) := by
  cases observation with
  | none => exact sameMarkup_literal rfl (by decide)
  | some observation =>
    have hcandidates :
        SameMarkup (join (ctDnsGroups.filterMap (ctGroup observation.candidates)))
          (join (ctDnsGroups.filterMap (ctGroup (shape observation.candidates)))) := by
      refine sameMarkup_stable.join (List.rel_filterMap (R := fun a b => a = b ∧ Inert a.2) ?_ ?_)
      · rintro group _ ⟨rfl, hgroup⟩
        exact ctGroup_rel hgroup observation.candidates
      · exact List.forall₂_same.mpr fun group hgroup => ⟨rfl, ctDnsGroups_inert group hgroup⟩
    have hlimitations := texts_markup observation.errors
    refine sameMarkup_stable.join ?_
    simp [hcandidates, hlimitations]
    split_ands <;> exact closed_literal rfl (by decide)

theorem relatedArticle_same (candidate : RelatedDomainCandidate) :
    SameItem (relatedArticle candidate) (relatedArticle (shape candidate)) := by
  have hevidence := texts_markup candidate.evidence
  refine sameItem_join (by decide) ?_
  simp [hevidence]
  split_ands <;> exact closed_literal rfl (by decide)

theorem relatedSection_markup (related : Option RelatedDomainsObservation) :
    SameMarkup (relatedSection related) (relatedSection (shape related)) := by
  cases related with
  | none => exact sameMarkup_literal rfl (by decide)
  | some related =>
    have hempty : Closed "<p>No candidates returned.</p>" := closed_literal rfl (by decide)
    have hcandidates := orWhenEmpty_markup hempty
      (forall₂_shape relatedArticle_same related.candidates)
    have herrors := texts_markup related.errors
    refine sameMarkup_stable.join ?_
    simp [hcandidates, herrors]
    split_ands <;> exact closed_literal rfl (by decide)

theorem skippedItem_same (skipped : SkippedCheck) :
    SameItem (skippedItem skipped) (skippedItem (shape skipped)) := by
  refine sameItem_join (by decide) ?_
  simp
  split_ands <;> exact closed_literal rfl (by decide)

theorem deductionItem_same (deduction : ScoreDeduction) :
    SameItem (deductionItem deduction) (deductionItem (shape deduction)) := by
  refine sameItem_join (by decide) ?_
  simp
  split_ands <;> exact closed_literal rfl (by decide)

theorem scoreSection_markup (scoreIncomplete : Bool) (score : Option ExposureScore) :
    SameMarkup (scoreSection scoreIncomplete score)
      (scoreSection scoreIncomplete (shape score)) := by
  cases score with
  | none => exact sameMarkup_literal rfl (by decide)
  | some score =>
    have hincomplete : Closed (if scoreIncomplete then
        "<p><strong>Incomplete scan: score interpretation is limited.</strong></p>" else "") := by
      split <;> exact closed_literal rfl (by decide)
    have hdeductions := fragments_markup (forall₂_shape deductionItem_same score.deductions)
    refine sameMarkup_stable.join ?_
    simp [hincomplete, hdeductions]
    split_ands <;> exact closed_literal rfl (by decide)

/-! ## The page -/

theorem htmlStyle_markup : SameMarkup htmlStyle htmlStyle := by
  refine sameMarkup_stable.join ?_
  repeat' first | exact List.Forall₂.nil | apply List.Forall₂.cons
  all_goals exact sameMarkup_literal rfl (by decide)

theorem htmlHeader_markup (displayTime : OffsetDateTime → String) (report : ScanReport) :
    SameMarkup (htmlHeader displayTime report) (htmlHeader displayTime (shape report)) := by
  have hstyle := htmlStyle_markup
  have hscore (score : Option ExposureScore) :
      Inert ((score.map fun score => score.value.repr ++ "/100").getD "—") := by
    have htotal : Inert "/100" := inert_literal rfl (by decide)
    refine inert_getD (fun score => Inert.append ?_ htotal) (inert_literal rfl (by decide)) score
    exact inert_nat score.value
  refine sameMarkup_stable.join ?_
  simp [hstyle, hscore]
  split_ands <;> exact closed_literal rfl (by decide)

theorem htmlSections_markup (debugRecord : DnsRecord → String) (report : ScanReport) :
    SameMarkup (htmlSections debugRecord report) (htmlSections debugRecord (shape report)) := by
  have hnoFindings : Closed "<p>No findings generated.</p>" := closed_literal rfl (by decide)
  have hnoHosts : Closed "<p>No hosts observed.</p>" := closed_literal rfl (by decide)
  have hnoHttp : Closed "<p>No HTTP endpoints observed.</p>" := closed_literal rfl (by decide)
  have hfindings := orWhenEmpty_markup hnoFindings
    (forall₂_shape findingArticle_same report.findings)
  have hdns := dnsSection_markup debugRecord report.dns
  have hhosts := orWhenEmpty_markup hnoHosts (forall₂_shape
    (R := fun a b => SameItem (hostArticle report a) (hostArticle (shape report) b))
    (hostArticle_same report) report.hosts)
  have hservices := fragments_markup (forall₂_shape serviceRow_same report.services)
  have hssh := sshSection_markup report.services
  have hhttp := orWhenEmpty_markup hnoHttp (forall₂_shape httpArticle_same report.http)
  have htls := fragments_markup (forall₂_shape tlsRow_same report.tls)
  have hct := ctSection_markup
    (report.intelligence.bind IntelligenceObservation.certificateTransparency)
  have hrelated := relatedSection_markup
    (report.intelligence.bind IntelligenceObservation.relatedDomains)
  have hscore := scoreSection_markup (lifecycle report).scoreIncomplete report.exposureScore
  have herrors := orWhenEmpty_markup none_closed (forall₂_shape errorItem_same report.errors)
  have hskipped := orWhenEmpty_markup none_closed
    (forall₂_shape skippedItem_same report.skippedChecks)
  refine sameMarkup_stable.join ?_
  simp [hfindings, hdns, hhosts, hservices, hssh, hhttp, htls, hct, hrelated, hscore, herrors,
    hskipped]
  split_ands <;> exact closed_literal rfl (by decide)

theorem htmlFooter_markup (report : ScanReport) :
    SameMarkup (htmlFooter report) (htmlFooter (shape report)) := by
  refine sameMarkup_stable.join ?_
  simp
  split_ands <;> exact closed_literal rfl (by decide)

theorem renderHtml_shape (displayTime : OffsetDateTime → String) (debugRecord : DnsRecord → String)
    (report : ScanReport) :
    SameMarkup (renderHtml displayTime debugRecord report)
      (renderHtml displayTime debugRecord (shape report)) := by
  refine sameMarkup_stable.join (.cons ?_ (.cons ?_ (.cons ?_ .nil)))
  · exact htmlHeader_markup displayTime report
  · exact htmlSections_markup debugRecord report
  · exact htmlFooter_markup report

/-! ## Comparisons -/

theorem changeRow_same (change : Change) :
    SameItem (changeRow change) (changeRow (shape change)) := by
  refine sameItem_join (by decide) ?_
  simp
  split_ands <;> exact closed_literal rfl (by decide)

theorem allChanges_shape (diff : ScanDiff) : (shape diff).allChanges = shape diff.allChanges := by
  have hscore : (shape diff.scoreChange).toList = shape diff.scoreChange.toList := by
    cases diff.scoreChange <;> rfl
  change _ = List.map shape _
  unfold ScanDiff.allChanges
  rw [List.map_append, List.map_append, List.map_append, List.map_append, List.map_append,
    List.map_append]
  change _ ++ (shape diff.scoreChange).toList = _
  rw [hscore]
  rfl

theorem renderDiffHtml_shape (diff : ScanDiff) :
    SameMarkup (renderDiffHtml diff) (renderDiffHtml (shape diff)) := by
  have hempty : Closed "<tr><td colspan=\"4\">No semantic changes.</td></tr>" :=
    closed_literal rfl (by decide)
  have hrows := orWhenEmpty_markup hempty (forall₂_shape changeRow_same diff.allChanges)
  rw [← allChanges_shape] at hrows
  refine sameMarkup_stable.join ?_
  simp [hrows]
  split_ands <;> exact closed_literal rfl (by decide)

/-! ## Strings cannot inject markup -/

/-- The markup of a report, and that of a comparison, is the same for any two that differ in the
contents of strings only, and no tag of it is left open. -/
theorem renderHtml_markup :
    (∀ (displayTime : OffsetDateTime → String) (debugRecord : DnsRecord → String)
      (report report' : ScanReport), shape report = shape report' →
      SameMarkup (renderHtml displayTime debugRecord report)
        (renderHtml displayTime debugRecord report')) ∧
    ∀ diff diff' : ScanDiff, shape diff = shape diff' →
      SameMarkup (renderDiffHtml diff) (renderDiffHtml diff') := by
  refine ⟨fun displayTime debugRecord report report' h => ?_, fun diff diff' h => ?_⟩
  · have hreport := renderHtml_shape displayTime debugRecord report
    have hreport' := renderHtml_shape displayTime debugRecord report'
    rw [← h] at hreport'
    exact hreport.trans hreport'.symm
  · have hdiff := renderDiffHtml_shape diff
    have hdiff' := renderDiffHtml_shape diff'
    rw [← h] at hdiff'
    exact hdiff.trans hdiff'.symm

/-- A target that would close the title of the page and open a script. -/
def injectingReport : ScanReport :=
  { fixtureReport with
    target := { fixtureTarget with original := "</title><script>alert(1)</script>" } }

def injectingDiff : ScanDiff :=
  compareReports injectingReport injectingReport "</code><script>" "</code><script>"

theorem renderHtml_markup_injecting :
    SameMarkup (renderHtml (fun _ => "1970-01-01 0:00:00.0 +00:00:00") (fun _ => "") injectingReport)
      (renderHtml (fun _ => "1970-01-01 0:00:00.0 +00:00:00") (fun _ => "") fixtureReport) ∧
    SameMarkup (renderDiffHtml injectingDiff)
      (renderDiffHtml { injectingDiff with
        newScan := { injectingDiff.newScan with target := "example.com" } }) :=
  ⟨renderHtml_markup.1 _ _ injectingReport fixtureReport rfl,
    renderHtml_markup.2 injectingDiff _ rfl⟩

end Surface

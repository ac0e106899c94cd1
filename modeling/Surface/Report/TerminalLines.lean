import Surface.Report.Shape
import Surface.Report.RenderTerminal

/-!
# Surface.Report.TerminalLines

What is written to the terminal is clean, and its number of lines depends on no string of the
report.

As for the markup of a page, each section is compared with the same section of the report whose
strings are erased.
-/

namespace Surface

open Shape (shape)

/-! ## Lists and options -/

section Fragments

variable {α : Type} [Shape α] {f : α → String}

theorem fragments_lines (h : ∀ a, SameLines (f a) (f (shape a))) (l : List α) :
    SameLines (fragments f l) (fragments f (shape l)) :=
  sameLines_stable.fragments (forall₂_shape h l)

/-- Lines under a heading, if there are any. -/
theorem section_lines {l : List α} {shown shown' otherwise : String}
    (hotherwise : Clean otherwise) (h : SameLines shown shown') :
    SameLines (if l.isEmpty then otherwise else shown)
      (if (shape l).isEmpty then otherwise else shown') := by
  rw [shape_isEmpty]
  split
  · exact sameLines_self.mpr hotherwise
  · exact h

/-- A line that is written if its value is there. -/
theorem optional_lines {before : String} (hbefore : Clean before)
    (hf : ∀ a, Flat (f a)) (o : Option α) :
    SameLines ((o.map fun a => join [before, f a, "\n"]).getD "")
      (((shape o).map fun a => join [before, f a, "\n"]).getD "") := by
  cases o with
  | none => exact sameLines_stable.empty
  | some a =>
    refine sameLines_stable.join ?_
    simp [hbefore, hf]
    exact clean_literal rfl (by decide)

end Fragments

/-! ## Texts -/

@[simp] theorem orUnknown_inert {α : Type} [ToString α] (h : ∀ a : α, Inert (toString a))
    (o : Option α) : Inert (orUnknown o) := inert_getD h (inert_literal rfl (by decide)) o

@[simp] theorem terminalSshValue_flat (value : Option String) : Flat (terminalSshValue value) :=
  cleanTerminal_flat _

/-! ## Hosts -/

theorem portLine_same {port : PortProjection} (htransport : Inert port.transport)
    (hstate : Inert port.state) (hservice : Inert port.service) :
    SameLines (portLine port) (portLine port) := by
  refine sameLines_stable.join ?_
  simp [htransport, hstate, hservice]
  split_ands <;> exact clean_literal rfl (by decide)

theorem hostLines_same (report : ScanReport) (host : HostObservation) :
    SameLines (hostLines report host) (hostLines (shape report) (shape host)) := by
  have hports : SameLines (fragments portLine (ports report host))
      (fragments portLine (ports (shape report) (shape host))) := by
    rw [ports_shape]
    refine sameLines_stable.fragments (List.forall₂_same.mpr fun port hport => ?_)
    obtain ⟨htransport, hstate, hservice⟩ := ports_inert hport
    exact portLine_same htransport hstate hservice
  refine sameLines_stable.join ?_
  simp [hports]
  split_ands <;> exact clean_literal rfl (by decide)

theorem hostsSection_same (report : ScanReport) :
    SameLines (hostsSection report) (hostsSection (shape report)) := by
  have hhosts : SameLines (fragments (hostLines report) report.hosts)
      (fragments (hostLines (shape report)) (shape report.hosts)) := by
    refine sameLines_stable.fragments (List.forall₂_map_right_iff.mpr ?_)
    exact List.forall₂_same.mpr fun host _ => hostLines_same report host
  refine section_lines clean_empty (sameLines_stable.join ?_)
  simp [hhosts]
  split_ands <;> exact clean_literal rfl (by decide)

/-! ## SSH -/

theorem selectionLines_same {posture : SshProjection} (hstatus : Inert posture.status) :
    SameLines (selectionLines posture) (selectionLines (shape posture)) := by
  have hkex : (shape posture).selections.kex.isSome = posture.selections.kex.isSome :=
    shape_isSome _
  unfold selectionLines
  rw [hkex]
  split
  · refine sameLines_stable.join ?_
    simp [hstatus]
    split_ands <;> exact clean_literal rfl (by decide)
  · exact sameLines_literal rfl (by decide)

theorem sshLines_same (service : ServiceObservation) {posture : SshProjection}
    (hstatus : Inert posture.status) :
    SameLines (sshLines service posture) (sshLines (shape service) (shape posture)) := by
  have hselections := selectionLines_same hstatus
  have hbefore : Clean "    Banner: " := clean_literal rfl (by decide)
  have hbanner := optional_lines hbefore (fun banner => terminalSshValue_flat (some banner))
    service.banner
  have hskip : Clean "    Skip reason (bounded): " := clean_literal rfl (by decide)
  have hreason := optional_lines hskip (fun reason => terminalSshValue_flat (some reason))
    posture.reason
  refine sameLines_stable.join ?_
  simp [hstatus, hselections, hbanner, hreason]
  split_ands <;> exact clean_literal rfl (by decide)

theorem sshPostureSection_same (services : List ServiceObservation) :
    SameLines (sshPostureSection services) (sshPostureSection (shape services)) := by
  have hany : ((shape services).any fun service => service.ssh.isSome) =
      services.any fun service => service.ssh.isSome := by
    change (services.map shape).any _ = _
    rw [List.any_map]
    exact congrArg services.any (funext fun service => shape_isSome service.ssh)
  have hfilter : ((shape services).filter fun service => service.ssh.isSome) =
      shape (services.filter fun service => service.ssh.isSome) := by
    change (services.map shape).filter _ = _
    rw [List.filter_map]
    exact congrArg (fun p => (services.filter p).map shape)
      (funext fun service => shape_isSome service.ssh)
  have hlines (shown : List ServiceObservation) :
      SameLines (join (shown.filterMap fun service => (ssh service).map (sshLines service)))
        (join ((shape shown).filterMap fun service => (ssh service).map (sshLines service))) := by
    refine sameLines_stable.join (List.rel_filterMap ?_
      (forall₂_shape (R := fun a b => b = shape a) (fun _ => rfl) shown))
    rintro service _ rfl
    change Option.Rel SameLines ((ssh service).map (sshLines service))
      ((ssh (shape service)).map (sshLines (shape service)))
    rw [ssh_shape]
    cases hssh : ssh service with
    | none => exact .none
    | some posture => exact .some (sshLines_same service (ssh_status_inert hssh))
  unfold sshPostureSection
  rw [hany, hfilter]
  split
  · have hshown := hlines (services.filter fun service => service.ssh.isSome)
    refine sameLines_stable.join ?_
    simp [hlines]
    split_ands <;> exact clean_literal rfl (by decide)
  · exact sameLines_stable.empty

/-! ## HTTP and TLS -/

theorem redirectLine_same (redirect : RedirectObservation) :
    SameLines (redirectLine redirect) (redirectLine (shape redirect)) := by
  refine sameLines_stable.join ?_
  simp
  split_ands <;> exact clean_literal rfl (by decide)

theorem httpLines_same (http : HttpObservation) :
    SameLines (httpLines http) (httpLines (shape http)) := by
  -- The scheme decides whether the header is shown, within the line either way.
  have hhsts (http : HttpObservation) : Flat
      (if http.hstsState = .notApplicable then ""
        else join ["  HSTS=", hstsLabel http.hstsState]) := by
    split
    · exact (inert_literal rfl (by decide)).flat
    · refine flat_join ?_
      simp only [List.forall_mem_cons]
      exact ⟨(inert_literal rfl (by decide)).flat, by simp, by simp⟩
  have hstatus (status : Option Nat) : Inert ((status.map toString).getD "error") :=
    inert_getD (fun n => inert_nat n) (inert_literal rfl (by decide)) status
  have hredirects := fragments_lines redirectLine_same http.redirects
  refine sameLines_stable.join ?_
  simp [hhsts, hstatus, hredirects]
  split_ands <;> exact clean_literal rfl (by decide)

theorem httpSection_same (http : List HttpObservation) :
    SameLines (httpSection http) (httpSection (shape http)) := by
  have hlines := fragments_lines httpLines_same http
  refine section_lines clean_empty (sameLines_stable.join ?_)
  simp [hlines]
  split_ands <;> exact clean_literal rfl (by decide)

theorem limitationLine_same (a b : String) :
    SameLines (limitationLine a) (limitationLine b) := by
  refine sameLines_stable.join ?_
  simp
  split_ands <;> exact clean_literal rfl (by decide)

theorem tlsLines_same (tls : TlsObservation) :
    SameLines (tlsLines tls) (tlsLines (shape tls)) := by
  have hpassed (b : Bool) : Inert (if b then "passed" else "failed") :=
    inert_ite (inert_literal rfl (by decide)) (inert_literal rfl (by decide))
  have htruncated (b : Bool) : Inert (if b then " (truncated)" else "") :=
    inert_ite (inert_literal rfl (by decide)) (inert_literal rfl (by decide))
  have herrors := fragments_lines (fun a => limitationLine_same a (shape a)) tls.errors
  refine sameLines_stable.join ?_
  simp [hpassed, htruncated, herrors]
  split_ands <;> exact clean_literal rfl (by decide)

theorem tlsSection_same (tls : List TlsObservation) :
    SameLines (tlsSection tls) (tlsSection (shape tls)) := by
  have hlines := fragments_lines tlsLines_same tls
  refine section_lines clean_empty (sameLines_stable.join ?_)
  simp [hlines]
  split_ands <;> exact clean_literal rfl (by decide)

/-! ## Findings, intelligence and score -/

theorem severityColumn_inert (severity : Severity) :
    Inert (padRight 8 severity.debug.toUpper) := by
  have hupper : Inert severity.debug.toUpper := by
    unfold Inert String.toUpper
    rw [String.toList_map, ← List.all_eq_true]
    cases severity <;> decide
  refine hupper.append fun c hc => ?_
  rw [String.toList_ofList] at hc
  rw [List.eq_of_mem_replicate hc]
  decide

theorem findingLine_same (finding : Finding) :
    SameLines (findingLine finding) (findingLine (shape finding)) := by
  have hcolumn := severityColumn_inert
  refine sameLines_stable.join ?_
  simp [hcolumn]
  split_ands <;> exact clean_literal rfl (by decide)

theorem findingLines_same (findings : List Finding) :
    SameLines (findingLines findings) (findingLines (shape findings)) :=
  section_lines (clean_literal rfl (by decide)) (fragments_lines findingLine_same findings)

theorem candidateLine_same (candidate : CertificateTransparencyCandidate) :
    SameLines (candidateLine candidate) (candidateLine (shape candidate)) := by
  refine sameLines_stable.join ?_
  simp
  split_ands <;> exact clean_literal rfl (by decide)

theorem verifiedSubdomains_same (observation : Option CertificateTransparencyObservation) :
    SameLines (verifiedSubdomains observation) (verifiedSubdomains (shape observation)) := by
  cases observation with
  | none => exact sameLines_stable.empty
  | some observation =>
    have hlines := fragments_lines candidateLine_same
      (observation.candidates.filter fun candidate =>
        !candidate.wildcard && candidate.dnsStatus = .resolved)
    have hfilter : (shape observation.candidates).filter (fun candidate =>
        !candidate.wildcard && candidate.dnsStatus = .resolved) =
        shape (observation.candidates.filter fun candidate =>
          !candidate.wildcard && candidate.dnsStatus = .resolved) := List.filter_map ..
    rw [← hfilter] at hlines
    refine sameLines_stable.join ?_
    simp [hlines]
    split_ands <;> exact clean_literal rfl (by decide)

theorem providerLine_same (related : Option RelatedDomainsObservation) :
    SameLines (providerLine related) (providerLine (shape related)) := by
  have hprovider : (shape related).bind RelatedDomainsObservation.provider =
      shape (related.bind RelatedDomainsObservation.provider) := by
    cases related <;> rfl
  have hbefore : Clean "\nProvider: " := clean_literal rfl (by decide)
  unfold providerLine
  rw [hprovider]
  exact optional_lines hbefore cleanTerminal_flat _

theorem deductionLine_same (deduction : ScoreDeduction) :
    SameLines (deductionLine deduction) (deductionLine (shape deduction)) := by
  refine sameLines_stable.join ?_
  simp
  split_ands <;> exact clean_literal rfl (by decide)

theorem scoreLines_same (score : Option ExposureScore) :
    SameLines (scoreLines score) (scoreLines (shape score)) := by
  cases score with
  | none => exact sameLines_stable.empty
  | some score =>
    have hincomplete : Clean (if score.incomplete then
        "  Incomplete scan: score interpretation is limited.\n" else "") := by
      split <;> exact clean_literal rfl (by decide)
    have hdeductions := fragments_lines deductionLine_same score.deductions
    refine sameLines_stable.join ?_
    simp [hincomplete, hdeductions]
    split_ands <;> exact clean_literal rfl (by decide)

theorem skippedLine_same (skipped : SkippedCheck) :
    SameLines (skippedLine skipped) (skippedLine (shape skipped)) := by
  refine sameLines_stable.join ?_
  simp
  split_ands <;> exact clean_literal rfl (by decide)

theorem skippedLines_same (skippedChecks : List SkippedCheck) :
    SameLines (skippedLines skippedChecks) (skippedLines (shape skippedChecks)) := by
  have hlines := fragments_lines skippedLine_same skippedChecks
  refine section_lines clean_empty (sameLines_stable.join ?_)
  simp [hlines]
  exact clean_literal rfl (by decide)

theorem severityLine_same (findings : List Finding) (severity : Severity) :
    SameLines (severityLine findings severity) (severityLine (shape findings) severity) := by
  refine sameLines_stable.join ?_
  simp
  split_ands <;> exact clean_literal rfl (by decide)

theorem summaryLines_same (report : ScanReport) :
    SameLines (summaryLines report) (summaryLines (shape report)) := by
  have hseverities : SameLines
      (fragments (severityLine report.findings) [.critical, .high, .medium, .low, .info])
      (fragments (severityLine (shape report.findings)) [.critical, .high, .medium, .low, .info]) :=
    sameLines_stable.fragments (List.forall₂_same.mpr fun severity _ =>
      severityLine_same report.findings severity)
  have herrors : Clean (if 0 < (lifecycle report).errors then
      join ["  ", report.status.debug, " errors: ", (lifecycle report).errors.repr, "\n"]
        else "") := by
    rw [← sameLines_self]
    split
    · refine sameLines_stable.join ?_
      simp
      split_ands <;> exact clean_literal rfl (by decide)
    · exact sameLines_stable.empty
  refine sameLines_stable.join ?_
  simp [hseverities, herrors]
  exact clean_literal rfl (by decide)

/-! ## The report -/

theorem renderTerminal_shape {displayTime : OffsetDateTime → String}
    (htime : ∀ time, Flat (displayTime time)) (report : ScanReport) :
    SameLines (renderTerminal displayTime report) (renderTerminal displayTime (shape report)) := by
  have hhosts := hostsSection_same report
  have hssh := sshPostureSection_same report.services
  have hhttp := httpSection_same report.http
  have htls := tlsSection_same report.tls
  have hfindings := findingLines_same report.findings
  have hct := verifiedSubdomains_same
    (report.intelligence.bind IntelligenceObservation.certificateTransparency)
  have hprovider := providerLine_same
    (report.intelligence.bind IntelligenceObservation.relatedDomains)
  have hscore := scoreLines_same report.exposureScore
  have hskipped := skippedLines_same report.skippedChecks
  have hsummary := summaryLines_same report
  refine sameLines_stable.join ?_
  simp [hhosts, hssh, hhttp, htls, hfindings, hct, hprovider, hscore, hskipped, hsummary,
    htime]
  split_ands <;> exact clean_literal rfl (by decide)

/-! ## Comparisons -/

theorem changeMarker_inert (change : Change) : Inert (changeMarker change) := by
  obtain ⟨category, key, old, new⟩ := change
  cases old <;> cases new <;> exact inert_literal rfl (by decide)

theorem changeLine_same (change : Change) :
    SameLines (changeLine change) (changeLine (shape change)) := by
  have hmarker := changeMarker_inert
  refine sameLines_stable.join ?_
  simp [hmarker]
  split_ands <;> exact clean_literal rfl (by decide)

theorem changesSection_same {title : String} (htitle : Clean title)
    (changes : List Change) :
    SameLines (changesSection title changes) (changesSection title (shape changes)) := by
  have hlines := fragments_lines changeLine_same changes
  refine section_lines clean_empty (sameLines_stable.join ?_)
  simp [htitle, hlines]
  exact clean_literal rfl (by decide)

theorem warningLine_same (a b : String) : SameLines (warningLine a) (warningLine b) := by
  refine sameLines_stable.join ?_
  simp
  split_ands <;> exact clean_literal rfl (by decide)

theorem renderDiffTerminal_shape (diff : ScanDiff) :
    SameLines (renderDiffTerminal diff) (renderDiffTerminal (shape diff)) := by
  have hnetwork : Clean "Network" := clean_literal rfl (by decide)
  have hservices : Clean "Services and HTTP" := clean_literal rfl (by decide)
  have hcertificates : Clean "Certificates" := clean_literal rfl (by decide)
  have hdns : Clean "DNS and mail" := clean_literal rfl (by decide)
  have hfindings : Clean "Findings" := clean_literal rfl (by decide)
  have hcompleteness : Clean "Completeness" := clean_literal rfl (by decide)
  have hbefore : Clean "Exposure score changed: " := clean_literal rfl (by decide)
  have hscore := optional_lines hbefore
    (fun change : Change => cleanTerminal_flat change.evidence) diff.scoreChange
  have hwarnings := fragments_lines (fun a => warningLine_same a (shape a)) diff.warnings
  have hunchanged : Clean
      (if diff.summary.added = 0 ∧ diff.summary.removed = 0 ∧ diff.summary.changed = 0 then
        "No semantic changes.\n" else "") := by
    split <;> exact clean_literal rfl (by decide)
  refine sameLines_stable.join ?_
  simp [changesSection_same, hnetwork, hservices, hcertificates, hdns, hfindings, hcompleteness,
    hscore, hwarnings, hunchanged]
  split_ands <;> exact clean_literal rfl (by decide)

/-! ## Strings cannot forge lines -/

/-- What is written holds no control character but line feeds, and two reports, or two comparisons,
that differ in the contents of strings only are written on as many lines. -/
theorem renderTerminal_lines (displayTime : OffsetDateTime → String)
    (htime : ∀ time, Flat (displayTime time)) :
    ((∀ report, Clean (renderTerminal displayTime report)) ∧
      ∀ diff, Clean (renderDiffTerminal diff)) ∧
    (∀ report report' : ScanReport, shape report = shape report' →
      lineCount (renderTerminal displayTime report) =
        lineCount (renderTerminal displayTime report')) ∧
    ∀ diff diff' : ScanDiff, shape diff = shape diff' →
      lineCount (renderDiffTerminal diff) = lineCount (renderDiffTerminal diff') := by
  refine ⟨⟨fun report => (renderTerminal_shape htime report).1,
    fun diff => (renderDiffTerminal_shape diff).1⟩, fun report report' h => ?_,
    fun diff diff' h => ?_⟩
  · obtain ⟨_, _, hreport⟩ := renderTerminal_shape htime report
    obtain ⟨_, _, hreport'⟩ := renderTerminal_shape htime report'
    rw [hreport, h, hreport']
  · obtain ⟨_, _, hdiff⟩ := renderDiffTerminal_shape diff
    obtain ⟨_, _, hdiff'⟩ := renderDiffTerminal_shape diff'
    rw [hdiff, h, hdiff']

/-- A target that would clear the screen and write a line of its own. -/
def forgingReport : ScanReport :=
  { fixtureReport with
    target := { fixtureTarget with original := "example.com\x1b[2J\nStatus: Completed" } }

def forgingDiff : ScanDiff :=
  compareReports forgingReport forgingReport "example.com\nNetwork" "example.com\nNetwork"

theorem renderTerminal_lines_forging :
    ((Clean (renderTerminal (fun _ => "1970-01-01 0:00:00.0 +00:00:00") forgingReport)) ∧
      Clean (renderDiffTerminal forgingDiff)) ∧
    lineCount (renderTerminal (fun _ => "1970-01-01 0:00:00.0 +00:00:00") forgingReport) =
      lineCount (renderTerminal (fun _ => "1970-01-01 0:00:00.0 +00:00:00") fixtureReport) ∧
    lineCount (renderDiffTerminal forgingDiff) =
      lineCount (renderDiffTerminal { forgingDiff with
        newScan := { forgingDiff.newScan with target := "example.com" } }) :=
  have h := renderTerminal_lines (fun _ => "1970-01-01 0:00:00.0 +00:00:00")
    fun _ => (inert_literal rfl (by decide)).flat
  ⟨⟨h.1.1 _, h.1.2 _⟩, h.2.1 forgingReport fixtureReport rfl, h.2.2 forgingDiff _ rfl⟩

end Surface

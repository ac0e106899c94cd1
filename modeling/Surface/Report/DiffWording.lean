import Surface.Report.DiffSymmetry

/-!
# Surface.Report.DiffWording

Which wordings of errors a diff depends on.

* `ScanReport.eraseWording`: the report with every error text blanked, its place kept.
* `ScanReport.subdomainWording`: the error texts inside the DNS observations of the subdomains.
* `intelligenceValue_eq`: the compared value, written out without the fields that were removed.
* `diffReports_ignoresWording_iff`: reports that differ only in wording give no change exactly
  when they agree on the subdomain wording.
-/

namespace Surface

open Json

/-! ## Erasing texts -/

def blank (texts : List String) : List String := texts.map fun _ => ""

def ScanError.eraseWording (error : ScanError) : ScanError := { error with message := "" }

def DanglingCnameObservation.eraseWording (o : DanglingCnameObservation) :
    DanglingCnameObservation :=
  { o with errors := blank o.errors }

def DnssecObservation.eraseWording (o : DnssecObservation) : DnssecObservation :=
  { o with errors := blank o.errors }

def WildcardDnsObservation.eraseWording (o : WildcardDnsObservation) : WildcardDnsObservation :=
  { o with errors := blank o.errors }

def AxfrAttempt.eraseWording (attempt : AxfrAttempt) : AxfrAttempt :=
  { attempt with error := attempt.error.map fun _ => "" }

def AuthoritativeAxfrObservation.eraseWording (o : AuthoritativeAxfrObservation) :
    AuthoritativeAxfrObservation :=
  { o with attempts := o.attempts.map AxfrAttempt.eraseWording }

def DnsObservation.eraseWording (dns : DnsObservation) : DnsObservation :=
  { dns with
    danglingCnames := dns.danglingCnames.map DanglingCnameObservation.eraseWording
    dnssec := dns.dnssec.map DnssecObservation.eraseWording
    authoritativeAxfr := dns.authoritativeAxfr.map AuthoritativeAxfrObservation.eraseWording
    wildcardDns := dns.wildcardDns.map WildcardDnsObservation.eraseWording
    errors := dns.errors.map ScanError.eraseWording }

def SubdomainObservation.eraseWording (o : SubdomainObservation) : SubdomainObservation :=
  { o with
    dns := o.dns.map DnsObservation.eraseWording
    error := o.error.map fun _ => "" }

def RelatedDomainsObservation.eraseWording (o : RelatedDomainsObservation) :
    RelatedDomainsObservation :=
  { o with errors := blank o.errors }

def CertificateTransparencyObservation.eraseWording (o : CertificateTransparencyObservation) :
    CertificateTransparencyObservation :=
  { o with errors := blank o.errors }

def IntelligenceObservation.eraseWording (o : IntelligenceObservation) :
    IntelligenceObservation :=
  { o with
    subdomains := o.subdomains.map SubdomainObservation.eraseWording
    relatedDomains := o.relatedDomains.map RelatedDomainsObservation.eraseWording
    certificateTransparency :=
      o.certificateTransparency.map CertificateTransparencyObservation.eraseWording
    errors := blank o.errors }

def HttpObservation.eraseWording (http : HttpObservation) : HttpObservation :=
  { http with error := http.error.map fun _ => "" }

def ScanReport.eraseWording (report : ScanReport) : ScanReport :=
  { report with
    http := report.http.map HttpObservation.eraseWording
    intelligence := report.intelligence.map IntelligenceObservation.eraseWording
    errors := report.errors.map ScanError.eraseWording }

/-- The error texts inside a DNS observation. -/
structure DnsWording where
  messages : List String
  dangling : List (List String)
  dnssec : Option (List String)
  axfr : Option (List (Option String))
  wildcard : Option (List String)
deriving DecidableEq

def DnsObservation.wording (dns : DnsObservation) : DnsWording where
  messages := dns.errors.map ScanError.message
  dangling := dns.danglingCnames.map DanglingCnameObservation.errors
  dnssec := dns.dnssec.map DnssecObservation.errors
  axfr := dns.authoritativeAxfr.map fun o => o.attempts.map AxfrAttempt.error
  wildcard := dns.wildcardDns.map WildcardDnsObservation.errors

def ScanReport.subdomainWording (report : ScanReport) : Option (List (Option DnsWording)) :=
  report.intelligence.map fun intelligence =>
    intelligence.subdomains.map fun subdomain => subdomain.dns.map DnsObservation.wording

/-! ## Pointwise reasoning about lists and options -/

section Pointwise

variable {α β γ δ : Type} {f : α → β} {g : α → γ} {h : α → δ}

/-- What two views determine of every element they determine of the list. -/
theorem map_of_map_map (hstep : ∀ x y, f x = f y → g x = g y → h x = h y) {l l' : List α}
    (hf : l.map f = l'.map f) (hg : l.map g = l'.map g) : l.map h = l'.map h := by
  induction l generalizing l' with
  | nil =>
    rw [List.map_eq_nil_iff.mp hf.symm]
  | cons x l ih =>
    cases l' with
    | nil => simp at hf
    | cons y l' =>
      simp only [List.map_cons, List.cons.injEq] at hf hg ⊢
      exact ⟨hstep x y hf.1 hg.1, ih hf.2 hg.2⟩

theorem map_of_map (hstep : ∀ x y, f x = f y → g x = g y) {l l' : List α}
    (hf : l.map f = l'.map f) : l.map g = l'.map g :=
  map_of_map_map (fun x y hxy _ => hstep x y hxy) hf hf

theorem option_of_map_map (hstep : ∀ x y, f x = f y → g x = g y → h x = h y) {o o' : Option α}
    (hf : o.map f = o'.map f) (hg : o.map g = o'.map g) : o.map h = o'.map h := by
  cases o with
  | none =>
    cases o' with
    | none => rfl
    | some y => simp at hf
  | some x =>
    cases o' with
    | none => simp at hf
    | some y => simpa using hstep x y (by simpa using hf) (by simpa using hg)

/-- Equal JSON values of options whose values are never `null`. -/
theorem option_of_ofOption {f : α → Json} (hnull : ∀ a, f a ≠ .null)
    (hstep : ∀ x y, f x = f y → g x = g y) {o o' : Option α}
    (hf : ofOption f o = ofOption f o') : o.map g = o'.map g := by
  cases o with
  | none =>
    cases o' with
    | none => rfl
    | some y => exact absurd hf.symm (hnull y)
  | some x =>
    cases o' with
    | none => exact absurd hf (hnull x)
    | some y => exact congrArg some (hstep x y hf)

end Pointwise

/-! ## A DNS observation is its erasure and its wording -/

theorem dnssec_eq_of_wording {a b : DnssecObservation} (h : a.eraseWording = b.eraseWording)
    (hw : a.errors = b.errors) : a = b := by
  cases a
  cases b
  simp_all [DnssecObservation.eraseWording]

theorem wildcard_eq_of_wording {a b : WildcardDnsObservation}
    (h : a.eraseWording = b.eraseWording) (hw : a.errors = b.errors) : a = b := by
  cases a
  cases b
  simp_all [WildcardDnsObservation.eraseWording]

theorem dangling_eq_of_wording {a b : DanglingCnameObservation}
    (h : a.eraseWording = b.eraseWording) (hw : a.errors = b.errors) : a = b := by
  cases a
  cases b
  simp_all [DanglingCnameObservation.eraseWording]

theorem error_eq_of_wording {a b : ScanError} (h : a.eraseWording = b.eraseWording)
    (hw : a.message = b.message) : a = b := by
  cases a
  cases b
  simp_all [ScanError.eraseWording]

theorem attempt_eq_of_wording {a b : AxfrAttempt} (h : a.eraseWording = b.eraseWording)
    (hw : a.error = b.error) : a = b := by
  cases a
  cases b
  simp_all [AxfrAttempt.eraseWording]

theorem axfr_eq_of_wording {a b : AuthoritativeAxfrObservation}
    (h : a.eraseWording = b.eraseWording)
    (hw : a.attempts.map AxfrAttempt.error = b.attempts.map AxfrAttempt.error) : a = b := by
  have hattempts : a.attempts = b.attempts := by
    have herased := congrArg AuthoritativeAxfrObservation.attempts h
    simpa using map_of_map_map (h := id) (fun _ _ => attempt_eq_of_wording) herased hw
  cases a
  cases b
  simp_all [AuthoritativeAxfrObservation.eraseWording]

theorem DnsObservation.eq_of_wording {a b : DnsObservation}
    (h : a.eraseWording = b.eraseWording) (hw : a.wording = b.wording) : a = b := by
  have herrors : a.errors = b.errors := by
    simpa using map_of_map_map (h := id) (fun _ _ => error_eq_of_wording)
      (congrArg DnsObservation.errors h) (congrArg DnsWording.messages hw)
  have hdangling : a.danglingCnames = b.danglingCnames := by
    simpa using map_of_map_map (h := id) (fun _ _ => dangling_eq_of_wording)
      (congrArg DnsObservation.danglingCnames h) (congrArg DnsWording.dangling hw)
  have hdnssec : a.dnssec = b.dnssec := by
    simpa using option_of_map_map (h := id) (fun _ _ => dnssec_eq_of_wording)
      (congrArg DnsObservation.dnssec h) (congrArg DnsWording.dnssec hw)
  have haxfr : a.authoritativeAxfr = b.authoritativeAxfr := by
    simpa using option_of_map_map (h := id) (fun _ _ => axfr_eq_of_wording)
      (congrArg DnsObservation.authoritativeAxfr h) (congrArg DnsWording.axfr hw)
  have hwildcard : a.wildcardDns = b.wildcardDns := by
    simpa using option_of_map_map (h := id) (fun _ _ => wildcard_eq_of_wording)
      (congrArg DnsObservation.wildcardDns h) (congrArg DnsWording.wildcard hw)
  cases a
  cases b
  simp_all [DnsObservation.eraseWording]

/-! ## The JSON value of a DNS observation shows its wording -/

theorem strings_injective : Function.Injective strings := ofList_injective string_injective

theorem dnssec_errors_of_toJson {a b : DnssecObservation} (h : a.toJson = b.toJson) :
    a.errors = b.errors := by
  have hmembers := mapOf_members h rfl (by simp)
  simp only [List.cons.injEq, Prod.mk.injEq, true_and, and_true] at hmembers
  exact strings_injective hmembers.2.2.1

theorem wildcard_errors_of_toJson {a b : WildcardDnsObservation} (h : a.toJson = b.toJson) :
    a.errors = b.errors := by
  have hmembers := mapOf_members h rfl (by simp)
  simp only [List.cons.injEq, Prod.mk.injEq, true_and, and_true] at hmembers
  exact strings_injective hmembers.2.2.2.2.1

theorem dangling_errors_of_toJson {a b : DanglingCnameObservation} (h : a.toJson = b.toJson) :
    a.errors = b.errors := by
  have hmembers := mapOf_members h rfl (by simp)
  simp only [List.cons.injEq, Prod.mk.injEq, true_and, and_true] at hmembers
  exact strings_injective hmembers.2.2.2.2.1

theorem message_of_toJson {a b : ScanError} (h : a.toJson = b.toJson) : a.message = b.message := by
  have hmembers := mapOf_members h rfl (by simp)
  simp only [List.cons.injEq, Prod.mk.injEq, true_and, and_true, Json.string.injEq] at hmembers
  exact hmembers.2.2.2.1

theorem attempt_error_of_toJson {a b : AxfrAttempt} (h : a.toJson = b.toJson) :
    a.error = b.error := by
  have hmembers := mapOf_members h rfl (by simp)
  simp only [List.cons.injEq, Prod.mk.injEq, true_and, and_true] at hmembers
  exact ofOption_injective string_injective (fun _ h => (by cases h)) hmembers.2.2.2.2.2.2.2

theorem axfr_errors_of_toJson {a b : AuthoritativeAxfrObservation} (h : a.toJson = b.toJson) :
    a.attempts.map AxfrAttempt.error = b.attempts.map AxfrAttempt.error := by
  have hmembers := mapOf_members h rfl (by simp)
  simp only [List.cons.injEq, Prod.mk.injEq, true_and, and_true] at hmembers
  exact map_of_map (fun _ _ => attempt_error_of_toJson) (Json.array.inj hmembers.2.2.1)

theorem DnsObservation.wording_of_toJson {a b : DnsObservation} (h : a.toJson = b.toJson) :
    a.wording = b.wording := by
  have hmembers := mapOf_members h rfl (by simp)
  simp only [List.cons.injEq, Prod.mk.injEq, true_and, and_true] at hmembers
  obtain ⟨_, _, _, hdangling, _, _, hdnssec, haxfr, hwildcard, herrors⟩ := hmembers
  have hmessages : a.errors.map ScanError.message = b.errors.map ScanError.message :=
    map_of_map (fun _ _ => message_of_toJson) (Json.array.inj herrors)
  have hdanglingTexts := map_of_map (fun _ _ => dangling_errors_of_toJson)
    (Json.array.inj hdangling)
  have hdnssecTexts := option_of_ofOption (fun _ => mapOf_ne_null _)
    (fun _ _ => dnssec_errors_of_toJson) hdnssec
  have haxfrTexts := option_of_ofOption (f := AuthoritativeAxfrObservation.toJson)
    (fun _ => mapOf_ne_null _) (fun _ _ => axfr_errors_of_toJson) haxfr
  have hwildcardTexts := option_of_ofOption (fun _ => mapOf_ne_null _)
    (fun _ _ => wildcard_errors_of_toJson) hwildcard
  unfold DnsObservation.wording
  rw [hmessages, hdanglingTexts, hdnssecTexts, haxfrTexts, hwildcardTexts]

/-! ## The compared intelligence -/

/-- A subdomain without the text of its error. -/
def subdomainValue (o : SubdomainObservation) : Json :=
  mapOf [("name", .string o.name), ("dns", ofOption DnsObservation.toJson o.dns)]

def relatedValue (o : RelatedDomainsObservation) : Json :=
  mapOf [("nameservers", strings o.nameservers), ("provider", optString o.provider),
    ("candidates", ofList RelatedDomainCandidate.toJson o.candidates),
    ("complete", .bool o.complete)]

def transparencyValue (o : CertificateTransparencyObservation) : Json :=
  mapOf [("source", .string o.source),
    ("candidates", ofList CertificateTransparencyCandidate.toJson o.candidates),
    ("issuance_count", ofNat o.issuanceCount), ("pages_fetched", ofNat o.pagesFetched),
    ("complete", .bool o.complete)]

theorem removeField_subdomain (o : SubdomainObservation) :
    o.toJson.removeField "error" = subdomainValue o := by
  unfold SubdomainObservation.toJson subdomainValue
  rw [removeField_mapOf]
  rfl

theorem removeField_ofOption {α : Type} {f g : α → Json} {name : String}
    (h : ∀ a, (f a).removeField name = g a) (o : Option α) :
    (ofOption f o).removeField name = ofOption g o := by
  cases o with
  | none => rfl
  | some a => exact h a

theorem modifyItems_ofList {α : Type} {f g : α → Json} {edit : Json → Json}
    (h : ∀ a, edit (f a) = g a) (l : List α) : modifyItems edit (ofList f l) = ofList g l := by
  simp only [ofList, modifyItems, List.map_map]
  exact congrArg Json.array (List.map_congr_left (fun a _ => h a))

/-- The compared value, without the fields that were removed. -/
theorem intelligenceValue_eq (o : IntelligenceObservation) :
    intelligenceValue o =
      mapOf [("subdomains", ofList subdomainValue o.subdomains),
        ("dkim", ofList DkimObservation.toJson o.dkim),
        ("networks", ofList NetworkMetadata.toJson o.networks),
        ("cve_candidates", ofList CveCandidate.toJson o.cveCandidates),
        ("bundle_version", optString o.bundleVersion),
        ("related_domains", ofOption relatedValue o.relatedDomains),
        ("certificate_transparency", ofOption transparencyValue o.certificateTransparency),
        ("network_registrations",
          ofList NetworkRegistrationObservation.toJson o.networkRegistrations),
        ("bgp_routes", ofList BgpRouteObservation.toJson o.bgpRoutes),
        ("complete", .bool o.complete)] := by
  have hrelated : (ofOption RelatedDomainsObservation.toJson o.relatedDomains).removeField
      "errors" = ofOption relatedValue o.relatedDomains :=
    removeField_ofOption (fun _ => removeField_mapOf _ _) _
  have htransparency : (ofOption CertificateTransparencyObservation.toJson
      o.certificateTransparency).removeField "errors" =
      ofOption transparencyValue o.certificateTransparency :=
    removeField_ofOption (fun _ => removeField_mapOf _ _) _
  have hsubdomains : modifyItems (removeField "error")
      (ofList SubdomainObservation.toJson o.subdomains) = ofList subdomainValue o.subdomains :=
    modifyItems_ofList removeField_subdomain o.subdomains
  unfold intelligenceValue IntelligenceObservation.toJson
  rw [removeField_mapOf, modifyField_mapOf, modifyField_mapOf, modifyField_mapOf]
  simp [OrdMap.editEntry, hrelated, htransparency, hsubdomains]

theorem subdomainValue_eq {a b : SubdomainObservation} (h : a.eraseWording = b.eraseWording)
    (hw : a.dns.map DnsObservation.wording = b.dns.map DnsObservation.wording) :
    subdomainValue a = subdomainValue b := by
  have hname : a.name = b.name := by
    simpa [SubdomainObservation.eraseWording] using congrArg SubdomainObservation.name h
  have hdns : a.dns = b.dns := by
    simpa using option_of_map_map (h := id) (fun _ _ => DnsObservation.eq_of_wording)
      (congrArg SubdomainObservation.dns h) hw
  unfold subdomainValue
  rw [hname, hdns]

theorem wording_of_subdomainValue {a b : SubdomainObservation}
    (h : subdomainValue a = subdomainValue b) :
    a.dns.map DnsObservation.wording = b.dns.map DnsObservation.wording := by
  have hmembers := mapOf_members h rfl (by simp)
  simp only [List.cons.injEq, Prod.mk.injEq, true_and, and_true] at hmembers
  exact option_of_ofOption (f := DnsObservation.toJson) (fun _ => mapOf_ne_null _)
    (fun _ _ => DnsObservation.wording_of_toJson) hmembers.2

/-- A value that does not depend on the wording agrees where the erasures do. -/
theorem ofOption_eq_of_erase {α : Type} {f : α → Json} {erase : α → α}
    {o o' : Option α} (h : o.map erase = o'.map erase) (hf : ∀ a, f (erase a) = f a) :
    ofOption f o = ofOption f o' := by
  have herase : ∀ o : Option α, ofOption f (o.map erase) = ofOption f o := by
    intro o
    cases o with
    | none => rfl
    | some a => exact hf a
  rw [← herase o, h, herase o']

/-- Observations of the same erasure have the same compared value exactly when their subdomains
agree on the wording. -/
theorem intelligenceValue_eq_iff {a b : IntelligenceObservation}
    (h : a.eraseWording = b.eraseWording) :
    intelligenceValue a = intelligenceValue b ↔
      (a.subdomains.map fun subdomain => subdomain.dns.map DnsObservation.wording) =
        b.subdomains.map fun subdomain => subdomain.dns.map DnsObservation.wording := by
  rw [intelligenceValue_eq, intelligenceValue_eq]
  constructor
  · intro hvalue
    have hmembers := mapOf_members hvalue rfl (by simp)
    simp only [List.cons.injEq, Prod.mk.injEq, true_and, and_true] at hmembers
    exact map_of_map (fun _ _ => wording_of_subdomainValue) (Json.array.inj hmembers.1)
  · intro hw
    simp only [IntelligenceObservation.eraseWording, IntelligenceObservation.mk.injEq] at h
    obtain ⟨herased, hdkim, hnetworks, hcve, hbundle, hrelatedDomains, htransparencies,
      hregistrations, hroutes, hcomplete, _⟩ := h
    have hsubdomains : ofList subdomainValue a.subdomains = ofList subdomainValue b.subdomains :=
      congrArg Json.array (map_of_map_map (fun _ _ => subdomainValue_eq) herased hw)
    have hrelated : ofOption relatedValue a.relatedDomains =
        ofOption relatedValue b.relatedDomains :=
      ofOption_eq_of_erase hrelatedDomains (fun _ => rfl)
    have htransparency : ofOption transparencyValue a.certificateTransparency =
        ofOption transparencyValue b.certificateTransparency :=
      ofOption_eq_of_erase htransparencies (fun _ => rfl)
    rw [hsubdomains, hrelated, htransparency, hdkim, hnetworks, hcve, hbundle, hregistrations,
      hroutes, hcomplete]

/-! ## The sections -/

section Sections

variable (report : ScanReport)

theorem httpMap_erase : httpMap report.eraseWording = httpMap report := by
  have hlist : (report.eraseWording.http.map fun http => (http.url, httpValue http)) =
      report.http.map fun http => (http.url, httpValue http) := by
    unfold ScanReport.eraseWording
    simp only [List.map_map]
    rfl
  unfold httpMap
  rw [hlist]

theorem completenessValue_erase :
    completenessValue report.eraseWording = completenessValue report := by
  have hkinds : (report.eraseWording.errors.map fun error => quote error.kind.name) =
      report.errors.map fun error => quote error.kind.name := by
    unfold ScanReport.eraseWording
    simp only [List.map_map]
    rfl
  unfold completenessValue
  rw [hkinds]
  rfl

end Sections

section Reports

variable {old new : ScanReport} (h : old.eraseWording = new.eraseWording) (target : String)

include h

theorem networkChanges_wording : networkChanges old new target = [] := by
  have hhosts : old.hosts = new.hosts := by
    simpa [ScanReport.eraseWording] using congrArg ScanReport.hosts h
  have hsame : networkChanges old new target = networkChanges new new target := by
    unfold networkChanges ipSet portMap
    rw [hhosts]
  rw [hsame]
  exact networkChanges_self new target

theorem serviceChanges_wording : serviceChanges old new target = [] := by
  have hservices : old.services = new.services := by
    simpa [ScanReport.eraseWording] using congrArg ScanReport.services h
  have hhttp : httpMap old = httpMap new := by
    rw [← httpMap_erase old, ← httpMap_erase new, h]
  have hsame : serviceChanges old new target = serviceChanges new new target := by
    unfold serviceChanges serviceMap
    rw [hservices, hhttp]
  rw [hsame]
  exact serviceChanges_self new target

theorem completenessChanges_wording : completenessChanges old new target = [] := by
  unfold completenessChanges
  rw [compareValues_eq_nil_iff, ← completenessValue_erase old, ← completenessValue_erase new, h]

theorem scoreChange_wording : (scoreChange old new target).1 = none := by
  have hscore : old.exposureScore = new.exposureScore := by
    simpa [ScanReport.eraseWording] using congrArg ScanReport.exposureScore h
  have hsame : (scoreChange old new target).1 = (scoreChange new new target).1 := by
    unfold scoreChange
    rw [hscore]
  rw [hsame]
  exact scoreChange_self new target

/-- Of all sections only the DNS section can see a wording, through the subdomains. -/
theorem dnsChanges_wording_iff :
    dnsChanges old new target = [] ↔ old.subdomainWording = new.subdomainWording := by
  have hdns : old.dns = new.dns := by
    simpa [ScanReport.eraseWording] using congrArg ScanReport.dns h
  have hrecords : recordSet old = recordSet new := by
    unfold recordSet
    rw [hdns]
  have hmail : mailValue old = mailValue new := by
    unfold mailValue
    rw [hdns]
  have hintelligence := congrArg ScanReport.intelligence h
  unfold dnsChanges ScanReport.subdomainWording
  rw [sortChanges_eq_nil, List.append_eq_nil_iff, List.append_eq_nil_iff, hrecords,
    compareSets_self, compareValues_eq_nil_iff, compareValues_eq_nil_iff]
  simp only [hmail, true_and]
  simp only [ScanReport.eraseWording] at hintelligence
  cases hold : old.intelligence with
  | none =>
    cases hnew : new.intelligence with
    | none => simp
    | some b =>
      rw [hold, hnew] at hintelligence
      cases hintelligence
  | some a =>
    cases hnew : new.intelligence with
    | none =>
      rw [hold, hnew] at hintelligence
      cases hintelligence
    | some b =>
      rw [hold, hnew] at hintelligence
      simp only [Option.map_some, Option.some.injEq] at hintelligence ⊢
      exact intelligenceValue_eq_iff hintelligence

end Reports

/-- Reports that differ only in the wording of errors compare as unchanged exactly when the error
texts inside the DNS observations of their subdomains agree. -/
theorem diffReports_ignoresWording_iff {old new : ScanReport} {d : ScanDiff}
    (h : old.eraseWording = new.eraseWording) (hd : diffReports old new = .ok d) :
    d.Unchanged ↔ old.subdomainWording = new.subdomainWording := by
  obtain ⟨_, _, rfl⟩ := diffReports_ok_iff.mp hd
  rw [← dnsChanges_wording_iff h old.target.identity]
  constructor
  · intro hunchanged
    exact hunchanged.dns
  · intro hdns
    have htlsList : old.tls = new.tls := by
      simpa [ScanReport.eraseWording] using congrArg ScanReport.tls h
    have htls : tlsMap old = tlsMap new := by
      unfold tlsMap
      rw [htlsList]
    have hfindingList : old.findings = new.findings := by
      simpa [ScanReport.eraseWording] using congrArg ScanReport.findings h
    have hfindings : findingMap old = findingMap new := by
      unfold findingMap
      rw [hfindingList]
    exact compareReports_unchanged (networkChanges_wording h _) (serviceChanges_wording h _)
      ((compareMaps_eq_nil_iff _ _ _ _ _).mpr htls) hdns
      ((compareMaps_eq_nil_iff _ _ _ _ _).mpr hfindings) (completenessChanges_wording h _)
      (scoreChange_wording h _) _

/-! ## A failed lookup whose error reads differently -/

/-- A report with one subdomain, whose DNS observation has a failed lookup. -/
def failedLookup (message error : String) : ScanReport :=
  { fixtureReport with
    intelligence := some {
      subdomains := [{
        name := "www.example.com"
        dns := some {
          queriedName := "www.example.com"
          records := []
          cnameChain := []
          danglingCnames := []
          resolvedHosts := []
          mail := ⟨false, ⟨[], none⟩, [], [], none, []⟩
          dnssec := none
          authoritativeAxfr := none
          wildcardDns := none
          errors := [⟨.dns, some "www.example.com", .dns, message, true⟩] }
        error := some error }]
      errors := [error] } }

theorem diffReports_failedLookup (message message' error error' : String) :
    diffReports (failedLookup message error) (failedLookup message' error') =
      .ok (compareReports (failedLookup message error) (failedLookup message' error')
        "example.com" "example.com") :=
  diffReports_ok_iff.mpr ⟨rfl, ⟨"typed-ssh", rfl, rfl⟩, rfl⟩

theorem diffReports_ignoresWording_failedLookup :
    (compareReports (failedLookup "timed out" "timed out")
        (failedLookup "timed out" "connection reset") "example.com" "example.com").Unchanged ↔
      (failedLookup "timed out" "timed out").subdomainWording =
        (failedLookup "timed out" "connection reset").subdomainWording :=
  diffReports_ignoresWording_iff rfl (diffReports_failedLookup _ _ _ _)

theorem wording_of_subdomain_lookup_reported :
    (failedLookup "timed out" "failed").eraseWording =
        (failedLookup "connection reset" "failed").eraseWording ∧
      ∃ d, diffReports (failedLookup "timed out" "failed")
        (failedLookup "connection reset" "failed") = .ok d ∧ ¬ d.Unchanged :=
  ⟨rfl, _, diffReports_failedLookup _ _ _ _, fun h => absurd h.dns (by decide +kernel)⟩

end Surface

import Mathlib.Data.List.Forall2
import Mathlib.Tactic.Simps.Basic
import Surface.Report.Diff
import Surface.Report.Projection

/-!
# Surface.Report.Shape

Reports and comparisons with their strings erased: the lengths of lists, the presence of options,
enumerations, numbers, times and addresses stay.

Two reports that differ in the contents of strings only have the same `shape`. What no renderer
looks at is erased as well: the JSON values of a change, and the intelligence that is only
exported.
-/

namespace Surface

class Shape (α : Type) where
  shape : α → α

open Shape (shape)

instance : Shape String := ⟨fun _ => ""⟩

instance {α : Type} [Shape α] : Shape (Option α) := ⟨Option.map shape⟩

instance {α : Type} [Shape α] : Shape (List α) := ⟨List.map shape⟩

@[simp] theorem shape_isSome {α : Type} [Shape α] (o : Option α) :
    (shape o).isSome = o.isSome := Option.isSome_map ..

@[simp] theorem shape_isEmpty {α : Type} [Shape α] (l : List α) :
    (shape l).isEmpty = l.isEmpty := List.isEmpty_map

theorem forall₂_shape {α : Type} [Shape α] {R : α → α → Prop} (h : ∀ a, R a (shape a))
    (l : List α) : List.Forall₂ R l (shape l) :=
  List.forall₂_map_right_iff.mpr (List.forall₂_same.mpr fun a _ => h a)

/-! ## Maps -/

theorem replicate_lt {c : Char} {i j : Nat} (h : i < j) :
    String.ofList (List.replicate i c) < String.ofList (List.replicate j c) := by
  rw [String.lt_iff_toList_lt, String.toList_ofList, String.toList_ofList]
  induction i generalizing j with
  | zero =>
    obtain ⟨j, rfl⟩ := Nat.exists_eq_succ_of_ne_zero (Nat.ne_of_gt h)
    exact List.nil_lt_cons c _
  | succ i ih =>
    obtain ⟨j, rfl⟩ := Nat.exists_eq_succ_of_ne_zero (Nat.ne_of_gt (Nat.zero_lt_of_lt h))
    rw [List.replicate_succ, List.replicate_succ, List.cons_lt_cons_iff]
    exact .inr ⟨rfl, ih (Nat.lt_of_succ_lt_succ h)⟩

/-- Of a map only its size stays. -/
instance : Shape (OrdMap String String) where
  shape m :=
    { entries := (List.range m.size).map fun i => (String.ofList (List.replicate i 'a'), "")
      sorted := List.pairwise_map.mpr (List.pairwise_lt_range.imp replicate_lt) }

/-! ## Reports -/

@[simps]
instance NormalizedTarget.instShape : Shape NormalizedTarget where
  shape o :=
    { o with
      original := shape o.original
      hostname := shape o.hostname
      scheme := shape o.scheme
      initialPath := shape o.initialPath }

@[simps]
instance ScanError.instShape : Shape ScanError where
  shape o :=
    { o with
      target := shape o.target
      message := shape o.message }

@[simps]
instance SkippedCheck.instShape : Shape SkippedCheck where
  shape o :=
    { o with
      check := shape o.check
      reason := shape o.reason }

def DnsRecord.shape : DnsRecord → DnsRecord
  | cname _ => .cname ""
  | ns _ => .ns ""
  | mx preference _ => .mx preference ""
  | txt _ => .txt ""
  | caa flags _ _ => .caa flags "" ""
  | record => record

instance : Shape DnsRecord := ⟨DnsRecord.shape⟩

@[simps]
instance CnameHop.instShape : Shape CnameHop where
  shape o :=
    { o with
      source := shape o.source
      destination := shape o.destination }

@[simps]
instance DanglingCnameObservation.instShape : Shape DanglingCnameObservation where
  shape o :=
    { o with
      sourceAlias := shape o.sourceAlias
      canonicalTarget := shape o.canonicalTarget
      evidence := shape o.evidence
      errors := shape o.errors
      limitations := shape o.limitations }

@[simps]
instance ResolvedHost.instShape : Shape ResolvedHost :=
  ⟨fun o => { o with hostname := shape o.hostname }⟩

@[simps]
instance SpfObservation.instShape : Shape SpfObservation where
  shape o :=
    { o with
      records := shape o.records
      terminalPolicy := shape o.terminalPolicy }

@[simps]
instance DmarcObservation.instShape : Shape DmarcObservation where
  shape o :=
    { o with
      record := shape o.record
      policy := shape o.policy
      subdomainPolicy := shape o.subdomainPolicy
      aggregateReports := shape o.aggregateReports
      adkim := shape o.adkim
      aspf := shape o.aspf }

@[simps]
instance MailObservation.instShape : Shape MailObservation where
  shape o :=
    { o with
      spf := shape o.spf
      dmarc := shape o.dmarc
      mtaSts := shape o.mtaSts
      tlsRpt := shape o.tlsRpt }

@[simps]
instance DnssecRrsetObservation.instShape : Shape DnssecRrsetObservation :=
  ⟨fun o => { o with name := shape o.name }⟩

@[simps]
instance DnssecObservation.instShape : Shape DnssecObservation where
  shape o :=
    { o with
      checkedRrsets := shape o.checkedRrsets
      errors := shape o.errors
      limitations := shape o.limitations }

@[simps]
instance WildcardDnsObservation.instShape : Shape WildcardDnsObservation where
  shape o :=
    { o with
      answerFingerprints := shape o.answerFingerprints
      errors := shape o.errors
      limitations := shape o.limitations }

@[simps]
instance AxfrAttempt.instShape : Shape AxfrAttempt where
  shape o :=
    { o with
      server := shape o.server
      responseCode := shape o.responseCode
      error := shape o.error }

@[simps]
instance AuthoritativeAxfrObservation.instShape : Shape AuthoritativeAxfrObservation where
  shape o :=
    { o with
      zone := shape o.zone
      nameservers := shape o.nameservers
      attempts := shape o.attempts }

@[simps]
instance DnsObservation.instShape : Shape DnsObservation where
  shape o :=
    { o with
      queriedName := shape o.queriedName
      records := shape o.records
      cnameChain := shape o.cnameChain
      danglingCnames := shape o.danglingCnames
      resolvedHosts := shape o.resolvedHosts
      mail := shape o.mail
      dnssec := shape o.dnssec
      authoritativeAxfr := shape o.authoritativeAxfr
      wildcardDns := shape o.wildcardDns
      errors := shape o.errors }

@[simps]
instance PortObservation.instShape : Shape PortObservation :=
  ⟨fun o => { o with error := shape o.error }⟩

@[simps]
instance HostObservation.instShape : Shape HostObservation :=
  ⟨fun o => { o with ports := shape o.ports }⟩

@[simps]
instance SshIdentification.instShape : Shape SshIdentification where
  shape o :=
    { o with
      protocol := shape o.protocol
      software := shape o.software }

@[simps]
instance SshAlgorithmSelections.instShape : Shape SshAlgorithmSelections where
  shape o :=
    { o with
      kex := shape o.kex
      hostKey := shape o.hostKey
      cipherC2s := shape o.cipherC2s
      cipherS2c := shape o.cipherS2c
      macC2s := shape o.macC2s
      macS2c := shape o.macS2c }

@[simps]
instance PartialSshAlgorithmSelections.instShape : Shape PartialSshAlgorithmSelections where
  shape o :=
    { o with
      kex := shape o.kex
      hostKey := shape o.hostKey
      cipherC2s := shape o.cipherC2s
      cipherS2c := shape o.cipherS2c
      macC2s := shape o.macC2s
      macS2c := shape o.macS2c }

def SshPostureOutcome.shape : SshPostureOutcome → SshPostureOutcome
  | complete selections => .complete (Shape.shape selections)
  | partialPosture selections _ => .partialPosture (Shape.shape selections) ""
  | indeterminate _ => .indeterminate ""

instance : Shape SshPostureOutcome := ⟨SshPostureOutcome.shape⟩

@[simps]
instance SshPosture.instShape : Shape SshPosture where
  shape o :=
    { o with
      identification := shape o.identification
      outcome := shape o.outcome }

@[simps]
instance ServiceObservation.instShape : Shape ServiceObservation where
  shape o :=
    { o with
      banner := shape o.banner
      protocolDetails := shape o.protocolDetails
      ssh := shape o.ssh }

@[simps]
instance CookieObservation.instShape : Shape CookieObservation where
  shape o :=
    { o with
      name := shape o.name
      sameSite := shape o.sameSite
      domain := shape o.domain
      path := shape o.path }

@[simps]
instance RedirectObservation.instShape : Shape RedirectObservation where
  shape o :=
    { o with
      source := shape o.source
      destination := shape o.destination }

@[simps]
instance HttpObservation.instShape : Shape HttpObservation where
  shape o :=
    { o with
      url := shape o.url
      finalUrl := shape o.finalUrl
      version := shape o.version
      redirects := shape o.redirects
      headers := shape o.headers
      cookies := shape o.cookies
      title := shape o.title
      error := shape o.error }

@[simps]
instance TlsObservation.instShape : Shape TlsObservation where
  shape o :=
    { o with
      serverName := shape o.serverName
      protocolVersion := shape o.protocolVersion
      cipherSuite := shape o.cipherSuite
      alpn := shape o.alpn
      leafCertificateSha256 := shape o.leafCertificateSha256
      subject := shape o.subject
      issuer := shape o.issuer
      serialNumber := shape o.serialNumber
      subjectAltNames := shape o.subjectAltNames
      publicKeyAlgorithm := shape o.publicKeyAlgorithm
      signatureAlgorithm := shape o.signatureAlgorithm
      errors := shape o.errors }

@[simps]
instance Evidence.instShape : Shape Evidence where
  shape o :=
    { o with
      location := shape o.location
      observed := shape o.observed }

@[simps]
instance Finding.instShape : Shape Finding where
  shape o :=
    { o with
      id := shape o.id
      title := shape o.title
      target := shape o.target
      description := shape o.description
      evidence := shape o.evidence
      remediation := shape o.remediation
      references := shape o.references }

@[simps]
instance ScoreDeduction.instShape : Shape ScoreDeduction where
  shape o :=
    { o with
      id := shape o.id
      reason := shape o.reason
      findingIds := shape o.findingIds
      target := shape o.target }

@[simps]
instance ExposureScore.instShape : Shape ExposureScore where
  shape o :=
    { o with
      modelVersion := shape o.modelVersion
      deductions := shape o.deductions
      limitations := shape o.limitations }

@[simps]
instance RelatedDomainCandidate.instShape : Shape RelatedDomainCandidate where
  shape o :=
    { o with
      name := shape o.name
      matchedNameservers := shape o.matchedNameservers
      confidence := shape o.confidence
      evidence := shape o.evidence }

@[simps]
instance RelatedDomainsObservation.instShape : Shape RelatedDomainsObservation where
  shape o :=
    { o with
      nameservers := shape o.nameservers
      provider := shape o.provider
      candidates := shape o.candidates
      errors := shape o.errors }

@[simps]
instance CertificateTransparencyCandidate.instShape : Shape CertificateTransparencyCandidate :=
  ⟨fun o => { o with name := shape o.name }⟩

@[simps]
instance CertificateTransparencyObservation.instShape :
    Shape CertificateTransparencyObservation where
  shape o :=
    { o with
      source := shape o.source
      candidates := shape o.candidates
      errors := shape o.errors }

@[simps]
instance IntelligenceObservation.instShape : Shape IntelligenceObservation where
  shape o :=
    { o with
      relatedDomains := shape o.relatedDomains
      certificateTransparency := shape o.certificateTransparency
      bundleVersion := shape o.bundleVersion
      errors := shape o.errors
      subdomains := []
      dkim := []
      networks := []
      cveCandidates := []
      networkRegistrations := []
      bgpRoutes := [] }

@[simps]
instance ScanReport.instShape : Shape ScanReport where
  shape o :=
    { o with
      schemaVersion := shape o.schemaVersion
      scannerVersion := shape o.scannerVersion
      scanId := shape o.scanId
      target := shape o.target
      dns := shape o.dns
      hosts := shape o.hosts
      services := shape o.services
      http := shape o.http
      tls := shape o.tls
      findings := shape o.findings
      exposureScore := shape o.exposureScore
      intelligence := shape o.intelligence
      skippedChecks := shape o.skippedChecks
      errors := shape o.errors
      message := shape o.message }

/-! ## Comparisons -/

@[simps]
instance ScanReference.instShape : Shape ScanReference where
  shape o :=
    { o with
      scanId := shape o.scanId
      schemaVersion := shape o.schemaVersion
      scannerVersion := shape o.scannerVersion
      target := shape o.target }

/-- Of a value that was compared only its presence stays. -/
instance : Shape Json := ⟨fun _ => .null⟩

@[simps]
instance Change.instShape : Shape Change where
  shape o :=
    { o with
      category := shape o.category
      key := shape o.key
      oldValue := shape o.oldValue
      newValue := shape o.newValue
      target := shape o.target
      significance := shape o.significance
      confidence := shape o.confidence
      evidence := shape o.evidence }

@[simps]
instance ScanDiff.instShape : Shape ScanDiff where
  shape o :=
    { o with
      schemaVersion := shape o.schemaVersion
      oldScan := shape o.oldScan
      newScan := shape o.newScan
      networkChanges := shape o.networkChanges
      serviceChanges := shape o.serviceChanges
      certificateChanges := shape o.certificateChanges
      dnsChanges := shape o.dnsChanges
      findingChanges := shape o.findingChanges
      scoreChange := shape o.scoreChange
      completenessChanges := shape o.completenessChanges
      warnings := shape o.warnings }

/-! ## Projections -/

@[simps]
instance SshProjection.instShape : Shape SshProjection where
  shape o :=
    { o with
      protocol := shape o.protocol
      software := shape o.software
      selections := shape o.selections
      reason := shape o.reason }

@[simp] theorem lifecycle_shape (report : ScanReport) :
    lifecycle (shape report) = lifecycle report := by
  have herrors : (shape report).errors.length = report.errors.length := List.length_map ..
  have hscore : (shape report).exposureScore.any ExposureScore.incomplete =
      report.exposureScore.any ExposureScore.incomplete := Option.any_map ..
  unfold lifecycle
  rw [herrors, hscore]
  rfl

/-- The ports that are shown depend on addresses, states and the kinds of services. -/
theorem ports_shape (report : ScanReport) (host : HostObservation) :
    ports (shape report) (shape host) = ports report host := by
  change (host.ports.map shape).filterMap _ = host.ports.filterMap _
  rw [List.filterMap_map]
  refine List.filterMap_congr fun port _ => ?_
  have hservice : ((shape report).services.find? fun service =>
      service.address = (shape port).address ∧ service.transport = (shape port).transport) =
      (report.services.find? fun service =>
        service.address = port.address ∧ service.transport = port.transport).map shape :=
    List.find?_map ..
  simp only [Function.comp_apply]
  rw [hservice]
  cases report.services.find? fun service =>
    service.address = port.address ∧ service.transport = port.transport <;> rfl

theorem ssh_shape (service : ServiceObservation) :
    ssh (shape service) = (ssh service).map shape := by
  change (service.ssh.map shape).map SshPosture.projection =
    (service.ssh.map SshPosture.projection).map shape
  rw [Option.map_map, Option.map_map]
  refine congrArg (service.ssh.map ·) (funext fun posture => ?_)
  obtain ⟨identification, outcome⟩ := posture
  cases identification <;> cases outcome <;> rfl

@[simp] theorem certificateTransparency_shape (intelligence : Option IntelligenceObservation) :
    (shape intelligence).bind IntelligenceObservation.certificateTransparency =
      shape (intelligence.bind IntelligenceObservation.certificateTransparency) := by
  cases intelligence <;> rfl

@[simp] theorem relatedDomains_shape (intelligence : Option IntelligenceObservation) :
    (shape intelligence).bind IntelligenceObservation.relatedDomains =
      shape (intelligence.bind IntelligenceObservation.relatedDomains) := by
  cases intelligence <;> rfl

end Surface

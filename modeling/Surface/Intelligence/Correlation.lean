import Surface.Intelligence.Bundle
import Surface.Intelligence.Supplied
import Surface.Text

/-!
# Surface.Intelligence.Correlation

What an offline bundle says of a report: the networks of its hosts, and the advisories for the
OpenSSH versions that its services name.

* `mem_correlateCves`: the advisories that are candidates.
* `correlateCves_reordered`: the order of the advisories in the file makes no difference.
* `analyzeIntelligence_correlated`: supplied intelligence has all of it or nothing.
* `analyzeIntelligence_advisories`: what the candidates of an accepted file are.
-/

namespace Surface

def openSshStart : String := "SSH-2.0-OpenSSH_"

/-- The first word, or everything when there is none. -/
def firstWord (cs : List Char) : List Char :=
  match (cs.dropWhile isUnicodeSpace).takeWhile (fun c => !isUnicodeSpace c) with
  | [] => cs
  | word => word

/-- The version in a banner as a bundle spells it, `9.2.1` for `9.2p1`. -/
def openSshVersion (banner : String) : Option String :=
  if hasStart openSshStart banner = true then
    some (String.ofList ((firstWord (banner.toList.drop openSshStart.length)).map fun c =>
      if c = 'p' then '.' else c))
  else none

def ScanReport.products (report : ScanReport) : List (String × String) :=
  report.services.filterMap fun service =>
    (service.banner.bind openSshVersion).map fun version => ("openssh", version)

def VulnerabilityEntry.candidate (entry : VulnerabilityEntry) (source : String) : CveCandidate where
  cveId := entry.cveId
  product := entry.product
  version := entry.version
  severity := entry.severity
  advisoryUrl := entry.advisoryUrl
  source := source
  confidence := "candidate"

def CveCandidate.rank (candidate : CveCandidate) : String ×ₗ String :=
  toLex (candidate.cveId, candidate.product)

def correlateCves (report : ScanReport) (bundle : IntelligenceBundle) : List CveCandidate :=
  sortBy CveCandidate.rank ((bundle.vulnerabilities.filter fun entry =>
    decide ((entry.product.toLower, entry.version) ∈ report.products)).map
      (VulnerabilityEntry.candidate · bundle.source))

/-- The bundle as the analysis of a report uses it. -/
def IntelligenceBundle.supply (bundle : IntelligenceBundle) (report : ScanReport) :
    SuppliedBundle :=
  ⟨bundle.schemaVersion, correlateNetworks report bundle, correlateCves report bundle⟩

/-! ## Advisories -/

theorem VulnerabilityEntry.check_ok {entry : VulnerabilityEntry} (h : entry.check = .ok ()) :
    validCve entry.cveId = true ∧ hasStart "https://" entry.advisoryUrl = true := by
  unfold VulnerabilityEntry.check at h
  split at h
  · cases h
  · rename_i hvalid
    rw [not_or, Bool.not_eq_false, Bool.not_eq_false] at hvalid
    exact hvalid

/-- A service of the report says that it is the product of the entry, in its version. -/
def VulnerabilityEntry.Affects (entry : VulnerabilityEntry) (report : ScanReport) : Prop :=
  entry.product.toLower = "openssh" ∧ ∃ service ∈ report.services, ∃ banner,
    service.banner = some banner ∧ openSshVersion banner = some entry.version

theorem mem_products {report : ScanReport} {product version : String} :
    (product, version) ∈ report.products ↔ product = "openssh" ∧ ∃ service ∈ report.services,
      ∃ banner, service.banner = some banner ∧ openSshVersion banner = some version := by
  rw [ScanReport.products, List.mem_filterMap]
  constructor
  · rintro ⟨service, hservice, hsome⟩
    obtain ⟨named, hnamed, hsame⟩ := Option.map_eq_some_iff.mp hsome
    obtain ⟨banner, hbanner, hversion⟩ := Option.bind_eq_some_iff.mp hnamed
    cases hsame
    exact ⟨rfl, service, hservice, banner, hbanner, hversion⟩
  · rintro ⟨rfl, service, hservice, banner, hbanner, hversion⟩
    refine ⟨service, hservice, ?_⟩
    rw [hbanner, Option.bind_some, hversion]
    rfl

theorem mem_correlateCves {report : ScanReport} {bundle : IntelligenceBundle}
    {candidate : CveCandidate} : candidate ∈ correlateCves report bundle ↔
      ∃ entry ∈ bundle.vulnerabilities, entry.Affects report ∧
        candidate = entry.candidate bundle.source := by
  rw [correlateCves, mem_sortBy, List.mem_map]
  refine exists_congr fun entry => ?_
  rw [List.mem_filter, decide_eq_true_iff, mem_products, and_assoc]
  exact and_congr_right fun _ => and_congr_right fun _ => eq_comm

/-- Two files whose advisories differ in their order alone, no two of them for one version of a
product under one identifier, name the same candidates. -/
theorem correlateCves_reordered {decode : List UInt8 → Except String IntelligenceBundle}
    {json json' : List UInt8} {decoded decoded' bundle bundle' : IntelligenceBundle}
    (hdecode : decode json = .ok decoded) (hdecode' : decode json' = .ok decoded')
    (hsource : decoded.source = decoded'.source)
    (hperm : decoded.vulnerabilities.Perm decoded'.vulnerabilities)
    (hnodup : (decoded.vulnerabilities.map VulnerabilityEntry.rank).Nodup)
    (h : parseBundle decode json = .ok bundle) (h' : parseBundle decode json' = .ok bundle')
    (report : ScanReport) : correlateCves report bundle = correlateCves report bundle' := by
  obtain ⟨-, other, hother, -, rfl⟩ := parseBundle_ok_iff.mp h
  obtain ⟨-, other', hother', -, rfl⟩ := parseBundle_ok_iff.mp h'
  rw [hdecode] at hother
  rw [hdecode'] at hother'
  cases hother
  cases hother'
  have hvulnerabilities : decoded.sorted.vulnerabilities = decoded'.sorted.vulnerabilities :=
    sortBy_eq_of_perm hperm hnodup
  have hsources : decoded.sorted.source = decoded'.sorted.source := hsource
  rw [correlateCves, correlateCves, hvulnerabilities, hsources]

/-! ## Supplied intelligence -/

section Supplied

variable {normalizeTarget : String → Option NormalizedTarget}
  {parseDkim : String → List String → DkimObservation}

def IntelligenceObservation.correlated (observation : IntelligenceObservation) :
    List NetworkMetadata × List CveCandidate :=
  (observation.networks, observation.cveCandidates)

theorem correlated_correlate {observation : IntelligenceObservation}
    (h : observation.correlated = ([], [])) (bundle : Option SuppliedBundle) :
    (observation.correlate bundle).correlated =
      if (observation.correlate bundle).complete = true then
        (bundle.elim [] SuppliedBundle.networks, bundle.elim [] SuppliedBundle.cveCandidates)
      else ([], []) := by
  cases bundle with
  | none => exact h.trans (ite_self _).symm
  | some bundle =>
    unfold IntelligenceObservation.correlate
    dsimp only
    split
    · rfl
    · exact h

/-- A bundle is used as a whole, when everything before it was complete, or not at all. -/
theorem analyzeIntelligence_correlated {report : ScanReport}
    {subdomains : List SuppliedSubdomain} {selectors : List SuppliedSelector}
    {bundle : Option SuppliedBundle} {result : IntelligenceObservation}
    (hr : analyzeIntelligence normalizeTarget parseDkim report subdomains selectors bundle =
      .ok result) :
    result.correlated =
      if result.complete = true then
        (bundle.elim [] SuppliedBundle.networks, bundle.elim [] SuppliedBundle.cveCandidates)
      else ([], []) := by
  unfold analyzeIntelligence at hr
  split at hr
  · cases hr
  · split at hr
    · cases hr
    · split at hr
      · cases hr
      · rename_i first hsub
        split at hr
        · cases hr
        · rename_i second hsel
          cases hr
          have hfirst := collectSubdomains_preserves (·.correlated = ([], [])) (fun _ _ h => h)
            (fun _ _ result h => by cases result <;> exact h) rfl hsub
          have hsecond := collectSelectors_preserves (·.correlated = ([], [])) (fun _ _ h => h)
            (fun _ _ result h => by cases result <;> exact h) hfirst hsel
          exact correlated_correlate hsecond bundle

/-- Of a file that is accepted, the candidates are the advisories for a version that a service
names, each with an identifier and a link that were checked, and none as more than a candidate. -/
theorem analyzeIntelligence_advisories {decode : List UInt8 → Except String IntelligenceBundle}
    {json : List UInt8} {bundle : IntelligenceBundle}
    (hparse : parseBundle decode json = .ok bundle) {report : ScanReport} {subdomains : List SuppliedSubdomain}
    {selectors : List SuppliedSelector} {result : IntelligenceObservation}
    (hr : analyzeIntelligence normalizeTarget parseDkim report subdomains selectors
      (some (bundle.supply report)) = .ok result) :
    (∀ candidate, candidate ∈ result.cveCandidates ↔ result.complete = true ∧
      ∃ entry ∈ bundle.vulnerabilities, entry.Affects report ∧
        candidate = entry.candidate bundle.source) ∧
    (∀ candidate ∈ result.cveCandidates, validCve candidate.cveId = true ∧
      hasStart "https://" candidate.advisoryUrl = true ∧ candidate.confidence = "candidate") ∧
    result.cveCandidates.Pairwise fun a b => a.rank ≤ b.rank := by
  have hcorrelated := analyzeIntelligence_correlated hr
  have hcandidates : result.cveCandidates =
      if result.complete = true then correlateCves report bundle else [] := by
    have hsecond := congrArg Prod.snd hcorrelated
    split at hsecond
    · rename_i hcomplete
      rw [if_pos hcomplete]
      exact hsecond
    · rename_i hcomplete
      rw [if_neg hcomplete]
      exact hsecond
  rw [hcandidates]
  split
  · rename_i hcomplete
    refine ⟨fun candidate => ?_, fun candidate hmem => ?_, sortBy_sorted _ _⟩
    · rw [mem_correlateCves, and_iff_right hcomplete]
    · obtain ⟨entry, hentry, -, rfl⟩ := mem_correlateCves.mp hmem
      obtain ⟨-, decoded, -, haccepted, rfl⟩ := parseBundle_ok_iff.mp hparse
      obtain ⟨hcve, hlink⟩ := VulnerabilityEntry.check_ok
        (haccepted.vulnerabilities entry (mem_sortBy.mp hentry))
      exact ⟨hcve, hlink, rfl⟩
  · rename_i hcomplete
    exact ⟨fun candidate => iff_of_false List.not_mem_nil fun h => hcomplete h.1,
      List.forall_mem_nil _, .nil⟩

end Supplied

/-! ## A report with one service -/

def openSshService : ServiceObservation where
  transport := .tcp
  address := ⟨.ofOctets 192 0 2 1, 22⟩
  service := .ssh
  confidence := .high
  banner := some "SSH-2.0-OpenSSH_9.2p1 Debian-2"
  protocolDetails := .empty
  ssh := none

def openSshReport : ScanReport := { fixtureReport with services := [openSshService] }

def fixtureBundle : IntelligenceBundle where
  schemaVersion := "1.0"
  source := "advisories"
  sourceTimestamp := 0
  networks := []
  vulnerabilities :=
    [⟨"OpenSSH", "9.3.1", "CVE-2023-48795", "medium", "https://example.org/terrapin"⟩,
      ⟨"OpenSSH", "9.2.1", "CVE-2023-38408", "high", "https://example.org/agent"⟩]

theorem parseBundle_fixture :
    parseBundle (fun _ => .ok fixtureBundle) [] = .ok fixtureBundle.sorted := by decide +kernel

def fixtureCorrelated : Except String IntelligenceObservation :=
  analyzeIntelligence (fun _ => none)
    (fun selector _ => ⟨selector, 0, none, none, none, false, false⟩) openSshReport [] []
    (some (fixtureBundle.sorted.supply openSshReport))

theorem analyzeIntelligence_advisories_fixture :
    fixtureCorrelated.toOption.map (·.cveCandidates.map CveCandidate.cveId) =
        some ["CVE-2023-38408"] ∧
      ∃ result, fixtureCorrelated = .ok result ∧
        ∀ candidate ∈ result.cveCandidates, validCve candidate.cveId = true ∧
          hasStart "https://" candidate.advisoryUrl = true ∧
          candidate.confidence = "candidate" := by
  obtain ⟨result, hresult⟩ : ∃ result, fixtureCorrelated = .ok result := ⟨_, rfl⟩
  exact ⟨by decide +kernel, result, hresult,
    (analyzeIntelligence_advisories parseBundle_fixture hresult).2.1⟩

end Surface

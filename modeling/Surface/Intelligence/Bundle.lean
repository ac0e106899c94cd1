import Surface.Fallible
import Surface.Intelligence.Prefix
import Surface.Model.Report
import Surface.Ordered

/-!
# Surface.Intelligence.Bundle

The offline bundle, and the networks it has for the hosts of a report.

* `parseBundle_ok_iff`: which bundles are accepted; their networks are sorted by the prefix texts.
* `longestNetworks`: every host has one entry, that of a longest prefix.
* `correlateNetworks_reordered`: the order of the networks in the file makes no difference.
-/

namespace Surface

/-! ## The bundle -/

structure NetworkEntry where
  prefixText : String
  asn : Option Nat
  organization : Option String
  country : Option String
deriving DecidableEq

structure VulnerabilityEntry where
  product : String
  version : String
  cveId : String
  severity : String
  advisoryUrl : String
deriving DecidableEq

structure IntelligenceBundle where
  schemaVersion : String
  source : String
  sourceTimestamp : Int
  networks : List NetworkEntry
  vulnerabilities : List VulnerabilityEntry
deriving DecidableEq

def maxBundleBytes : Nat := 16 * 1024 * 1024
def maxBundleEntries : Nat := 100000

def bounded (value : Option String) (max : Nat) : Except String Unit :=
  if value.any (fun text => decide (max < text.utf8ByteSize)) = true then
    .error "intelligence field is oversized"
  else .ok ()

def validCve (value : String) : Bool :=
  hasStart "CVE-" value && value.toList.all fun c => c.isAlphanum || decide (c = '-')

def NetworkEntry.check (entry : NetworkEntry) : Except String Unit :=
  match parsePrefix entry.prefixText with
  | .error error => .error error
  | .ok _ => (bounded entry.organization 512).bind fun _ => bounded entry.country 8

def VulnerabilityEntry.check (entry : VulnerabilityEntry) : Except String Unit :=
  if validCve entry.cveId = false ∨ hasStart "https://" entry.advisoryUrl = false then
    .error "intelligence bundle contains an invalid advisory"
  else if [entry.product, entry.version, entry.severity, entry.advisoryUrl].any
      (fun value => decide (value = "" ∨ 1024 < value.utf8ByteSize)) = true then
    .error "intelligence bundle contains invalid text"
  else .ok ()

def VulnerabilityEntry.rank (entry : VulnerabilityEntry) : String ×ₗ String ×ₗ String :=
  toLex (entry.cveId, toLex (entry.product, entry.version))

def IntelligenceBundle.sorted (bundle : IntelligenceBundle) : IntelligenceBundle :=
  { bundle with
    networks := sortBy NetworkEntry.prefixText bundle.networks
    vulnerabilities := sortBy VulnerabilityEntry.rank bundle.vulnerabilities }

/-- `decode` is the JSON decoder of the bundle, with its error as the text it is shown with. -/
def parseBundle (decode : List UInt8 → Except String IntelligenceBundle) (json : List UInt8) :
    Except String IntelligenceBundle :=
  if maxBundleBytes < json.length then .error "intelligence bundle exceeds 16 MiB"
  else
    match decode json with
    | .error error => .error ("invalid intelligence bundle: " ++ error)
    | .ok bundle =>
      if bundle.schemaVersion ≠ "1.0" then .error "unsupported intelligence bundle schema"
      else if maxBundleEntries < bundle.networks.length + bundle.vulnerabilities.length then
        .error "intelligence bundle has too many entries"
      else
        match bundle.networks.forM NetworkEntry.check with
        | .error error => .error error
        | .ok _ =>
          match bundle.vulnerabilities.forM VulnerabilityEntry.check with
          | .error error => .error error
          | .ok _ => .ok bundle.sorted

/-- What a bundle has to be for its file to be accepted. -/
structure IntelligenceBundle.Accepted (bundle : IntelligenceBundle) : Prop where
  schema : bundle.schemaVersion = "1.0"
  entries : bundle.networks.length + bundle.vulnerabilities.length ≤ maxBundleEntries
  networks : ∀ entry ∈ bundle.networks, entry.check = .ok ()
  vulnerabilities : ∀ entry ∈ bundle.vulnerabilities, entry.check = .ok ()

theorem parseBundle_ok_iff {decode : List UInt8 → Except String IntelligenceBundle}
    {json : List UInt8} {bundle : IntelligenceBundle} :
    parseBundle decode json = .ok bundle ↔ json.length ≤ maxBundleBytes ∧
      ∃ decoded, decode json = .ok decoded ∧ decoded.Accepted ∧ bundle = decoded.sorted := by
  unfold parseBundle
  constructor
  · intro h
    split at h
    · cases h
    · rename_i hbytes
      split at h
      · cases h
      · rename_i decoded hdecode
        split at h
        · cases h
        · rename_i hschema
          split at h
          · cases h
          · rename_i hentries
            split at h
            · cases h
            · rename_i hnetworks
              split at h
              · cases h
              · rename_i hvulnerabilities
                cases h
                exact ⟨Nat.not_lt.mp hbytes, decoded, hdecode, ⟨not_not.mp hschema,
                  Nat.not_lt.mp hentries, forM_ok_iff.mp hnetworks,
                  forM_ok_iff.mp hvulnerabilities⟩, rfl⟩
  · rintro ⟨hbytes, decoded, hdecode, haccepted, rfl⟩
    rw [if_neg (Nat.not_lt.mpr hbytes), hdecode]
    simp only
    rw [if_neg (not_not.mpr haccepted.schema), if_neg (Nat.not_lt.mpr haccepted.entries),
      forM_ok_iff.mpr haccepted.networks]
    simp only
    rw [forM_ok_iff.mpr haccepted.vulnerabilities]

theorem NetworkEntry.check_ok {entry : NetworkEntry} (h : entry.check = .ok ()) :
    ∃ network, parsePrefix entry.prefixText = .ok network := by
  unfold NetworkEntry.check at h
  split at h
  · cases h
  · rename_i network hparse
    exact ⟨network, hparse⟩

/-! ## The longest network of a host -/

def NetworkEntry.parsed (entry : NetworkEntry) : Option (NetworkEntry × Prefix) :=
  (parsePrefix entry.prefixText).toOption.map fun network => (entry, network)

def longestNetwork (networks : List NetworkEntry) (address : IpAddr) :
    Option (NetworkEntry × Prefix) :=
  maxByKey (fun candidate => candidate.2.length)
    ((networks.filterMap NetworkEntry.parsed).filter fun candidate => candidate.2.contains address)

def NetworkEntry.metadata (entry : NetworkEntry) (address : IpAddr) : NetworkMetadata where
  address := address
  prefixText := entry.prefixText
  asn := entry.asn
  organization := entry.organization
  country := entry.country

def correlateNetworks (report : ScanReport) (bundle : IntelligenceBundle) : List NetworkMetadata :=
  sortBy NetworkMetadata.address (report.hosts.filterMap fun host =>
    (longestNetwork bundle.networks host.ip).map fun best => best.1.metadata host.ip)

/-- The prefix of an entry holds an address. -/
def NetworkEntry.Holds (entry : NetworkEntry) (network : Prefix) (address : IpAddr) : Prop :=
  parsePrefix entry.prefixText = .ok network ∧ network.contains address = true

theorem mem_parsed {networks : List NetworkEntry} {entry : NetworkEntry} {network : Prefix}
    {address : IpAddr} :
    (entry, network) ∈ (networks.filterMap NetworkEntry.parsed).filter
        (fun candidate => candidate.2.contains address) ↔
      entry ∈ networks ∧ entry.Holds network address := by
  have hparsed : ∀ other : NetworkEntry, other.parsed = some (entry, network) ↔
      other = entry ∧ parsePrefix entry.prefixText = .ok network := by
    intro other
    unfold NetworkEntry.parsed
    cases hparse : parsePrefix other.prefixText with
    | error error =>
      refine ⟨fun h => (nomatch h), ?_⟩
      rintro ⟨rfl, h⟩
      rw [hparse] at h
      cases h
    | ok found =>
      constructor
      · intro h
        cases h
        exact ⟨rfl, hparse⟩
      · rintro ⟨rfl, h⟩
        rw [hparse] at h
        cases h
        rfl
  rw [List.mem_filter, List.mem_filterMap]
  constructor
  · rintro ⟨⟨other, hmem, hother⟩, hcontains⟩
    obtain ⟨rfl, hparse⟩ := (hparsed other).mp hother
    exact ⟨hmem, hparse, hcontains⟩
  · rintro ⟨hmem, hparse, hcontains⟩
    exact ⟨⟨entry, hmem, (hparsed entry).mpr ⟨rfl, hparse⟩⟩, hcontains⟩

theorem longestNetwork_spec {networks : List NetworkEntry} {address : IpAddr}
    {best : NetworkEntry × Prefix} (h : longestNetwork networks address = some best) :
    best.1 ∈ networks ∧ best.1.Holds best.2 address ∧
      ∀ other ∈ networks, ∀ network, other.Holds network address →
        network.length ≤ best.2.length := by
  obtain ⟨hmem, hle⟩ := maxByKey_spec h
  obtain ⟨hentry, hholds⟩ := mem_parsed.mp hmem
  exact ⟨hentry, hholds, fun other hother network hnetwork =>
    hle (other, network) (mem_parsed.mpr ⟨hother, hnetwork⟩)⟩

theorem longestNetwork_eq_none_iff {networks : List NetworkEntry} {address : IpAddr} :
    longestNetwork networks address = none ↔
      ∀ entry ∈ networks, ∀ network, ¬entry.Holds network address := by
  rw [longestNetwork, maxByKey_eq_none, List.eq_nil_iff_forall_not_mem]
  constructor
  · intro h entry hentry network hholds
    exact h (entry, network) (mem_parsed.mpr ⟨hentry, hholds⟩)
  · intro h candidate hmem
    obtain ⟨hentry, hholds⟩ := mem_parsed.mp hmem
    exact h candidate.1 hentry candidate.2 hholds

theorem mem_correlateNetworks {report : ScanReport} {bundle : IntelligenceBundle}
    {entry : NetworkMetadata} (h : entry ∈ correlateNetworks report bundle) :
    ∃ host ∈ report.hosts, ∃ best, longestNetwork bundle.networks host.ip = some best ∧
      entry = best.1.metadata host.ip := by
  obtain ⟨host, hhost, hentry⟩ := List.mem_filterMap.mp (mem_sortBy.mp h)
  obtain ⟨best, hbest, rfl⟩ := Option.map_eq_some_iff.mp hentry
  exact ⟨host, hhost, best, hbest, rfl⟩

/-- Every host has its entry, when there is one for its address. -/
theorem countP_correlateNetworks (report : ScanReport) (bundle : IntelligenceBundle)
    (address : IpAddr) :
    (correlateNetworks report bundle).countP (fun entry => decide (entry.address = address)) =
      if (longestNetwork bundle.networks address).isSome = true then
        report.hosts.countP fun host => decide (host.ip = address)
      else 0 := by
  rw [correlateNetworks, (sortBy_perm _ _).countP_eq]
  induction report.hosts with
  | nil => simp
  | cons host hosts ih =>
    rw [List.filterMap_cons, List.countP_cons]
    cases hbest : longestNetwork bundle.networks host.ip with
    | none =>
      refine ih.trans ?_
      by_cases haddress : host.ip = address
      · rw [← haddress, hbest]
        rfl
      · rw [if_neg (show ¬decide (host.ip = address) = true by simpa using haddress)]
        rfl
    | some best =>
      rw [Option.map_some]
      refine (List.countP_cons ..).trans ?_
      rw [ih]
      by_cases haddress : host.ip = address
      · have hsome : (longestNetwork bundle.networks address).isSome = true := by
          rw [← haddress, hbest]
          rfl
        simp [hsome, haddress, NetworkEntry.metadata]
      · simp [haddress, NetworkEntry.metadata]

/-- The networks of a report: each address has one entry for each of its hosts, or none. -/
structure LongestNetworks (report : ScanReport) (bundle : IntelligenceBundle) : Prop where
  sorted : (correlateNetworks report bundle).Pairwise fun a b => a.address ≤ b.address
  found : ∀ address, (∃ entry ∈ bundle.networks, ∃ network, entry.Holds network address) →
    (correlateNetworks report bundle).countP (fun entry => decide (entry.address = address)) =
      report.hosts.countP fun host => decide (host.ip = address)
  missing : ∀ address, (¬∃ entry ∈ bundle.networks, ∃ network, entry.Holds network address) →
    ∀ entry ∈ correlateNetworks report bundle, entry.address ≠ address
  hosts : ∀ entry ∈ correlateNetworks report bundle, ∃ host ∈ report.hosts, entry.address = host.ip
  longest : ∀ entry ∈ correlateNetworks report bundle, ∃ chosen ∈ bundle.networks, ∃ network,
    entry = chosen.metadata entry.address ∧ chosen.Holds network entry.address ∧
      ∀ other ∈ bundle.networks, ∀ network', other.Holds network' entry.address →
        network'.length ≤ network.length

theorem longestNetworks (report : ScanReport) (bundle : IntelligenceBundle) :
    LongestNetworks report bundle where
  sorted := sortBy_sorted _ _
  found := by
    rintro address ⟨entry, hentry, network, hholds⟩
    have hsome : (longestNetwork bundle.networks address).isSome = true := by
      rw [Option.isSome_iff_ne_none]
      exact fun hnone => longestNetwork_eq_none_iff.mp hnone entry hentry network hholds
    rw [countP_correlateNetworks, if_pos hsome]
  missing := by
    rintro address hmissing entry hentry rfl
    obtain ⟨host, -, best, hbest, rfl⟩ := mem_correlateNetworks hentry
    obtain ⟨hmem, hholds, -⟩ := longestNetwork_spec hbest
    exact hmissing ⟨best.1, hmem, best.2, hholds⟩
  hosts := by
    intro entry hentry
    obtain ⟨host, hhost, best, -, rfl⟩ := mem_correlateNetworks hentry
    exact ⟨host, hhost, rfl⟩
  longest := by
    intro entry hentry
    obtain ⟨host, -, best, hbest, rfl⟩ := mem_correlateNetworks hentry
    obtain ⟨hmem, hholds, hle⟩ := longestNetwork_spec hbest
    exact ⟨best.1, hmem, best.2, rfl, hholds, hle⟩

/-- Two files whose networks differ in their order alone, under different prefix texts, tell the
same of every report. -/
theorem correlateNetworks_reordered {decode : List UInt8 → Except String IntelligenceBundle}
    {json json' : List UInt8} {decoded decoded' bundle bundle' : IntelligenceBundle}
    (hdecode : decode json = .ok decoded) (hdecode' : decode json' = .ok decoded')
    (hperm : decoded.networks.Perm decoded'.networks)
    (hnodup : (decoded.networks.map NetworkEntry.prefixText).Nodup)
    (h : parseBundle decode json = .ok bundle) (h' : parseBundle decode json' = .ok bundle')
    (report : ScanReport) : correlateNetworks report bundle = correlateNetworks report bundle' := by
  obtain ⟨-, other, hother, -, rfl⟩ := parseBundle_ok_iff.mp h
  obtain ⟨-, other', hother', -, rfl⟩ := parseBundle_ok_iff.mp h'
  rw [hdecode] at hother
  rw [hdecode'] at hother'
  cases hother
  cases hother'
  have hnetworks : decoded.sorted.networks = decoded'.sorted.networks :=
    sortBy_eq_of_perm hperm hnodup
  rw [correlateNetworks, correlateNetworks, hnetworks]

end Surface

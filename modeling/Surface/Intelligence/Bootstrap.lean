import Surface.Intelligence.Bundle
import Surface.Intelligence.JsonDepth

/-!
# Surface.Intelligence.Bootstrap

The bootstrap table of the registries, and the endpoint it has for an address.

* `parseBootstrap_ok`: the entries of a table, one for each prefix of its services.
* `longestPrefix_selection`: what is found in a bundle or in a table is decided by a longest match
  alone.
-/

namespace Surface

/-! ## The bootstrap table -/

def maxBootstrapServices : Nat := 64
def maxBootstrapPrefixes : Nat := 1024
def maxBootstrapAlternates : Nat := 8
def maxBootstrapStringBytes : Nat := 512

structure AllowedRdapBase where
  scheme : String
  host : String
  port : Option Nat
  basePath : String
  registry : String
deriving DecidableEq

/-- What the URL parser tells of a URL. -/
structure RdapUrl where
  scheme : String
  username : String
  password : Option String
  hostStr : Option String
  port : Option Nat
  path : String
  query : Option String
  fragment : Option String
deriving DecidableEq

structure ApprovedRdapBase where
  url : RdapUrl
  policy : AllowedRdapBase
deriving DecidableEq

structure BootstrapEntry where
  network : Prefix
  endpoint : Option ApprovedRdapBase
deriving DecidableEq

def urlMatchesPolicy (url : RdapUrl) (policy : AllowedRdapBase) (path : String) : Bool :=
  decide (url.scheme = policy.scheme) && decide (url.username = "") && url.password.isNone &&
    decide (url.hostStr = some policy.host) && decide (url.port = policy.port) &&
    decide (url.path = path) && url.query.isNone && url.fragment.isNone

def approvedRdapBase (parseUrl : String → Option RdapUrl) (allowedBases : List AllowedRdapBase)
    (value : String) : Option ApprovedRdapBase :=
  (parseUrl value).bind fun url =>
    (allowedBases.find? fun policy => urlMatchesPolicy url policy policy.basePath).map fun policy =>
      ⟨url, policy⟩

def bootstrapPrefix (ipv6 : Bool) (value : String) : Except String Prefix :=
  match parsePrefix value with
  | .error _ => .error "bootstrap response was invalid"
  | .ok network =>
    if (!network.network.isIpv4) ≠ ipv6 then .error "bootstrap response mixed address families"
    else .ok network

section Bootstrap

variable (parseUrl : String → Option RdapUrl) (ipv6 : Bool) (allowedBases : List AllowedRdapBase)

/-- The services one after the other, with how many prefixes the ones before had. -/
def bootstrapEntries (prefixCount : Nat) :
    List (List String × List String) → Except String (List BootstrapEntry)
  | [] => .ok []
  | (prefixes, alternates) :: services =>
    let prefixCount := prefixCount + prefixes.length
    if maxBootstrapPrefixes < prefixCount ∨ maxBootstrapAlternates < alternates.length ∨
        (prefixes ++ alternates).any
          (fun value => decide (maxBootstrapStringBytes < value.utf8ByteSize)) = true then
      .error "bootstrap response exceeded retained field limits"
    else
      let endpoint := alternates.findSome? (approvedRdapBase parseUrl allowedBases)
      match prefixes.mapM (bootstrapPrefix ipv6) with
      | .error error => .error error
      | .ok networks =>
        (bootstrapEntries prefixCount services).map fun entries =>
          networks.map (fun network => ⟨network, endpoint⟩) ++ entries

/-- `decode` is the JSON decoder of the services: prefixes, and the URLs that serve them. -/
def parseBootstrap (decode : List UInt8 → Option (List (List String × List String)))
    (body : List UInt8) : Except String (List BootstrapEntry) :=
  match validateJsonDepth body with
  | .error _ => .error "bootstrap JSON exceeded nesting limit"
  | .ok _ =>
    match decode body with
    | none => .error "bootstrap response was invalid"
    | some services =>
      if maxBootstrapServices < services.length then
        .error "bootstrap response exceeded service limit"
      else bootstrapEntries parseUrl ipv6 allowedBases 0 services

/-- An entry is that of a prefix of a service, with the first of its URLs that is approved. -/
def BootstrapEntry.Of (entry : BootstrapEntry) (services : List (List String × List String)) :
    Prop :=
  ∃ service ∈ services, ∃ value ∈ service.1, bootstrapPrefix ipv6 value = .ok entry.network ∧
    entry.endpoint = service.2.findSome? (approvedRdapBase parseUrl allowedBases)

variable {parseUrl ipv6 allowedBases}

theorem bootstrapEntries_ok {services : List (List String × List String)} {prefixCount : Nat}
    {entries : List BootstrapEntry}
    (h : bootstrapEntries parseUrl ipv6 allowedBases prefixCount services = .ok entries)
    {entry : BootstrapEntry} :
    entry ∈ entries ↔ entry.Of parseUrl ipv6 allowedBases services := by
  induction services generalizing prefixCount entries with
  | nil =>
    cases h
    exact ⟨fun hmem => (nomatch hmem), fun ⟨_, hservice, _⟩ => (nomatch hservice)⟩
  | cons service services ih =>
    obtain ⟨prefixes, alternates⟩ := service
    simp only [bootstrapEntries] at h
    split at h
    · cases h
    · cases hnetworks : prefixes.mapM (bootstrapPrefix ipv6) with
      | error error =>
        rw [hnetworks] at h
        cases h
      | ok networks =>
        rw [hnetworks] at h
        cases hrest : bootstrapEntries parseUrl ipv6 allowedBases (prefixCount + prefixes.length)
            services with
        | error error =>
          simp only [hrest] at h
          cases h
        | ok entries' =>
          simp only [hrest] at h
          cases h
          rw [List.mem_append, ih hrest, List.mem_map, BootstrapEntry.Of, BootstrapEntry.Of,
            List.exists_mem_cons_iff]
          refine or_congr ⟨?_, ?_⟩ Iff.rfl
          · rintro ⟨network, hnetwork, rfl⟩
            obtain ⟨value, hvalue, hparse⟩ := (mem_of_mapM_ok hnetworks).mp hnetwork
            exact ⟨value, hvalue, hparse, rfl⟩
          · rintro ⟨value, hvalue, hparse, hendpoint⟩
            exact ⟨entry.network, (mem_of_mapM_ok hnetworks).mpr ⟨value, hvalue, hparse⟩,
              by rw [← hendpoint]⟩

theorem parseBootstrap_ok {decode : List UInt8 → Option (List (List String × List String))}
    {body : List UInt8} {entries : List BootstrapEntry}
    (h : parseBootstrap parseUrl ipv6 allowedBases decode body = .ok entries) :
    ∃ services, decode body = some services ∧
      ∀ entry, entry ∈ entries ↔ entry.Of parseUrl ipv6 allowedBases services := by
  unfold parseBootstrap at h
  split at h
  · cases h
  · split at h
    · cases h
    · rename_i services hdecode
      split at h
      · cases h
      · exact ⟨services, hdecode, fun entry => bootstrapEntries_ok h⟩

end Bootstrap

/-! ## The endpoint of an address -/

def longestBootstrapEndpoint (address : IpAddr) (entries : List BootstrapEntry) :
    Option ApprovedRdapBase :=
  (maxByKey (fun entry : BootstrapEntry => entry.network.length)
    (entries.filter fun entry => entry.network.contains address)).bind BootstrapEntry.endpoint

/-- The endpoint of a longest match, whether it has one or not. -/
structure LongestEndpoint (address : IpAddr) (entries : List BootstrapEntry) : Prop where
  missing : (∀ entry ∈ entries, entry.network.contains address = false) →
    longestBootstrapEndpoint address entries = none
  decided : (∃ entry ∈ entries, entry.network.contains address = true) →
    ∃ entry ∈ entries, entry.network.contains address = true ∧
      (∀ other ∈ entries, other.network.contains address = true →
        other.network.length ≤ entry.network.length) ∧
      longestBootstrapEndpoint address entries = entry.endpoint
  unique : ∀ entry ∈ entries, entry.network.contains address = true →
    (∀ other ∈ entries, other.network.contains address = true →
      other = entry ∨ other.network.length < entry.network.length) →
    longestBootstrapEndpoint address entries = entry.endpoint

theorem longestBootstrapEndpoint_decided {address : IpAddr} {entries : List BootstrapEntry}
    (h : ∃ entry ∈ entries, entry.network.contains address = true) :
    ∃ entry ∈ entries, entry.network.contains address = true ∧
      (∀ other ∈ entries, other.network.contains address = true →
        other.network.length ≤ entry.network.length) ∧
      longestBootstrapEndpoint address entries = entry.endpoint := by
  unfold longestBootstrapEndpoint
  cases hbest : maxByKey (fun entry : BootstrapEntry => entry.network.length)
      (entries.filter fun entry => entry.network.contains address) with
  | none =>
    obtain ⟨entry, hentry, hcontains⟩ := h
    have hmem : entry ∈ entries.filter fun entry => entry.network.contains address :=
      List.mem_filter.mpr ⟨hentry, hcontains⟩
    rw [maxByKey_eq_none.mp hbest] at hmem
    cases hmem
  | some entry =>
    obtain ⟨hmem, hle⟩ := maxByKey_spec hbest
    obtain ⟨hentry, hcontains⟩ := List.mem_filter.mp hmem
    exact ⟨entry, hentry, hcontains, fun other hother hcontains' =>
      hle other (List.mem_filter.mpr ⟨hother, hcontains'⟩), rfl⟩

theorem longestEndpoint (address : IpAddr) (entries : List BootstrapEntry) :
    LongestEndpoint address entries where
  missing := by
    intro h
    have hnone : entries.filter (fun entry => entry.network.contains address) = [] :=
      List.filter_eq_nil_iff.mpr fun entry hentry => by rw [h entry hentry]; exact Bool.noConfusion
    rw [longestBootstrapEndpoint, hnone]
    rfl
  decided := longestBootstrapEndpoint_decided
  unique := by
    intro entry hentry hcontains hunique
    obtain ⟨chosen, hchosen, hcontains', hle, hresult⟩ :=
      longestBootstrapEndpoint_decided ⟨entry, hentry, hcontains⟩
    rcases hunique chosen hchosen hcontains' with rfl | hlt
    · exact hresult
    · exact absurd (hle entry hentry hcontains) (Nat.not_le.mpr hlt)

theorem longestPrefix_selection (decode : List UInt8 → Except String IntelligenceBundle) :
    (∀ report json bundle, parseBundle decode json = .ok bundle → LongestNetworks report bundle) ∧
    (∀ json json' decoded decoded' bundle bundle', decode json = .ok decoded →
      decode json' = .ok decoded' → decoded.networks.Perm decoded'.networks →
      (decoded.networks.map NetworkEntry.prefixText).Nodup →
      parseBundle decode json = .ok bundle → parseBundle decode json' = .ok bundle' →
      ∀ report, correlateNetworks report bundle = correlateNetworks report bundle') ∧
    ∀ address entries, LongestEndpoint address entries :=
  ⟨fun report _ bundle _ => longestNetworks report bundle,
    fun _ _ _ _ _ _ hdecode hdecode' hperm hnodup h h' report =>
      correlateNetworks_reordered hdecode hdecode' hperm hnodup h h' report,
    longestEndpoint⟩

/-- One host inside of both networks, one inside of the outer one alone. -/
def nestedReport : ScanReport :=
  { fixtureReport with hosts := [⟨.ofOctets 10 1 2 3, []⟩, ⟨.ofOctets 10 2 0 1, []⟩] }

/-- Two files with a network and a longer one inside of it, the one the other way round. -/
theorem longestPrefix_selection_of_nested :
    ∃ decode bundle bundle', (∃ json, parseBundle decode json = .ok bundle) ∧
      (∃ json, parseBundle decode json = .ok bundle') ∧
      (correlateNetworks nestedReport bundle).map
          (fun network => (network.address, network.prefixText, network.asn)) =
        [(.ofOctets 10 1 2 3, "10.1.0.0/16", some 64501),
          (.ofOctets 10 2 0 1, "10.0.0.0/8", some 64500)] ∧
      LongestNetworks nestedReport bundle ∧
      correlateNetworks nestedReport bundle = correlateNetworks nestedReport bundle' := by
  let outer : NetworkEntry := ⟨"10.0.0.0/8", some 64500, none, none⟩
  let inner : NetworkEntry := ⟨"10.1.0.0/16", some 64501, none, none⟩
  let start := "\x7b\"schema_version\":\"1.0\",\"source\":\"lab\",\"source_timestamp\":0,"
  let outerText := "\x7b\"prefix\":\"10.0.0.0/8\",\"asn\":64500\x7d"
  let innerText := "\x7b\"prefix\":\"10.1.0.0/16\",\"asn\":64501\x7d"
  let json := utf8Bytes (start ++ "\"networks\":[" ++ outerText ++ "," ++ innerText ++ "]\x7d")
  let json' := utf8Bytes (start ++ "\"networks\":[" ++ innerText ++ "," ++ outerText ++ "]\x7d")
  let decoded : IntelligenceBundle := ⟨"1.0", "lab", 0, [outer, inner], []⟩
  let decoded' : IntelligenceBundle := ⟨"1.0", "lab", 0, [inner, outer], []⟩
  let decode : List UInt8 → Except String IntelligenceBundle := fun text =>
    if text = json then .ok decoded else if text = json' then .ok decoded' else .error "expected value"
  have hne : json' ≠ json := by decide +kernel
  have hdecode : decode json = .ok decoded := if_pos rfl
  have hdecode' : decode json' = .ok decoded' := (if_neg hne).trans (if_pos rfl)
  have houter : NetworkEntry.check ⟨"10.0.0.0/8", some 64500, none, none⟩ = .ok () := by rfl
  have hinner : NetworkEntry.check ⟨"10.1.0.0/16", some 64501, none, none⟩ = .ok () := by rfl
  have hcheck : outer.check = .ok () ∧ inner.check = .ok () := ⟨houter, hinner⟩
  have haccepted : decoded.Accepted := ⟨rfl, by decide, by simp [decoded, hcheck], by simp [decoded]⟩
  have haccepted' : decoded'.Accepted :=
    ⟨rfl, by decide, by simp [decoded', hcheck], by simp [decoded']⟩
  have hparse : parseBundle decode json = .ok decoded.sorted :=
    parseBundle_ok_iff.mpr ⟨by decide +kernel, decoded, hdecode, haccepted, rfl⟩
  have hparse' : parseBundle decode json' = .ok decoded'.sorted :=
    parseBundle_ok_iff.mpr ⟨by decide +kernel, decoded', hdecode', haccepted', rfl⟩
  have hselection := longestPrefix_selection decode
  exact ⟨decode, _, _, ⟨json, hparse⟩, ⟨json', hparse'⟩, by decide +kernel,
    hselection.1 nestedReport json _ hparse,
    hselection.2.1 json json' decoded decoded' _ _ hdecode hdecode' (.swap _ _ _) (by decide)
      hparse hparse' nestedReport⟩

end Surface

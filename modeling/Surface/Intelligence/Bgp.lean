import Surface.Fallible
import Surface.Intelligence.JsonDepth
import Surface.Intelligence.Prefix
import Surface.Model.Intelligence
import Surface.Ordered
import Mathlib.Data.List.Dedup

/-!
# Surface.Intelligence.Bgp

What a response about the route to an address is reduced to.

* `parseOriginAsns_ok`: the origins that are read are the ones the response spells out.
* `parseBgpResponse_coherent`: the observation is about the address that was asked for, and its
  prefix, its origins and whether it is complete follow from the response.
-/

namespace Surface

def maxBgpOriginAsns : Nat := 4
def ripestatSource : String := "RIPE RIS via RIPEstat"
def ripestatObserverLimitation : String :=
  "RIPE RIS is observer-dependent and network-info uses eight-hour data dumps"

structure RipeStatNetworkInfo where
  asns : List String
  prefixText : String

structure RipeStatEnvelope where
  status : String
  statusCode : Nat
  dataCallName : String
  dataCallStatus : String
  version : String
  data : RipeStatNetworkInfo

def validVersion (version : String) : Bool :=
  match splitOnce '.' version.toList with
  | none => false
  | some (major, minor) =>
    decide (major = ['1']) && (parseUnsigned (2 ^ 16) (String.ofList minor)).isSome

def RipeStatEnvelope.successful (response : RipeStatEnvelope) : Bool :=
  decide (response.status = "ok") && decide (response.statusCode = 200) &&
    decide (response.dataCallName = "network-info") &&
    decide (response.dataCallStatus = "supported") && validVersion response.version

/-- Only the decimal text of a positive number is an origin. -/
def parseOriginAsn (value : String) : Except String Nat :=
  if value = "" ∨ value.toList.all Char.isDigit = false then
    .error "RIPEstat response contained an invalid origin ASN"
  else
    match parseUnsigned (2 ^ 32) value with
    | none => .error "RIPEstat response contained an invalid origin ASN"
    | some asn =>
      if asn = 0 ∨ value ≠ toString asn then
        .error "RIPEstat response contained an invalid origin ASN"
      else .ok asn

/-- The route of a response: first whether there is a prefix, then how many origins it has. -/
def bgpRoute (prefixText : String) (originAsns : List Nat) (address : IpAddr) :
    Except String BgpRouteObservation :=
  if prefixText = "" then
    if originAsns = [] then
      .ok ⟨address, none, originAsns, ripestatSource, true, [ripestatObserverLimitation]⟩
    else
      .ok ⟨address, none, [], ripestatSource, false, [ripestatObserverLimitation,
        "RIPEstat returned origin ASNs without a routed prefix; attribution was discarded"]⟩
  else
    match parsePrefix prefixText with
    | .error _ => .error "RIPEstat response contained an invalid routed prefix"
    | .ok network =>
      if network.contains address = false then
        .error "RIPEstat routed prefix did not contain the queried address"
      else if originAsns = [] then
        .ok ⟨address, some network.canonical, originAsns, ripestatSource, false,
          [ripestatObserverLimitation,
            "RIPEstat returned a routed prefix without origin ASNs; attribution is indeterminate"]⟩
      else
        .ok ⟨address, some network.canonical, originAsns.take maxBgpOriginAsns, ripestatSource,
          decide (originAsns.length ≤ maxBgpOriginAsns),
          ripestatObserverLimitation ::
            ((if 1 < originAsns.length then
                ["multiple origin ASNs were observed; no canonical origin was selected"]
              else []) ++
            (if maxBgpOriginAsns < originAsns.length then
                ["origin ASN limit reached; four sorted origins were retained"]
              else []))⟩

/-- `decode` is the JSON decoder of the envelope. -/
def parseBgpResponse (decode : List UInt8 → Option RipeStatEnvelope) (body : List UInt8)
    (address : IpAddr) : Except String BgpRouteObservation :=
  match validateJsonDepth body with
  | .error _ => .error "RIPEstat JSON exceeded nesting limit"
  | .ok _ =>
    match decode body with
    | none => .error "RIPEstat response was invalid"
    | some response =>
      if response.successful = false then
        .error "RIPEstat response envelope was not successful"
      else
        match response.data.asns.mapM parseOriginAsn with
        | .error error => .error error
        | .ok asns => bgpRoute response.data.prefixText (OrdSet.ofList asns).toList address

/-! ## Origins -/

theorem parseOriginAsn_ok {value : String} {asn : Nat} (h : parseOriginAsn value = .ok asn) :
    value = toString asn ∧ 0 < asn := by
  unfold parseOriginAsn at h
  split at h
  · cases h
  · split at h
    · cases h
    · split at h
      · cases h
      · rename_i hasn
        cases h
        rw [not_or, not_not] at hasn
        exact ⟨hasn.2, Nat.pos_of_ne_zero hasn.1⟩

theorem parseOriginAsns_ok {values : List String} {asns : List Nat}
    (h : values.mapM parseOriginAsn = .ok asns) :
    values = asns.map toString ∧ ∀ asn ∈ asns, 0 < asn := by
  rw [mapM_ok_iff] at h
  induction h with
  | nil => exact ⟨rfl, fun _ hasn => nomatch hasn⟩
  | cons hvalue _ ih =>
    obtain ⟨htext, hpos⟩ := parseOriginAsn_ok hvalue
    obtain ⟨htexts, hposs⟩ := ih
    exact ⟨by rw [htext, htexts, List.map_cons], List.forall_mem_cons.mpr ⟨hpos, hposs⟩⟩

/-- As many different origins are kept as the response has different texts. -/
theorem size_originAsns (asns : List Nat) :
    (asns.map toString).dedup.length = (OrdSet.ofList asns).toList.length := by
  rw [List.dedup_map_of_injective fun _ _ => toString_nat_injective, List.length_map]
  refine List.Perm.length_eq ((List.perm_ext_iff_of_nodup asns.nodup_dedup
    (OrdSet.nodup _)).mpr fun asn => ?_)
  rw [List.mem_dedup]
  exact OrdSet.mem_ofList.symm

/-! ## The observation -/

/-- What an observation says, read off the data of the response. -/
structure BgpCoherent (data : RipeStatNetworkInfo) (address : IpAddr)
    (observation : BgpRouteObservation) : Prop where
  queried : observation.address = address
  prefixText : ∀ text, observation.prefixText = some text →
    ∃ network, parsePrefix text = .ok network ∧ network.canonical = text ∧
      network.contains address = true
  sorted : observation.originAsns.Pairwise (· < ·)
  positive : 0 ∉ observation.originAsns
  bounded : observation.originAsns.length ≤ maxBgpOriginAsns
  reported : ∀ asn ∈ observation.originAsns, toString asn ∈ data.asns
  unrouted : observation.prefixText = none → observation.originAsns = []
  complete : observation.complete = true ↔
    data.prefixText = "" ∧ data.asns = [] ∨
      data.prefixText ≠ "" ∧ 1 ≤ data.asns.dedup.length ∧ data.asns.dedup.length ≤ 4

/-- The canonical text of a prefix that was read is one that holds the same address. -/
theorem canonical_contains {value : String} {network : Prefix} {address : IpAddr}
    (h : parsePrefix value = .ok network) (hcontains : network.contains address = true) :
    ∀ text, some network.canonical = some text →
      ∃ other, parsePrefix text = .ok other ∧ other.canonical = text ∧
        other.contains address = true := by
  intro text htext
  obtain ⟨other, hother, -, hsame, hcanonical⟩ := (canonicalizes (parsePrefix_valid h)).again
  cases htext
  exact ⟨other, hother, hcanonical, (hsame address).trans hcontains⟩

/-- A result has no prefix and no origins, or the prefix and the first of the origins. -/
theorem bgpRoute_cases {prefixText : String} {origins : List Nat} {address : IpAddr}
    {observation : BgpRouteObservation}
    (h : bgpRoute prefixText origins address = .ok observation) : observation.address = address ∧
      (prefixText = "" ∧ observation.prefixText = none ∧ observation.originAsns = [] ∧
          (observation.complete = true ↔ origins = []) ∨
        prefixText ≠ "" ∧ ∃ network, parsePrefix prefixText = .ok network ∧
          network.contains address = true ∧ observation.prefixText = some network.canonical ∧
          observation.originAsns = origins.take maxBgpOriginAsns ∧
          (observation.complete = true ↔ origins ≠ [] ∧ origins.length ≤ maxBgpOriginAsns)) := by
  unfold bgpRoute at h
  split at h
  · rename_i hroute
    split at h
    · rename_i horigins
      cases h
      exact ⟨rfl, .inl ⟨hroute, rfl, horigins, iff_of_true rfl horigins⟩⟩
    · rename_i horigins
      cases h
      exact ⟨rfl, .inl ⟨hroute, rfl, rfl, iff_of_false nofun horigins⟩⟩
  · rename_i hroute
    split at h
    · cases h
    · rename_i network hparse
      split at h
      · cases h
      · rename_i hcontains
        rw [Bool.not_eq_false] at hcontains
        split at h
        · rename_i horigins
          cases h
          cases horigins
          exact ⟨rfl, .inr ⟨hroute, network, hparse, hcontains, rfl, rfl,
            iff_of_false nofun fun hsome => hsome.1 rfl⟩⟩
        · rename_i horigins
          cases h
          exact ⟨rfl, .inr ⟨hroute, network, hparse, hcontains, rfl, rfl,
            decide_eq_true_iff.trans (and_iff_right horigins).symm⟩⟩

theorem bgpRoute_coherent {data : RipeStatNetworkInfo} {asns : List Nat} {address : IpAddr}
    {observation : BgpRouteObservation} (htexts : data.asns = asns.map toString)
    (hpos : ∀ asn ∈ asns, 0 < asn)
    (h : bgpRoute data.prefixText (OrdSet.ofList asns).toList address = .ok observation) :
    BgpCoherent data address observation := by
  have hcount : data.asns.dedup.length = (OrdSet.ofList asns).toList.length := by
    rw [htexts, size_originAsns]
  have hempty : data.asns = [] ↔ (OrdSet.ofList asns).toList = [] := by
    rw [← List.dedup_eq_nil, ← List.length_eq_zero_iff, hcount, List.length_eq_zero_iff]
  have hreported : ∀ asn ∈ (OrdSet.ofList asns).toList, toString asn ∈ data.asns ∧ 0 < asn := by
    intro asn hasn
    have hmem := OrdSet.mem_ofList.mp hasn
    exact ⟨htexts ▸ List.mem_map_of_mem hmem, hpos asn hmem⟩
  have hsorted := (OrdSet.ofList asns).sorted
  generalize (OrdSet.ofList asns).toList = origins at *
  obtain ⟨haddress, ⟨hroute, hnone, horigins, hcomplete⟩ |
    ⟨hroute, network, hparse, hcontains, hsome, horigins, hcomplete⟩⟩ := bgpRoute_cases h
  · refine ⟨haddress, ?_, ?_, ?_, ?_, ?_, fun _ => horigins, ?_⟩
    · rw [hnone]
      exact nofun
    · rw [horigins]
      exact .nil
    · rw [horigins]
      exact List.not_mem_nil
    · rw [horigins]
      exact Nat.zero_le _
    · rw [horigins]
      exact nofun
    · rw [hcomplete, ← hempty]
      simp [hroute]
  · have htake : ∀ asn ∈ observation.originAsns, asn ∈ origins := by
      rw [horigins]
      exact fun _ => List.mem_of_mem_take
    refine ⟨haddress, hsome ▸ canonical_contains hparse hcontains, ?_,
      fun hzero => Nat.lt_irrefl 0 (hreported 0 (htake 0 hzero)).2, ?_,
      fun asn hasn => (hreported asn (htake asn hasn)).1, ?_, ?_⟩
    · rw [horigins]
      exact hsorted.sublist (List.take_sublist _ _)
    · rw [horigins]
      exact List.length_take_le _ _
    · rw [hsome]
      exact nofun
    · rw [hcomplete, hcount, ← List.length_pos_iff]
      simp [hroute, maxBgpOriginAsns, Nat.succ_le_iff]

theorem parseBgpResponse_coherent {decode : List UInt8 → Option RipeStatEnvelope}
    {body : List UInt8} {address : IpAddr} {observation : BgpRouteObservation}
    (h : parseBgpResponse decode body address = .ok observation) :
    ∃ response, decode body = some response ∧ BgpCoherent response.data address observation := by
  unfold parseBgpResponse at h
  split at h
  · cases h
  · split at h
    · cases h
    · rename_i response hdecode
      split at h
      · cases h
      · split at h
        · cases h
        · rename_i asns hasns
          obtain ⟨htexts, hpos⟩ := parseOriginAsns_ok hasns
          exact ⟨response, hdecode, bgpRoute_coherent htexts hpos h⟩

/-- A route with two origins, which the response lists out of order and one of them twice. -/
theorem parseBgpResponse_two_origins :
    ∃ body decode observation,
      parseBgpResponse decode body (.v4 0x01010101) = .ok observation ∧
      observation.originAsns = [13335, 64500] ∧
      ∃ response, decode body = some response ∧
        BgpCoherent response.data (.v4 0x01010101) observation := by
  let body := utf8Bytes ("\x7b\"status\":\"ok\",\"status_code\":200," ++
    "\"data_call_name\":\"network-info\",\"data_call_status\":\"supported\"," ++
    "\"version\":\"1.1\",\"data\":" ++
    "\x7b\"asns\":[\"64500\",\"13335\",\"64500\"],\"prefix\":\"1.1.1.0/24\"\x7d\x7d")
  let response : RipeStatEnvelope := ⟨"ok", 200, "network-info", "supported", "1.1",
    ⟨["64500", "13335", "64500"], "1.1.1.0/24"⟩⟩
  let decode : List UInt8 → Option RipeStatEnvelope := fun text =>
    if text = body then some response else none
  have hdepth : validateJsonDepth body = .ok () := by decide +kernel
  have hdecode : decode body = some response := if_pos rfl
  have hsuccess : response.successful = true := by decide
  have hasns : response.data.asns.mapM parseOriginAsn = .ok [64500, 13335, 64500] := by rfl
  have hset : (OrdSet.ofList [64500, 13335, 64500]).toList = [13335, 64500] := by decide
  have hroute : bgpRoute "1.1.1.0/24" [13335, 64500] (.v4 0x01010101) = .ok
      ⟨.v4 0x01010101, some "1.1.1.0/24", [13335, 64500], ripestatSource, true,
        [ripestatObserverLimitation,
          "multiple origin ASNs were observed; no canonical origin was selected"]⟩ := by rfl
  have hparse : parseBgpResponse decode body (.v4 0x01010101) = .ok
      ⟨.v4 0x01010101, some "1.1.1.0/24", [13335, 64500], ripestatSource, true,
        [ripestatObserverLimitation,
          "multiple origin ASNs were observed; no canonical origin was selected"]⟩ := by
    simp only [parseBgpResponse, hdepth, hdecode, hsuccess, hasns, hset, Bool.true_eq_false,
      if_false]
    exact hroute
  exact ⟨body, decode, _, hparse, rfl, parseBgpResponse_coherent hparse⟩

end Surface

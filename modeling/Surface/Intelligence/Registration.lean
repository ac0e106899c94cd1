import Surface.Intelligence.Bootstrap
import Surface.Intelligence.Fetch

/-!
# Surface.Intelligence.Registration

One question to a registry: the URL it is asked at, and what its answer is reduced to.

* `constructRdapUrl_ok`: the URL is below an approved base and names the address, whatever the URL
  library made of the two.
* `parseRdapResponse_ok_iff`: exactly which answers are read, and the observation of each.
-/

namespace Surface

def maxRdapResponseBytes : Nat := 256 * 1024
def maxRdapStatuses : Nat := 16
def maxRdapStatusBytes : Nat := 64
def maxRdapHandleBytes : Nat := 256
def maxRdapNameBytes : Nat := 256
def maxRdapTypeBytes : Nat := 128
def maxRdapCountryBytes : Nat := 2

def bootstrapFetchReason : FetchError → String
  | .timeout => "bootstrap request timed out"
  | .resolution => "bootstrap hostname resolution failed"
  | .destination => "bootstrap destination was not public"
  | .request => "bootstrap request failed"
  | .http _ => "bootstrap service returned an HTTP error"
  | .tooLarge => "bootstrap response exceeded 64 KiB"
  | .cancelled => "scan interrupted"
  | .deadline => "global timeout expired"

def rdapFetchReason : FetchError → String
  | .timeout => "RDAP request timed out"
  | .resolution => "RDAP hostname resolution failed"
  | .destination => "RDAP destination was not public"
  | .request => "RDAP request failed"
  | .http _ => "RDAP service returned an HTTP error"
  | .tooLarge => "RDAP response exceeded 256 KiB"
  | .cancelled => "scan interrupted"
  | .deadline => "global timeout expired"

/-! ## The URL -/

/-- `pushSegments` is what the URL library makes of a base and two more segments of its path, unless
the URL cannot be a base. -/
def constructRdapUrl (pushSegments : RdapUrl → List String → Option RdapUrl)
    (endpoint : ApprovedRdapBase) (address : IpAddr) : Except String RdapUrl :=
  if urlMatchesPolicy endpoint.url endpoint.policy endpoint.policy.basePath = false then
    .error "RDAP base endpoint failed validation"
  else
    match pushSegments endpoint.url ["ip", address.display] with
    | none => .error "RDAP base endpoint failed validation"
    | some url =>
      if urlMatchesPolicy url endpoint.policy
          (endpoint.policy.basePath ++ "ip/" ++ address.display) = false then
        .error "constructed RDAP endpoint failed validation"
      else .ok url

/-- The URL of a policy that asks for an address, with nothing else in it. -/
structure RdapUrl.Asks (url : RdapUrl) (policy : AllowedRdapBase) (address : IpAddr) : Prop where
  scheme : url.scheme = policy.scheme
  host : url.hostStr = some policy.host
  port : url.port = policy.port
  path : url.path = policy.basePath ++ "ip/" ++ address.display
  credentials : url.username = "" ∧ url.password = none
  query : url.query = none ∧ url.fragment = none

theorem urlMatchesPolicy_iff {url : RdapUrl} {policy : AllowedRdapBase} {path : String} :
    urlMatchesPolicy url policy path = true ↔ url.scheme = policy.scheme ∧ url.username = "" ∧
      url.password = none ∧ url.hostStr = some policy.host ∧ url.port = policy.port ∧
      url.path = path ∧ url.query = none ∧ url.fragment = none := by
  simp only [urlMatchesPolicy, Bool.and_eq_true, decide_eq_true_eq, Option.isNone_iff_eq_none,
    and_assoc]

theorem constructRdapUrl_ok {pushSegments : RdapUrl → List String → Option RdapUrl}
    {endpoint : ApprovedRdapBase} {address : IpAddr} {url : RdapUrl}
    (h : constructRdapUrl pushSegments endpoint address = .ok url) :
    url.Asks endpoint.policy address := by
  unfold constructRdapUrl at h
  split at h
  · cases h
  · split at h
    · cases h
    · split at h
      · cases h
      · rename_i hmatches
        cases h
        obtain ⟨hscheme, husername, hpassword, hhost, hport, hpath, hquery, hfragment⟩ :=
          urlMatchesPolicy_iff.mp (Bool.not_eq_false _ ▸ hmatches)
        exact ⟨hscheme, hhost, hport, hpath, ⟨husername, hpassword⟩, hquery, hfragment⟩

theorem approvedRdapBase_policy {parseUrl : String → Option RdapUrl}
    {allowedBases : List AllowedRdapBase} {value : String} {base : ApprovedRdapBase}
    (h : approvedRdapBase parseUrl allowedBases value = some base) :
    base.policy ∈ allowedBases := by
  obtain ⟨url, -, hfound⟩ := Option.bind_eq_some_iff.mp h
  obtain ⟨policy, hfind, rfl⟩ := Option.map_eq_some_iff.mp hfound
  exact List.mem_of_find?_eq_some hfind

/-- An endpoint of a table is one of the allowed bases. -/
theorem longestBootstrapEndpoint_policy {parseUrl : String → Option RdapUrl} {ipv6 : Bool}
    {allowedBases : List AllowedRdapBase}
    {decode : List UInt8 → Option (List (List String × List String))} {body : List UInt8}
    {entries : List BootstrapEntry} {address : IpAddr} {endpoint : ApprovedRdapBase}
    (hparse : parseBootstrap parseUrl ipv6 allowedBases decode body = .ok entries)
    (h : longestBootstrapEndpoint address entries = some endpoint) :
    endpoint.policy ∈ allowedBases := by
  obtain ⟨services, -, hentries⟩ := parseBootstrap_ok hparse
  obtain ⟨entry, hbest, hendpoint⟩ := Option.bind_eq_some_iff.mp h
  have hentry : entry ∈ entries := (List.mem_filter.mp (maxByKey_spec hbest).1).1
  obtain ⟨service, -, value, -, -, hfound⟩ := (hentries entry).mp hentry
  rw [hfound] at hendpoint
  obtain ⟨alternate, -, happroved⟩ := List.exists_of_findSome?_eq_some hendpoint
  exact approvedRdapBase_policy happroved

/-! ## The answer -/

structure RdapNetworkResponse where
  objectClassName : Option String
  handle : Option String
  name : Option String
  networkType : Option String
  startAddress : Option String
  endAddress : Option String
  country : Option String
  status : List String
deriving DecidableEq

def coherentRange : IpAddr → IpAddr → IpAddr → Bool
  | .v4 start, .v4 finish, .v4 address =>
    decide (start.toNat ≤ address.toNat) && decide (address.toNat ≤ finish.toNat)
  | .v6 start, .v6 finish, .v6 address =>
    decide (start.toNat ≤ address.toNat) && decide (address.toNat ≤ finish.toNat)
  | _, _, _ => false

def validateOptionalField (value : Option String) (maximum : Nat) : Except String Unit :=
  if value.any (fun text => decide (text = "" ∨ maximum < text.utf8ByteSize)) = true then
    .error "RDAP response exceeded retained string limits"
  else .ok ()

namespace RdapNetworkResponse

def range (response : RdapNetworkResponse) (address : IpAddr) :
    Except String (Option IpAddr × Option IpAddr) :=
  match response.startAddress, response.endAddress with
  | none, none => .ok (none, none)
  | some start, some finish =>
    match IpAddr.parse start, IpAddr.parse finish with
    | some start, some finish =>
      if coherentRange start finish address = false then
        .error "RDAP response range did not contain the queried address"
      else .ok (some start, some finish)
    | _, _ => .error "RDAP response contained an invalid range"
  | _, _ => .error "RDAP response contained an incomplete range"

/-- The four texts, each with how long it may be. -/
def fields (response : RdapNetworkResponse) : List (Option String × Nat) :=
  [(response.handle, maxRdapHandleBytes), (response.name, maxRdapNameBytes),
    (response.networkType, maxRdapTypeBytes), (response.country, maxRdapCountryBytes)]

def check (response : RdapNetworkResponse) : Except String Unit :=
  if response.objectClassName ≠ some "ip network" then
    .error "RDAP response was not an IP network object"
  else
    match response.fields.forM fun field => validateOptionalField field.1 field.2 with
    | .error error => .error error
    | .ok _ =>
      if response.country.any (fun country =>
          decide (country.utf8ByteSize ≠ 2) || !country.toList.all Char.isAlpha) = true then
        .error "RDAP response contained an invalid registration country"
      else if maxRdapStatuses < response.status.length ∨ response.status.any
          (fun status => decide (status = "" ∨ maxRdapStatusBytes < status.utf8ByteSize)) = true then
        .error "RDAP response exceeded retained status limits"
      else .ok ()

end RdapNetworkResponse

/-- `decode` is the JSON decoder of the answer. -/
def parseRdapResponse (decode : List UInt8 → Option RdapNetworkResponse) (body : List UInt8)
    (address : IpAddr) (registry : String) : Except String NetworkRegistrationObservation :=
  match validateJsonDepth body with
  | .error _ => .error "RDAP JSON exceeded nesting limit"
  | .ok _ =>
    match decode body with
    | none => .error "RDAP response was invalid"
    | some response =>
      match response.check with
      | .error error => .error error
      | .ok _ =>
        match response.range address with
        | .error error => .error error
        | .ok (startAddress, endAddress) =>
          .ok
            { address := address
              source := "RDAP"
              registry := registry
              handle := response.handle
              name := response.name
              networkType := response.networkType
              startAddress := startAddress
              endAddress := endAddress
              registrationCountry := response.country
              statuses := (OrdSet.ofList response.status).toList }

/-- A text that is missing, or there and not longer than allowed. -/
def BoundedField (value : Option String) (maximum : Nat) : Prop :=
  ∀ text, value = some text → text ≠ "" ∧ text.utf8ByteSize ≤ maximum

/-- A range that is missing, or one in the family of the address with the address in it. -/
inductive RangeOf (address : IpAddr) : Option IpAddr → Option IpAddr → Prop where
  | missing : RangeOf address none none
  | around {start finish : IpAddr} (h : coherentRange start finish address = true) :
      RangeOf address (some start) (some finish)

namespace RdapNetworkResponse

structure Valid (response : RdapNetworkResponse) : Prop where
  network : response.objectClassName = some "ip network"
  handle : BoundedField response.handle maxRdapHandleBytes
  name : BoundedField response.name maxRdapNameBytes
  networkType : BoundedField response.networkType maxRdapTypeBytes
  country : ∀ country, response.country = some country →
    country.utf8ByteSize = 2 ∧ ∀ c ∈ country.toList, c.isAlpha = true
  statuses : response.status.length ≤ maxRdapStatuses ∧
    ∀ status ∈ response.status, status ≠ "" ∧ status.utf8ByteSize ≤ maxRdapStatusBytes

/-- What an observation says, read off the answer. -/
structure Yields (response : RdapNetworkResponse) (address : IpAddr) (registry : String)
    (observation : NetworkRegistrationObservation) : Prop where
  queried : observation.address = address
  source : observation.source = "RDAP" ∧ observation.registry = registry
  texts : observation.handle = response.handle ∧ observation.name = response.name ∧
    observation.networkType = response.networkType ∧
    observation.registrationCountry = response.country
  startAddress : observation.startAddress = response.startAddress.bind IpAddr.parse ∧
    observation.startAddress.isSome = response.startAddress.isSome
  endAddress : observation.endAddress = response.endAddress.bind IpAddr.parse ∧
    observation.endAddress.isSome = response.endAddress.isSome
  range : RangeOf address observation.startAddress observation.endAddress
  statuses : observation.statuses.Pairwise (· < ·) ∧
    ∀ status, status ∈ observation.statuses ↔ status ∈ response.status

end RdapNetworkResponse

theorem validateOptionalField_ok {value : Option String} {maximum : Nat} :
    validateOptionalField value maximum = .ok () ↔ BoundedField value maximum := by
  unfold validateOptionalField BoundedField
  cases value with
  | none => simp
  | some text => simp [not_or]

namespace RdapNetworkResponse

variable {response : RdapNetworkResponse} {address : IpAddr}

theorem check_ok_iff : response.check = .ok () ↔ response.Valid := by
  have hfields : (response.fields.forM fun field => validateOptionalField field.1 field.2) = .ok () ↔
      BoundedField response.handle maxRdapHandleBytes ∧ BoundedField response.name maxRdapNameBytes ∧
        BoundedField response.networkType maxRdapTypeBytes ∧
        BoundedField response.country maxRdapCountryBytes := by
    rw [forM_ok_iff]
    simp [fields, validateOptionalField_ok]
  have hcountry : ¬response.country.any (fun country =>
      decide (country.utf8ByteSize ≠ 2) || !country.toList.all Char.isAlpha) = true ↔
      ∀ country, response.country = some country →
        country.utf8ByteSize = 2 ∧ ∀ c ∈ country.toList, c.isAlpha = true := by
    cases response.country with
    | none => simp
    | some country => simp
  have hstatuses : ¬(maxRdapStatuses < response.status.length ∨ response.status.any
      (fun status => decide (status = "" ∨ maxRdapStatusBytes < status.utf8ByteSize)) = true) ↔
      response.status.length ≤ maxRdapStatuses ∧
        ∀ status ∈ response.status, status ≠ "" ∧ status.utf8ByteSize ≤ maxRdapStatusBytes := by
    simp [not_or]
  unfold check
  constructor
  · intro h
    split at h
    · cases h
    · rename_i hnetwork
      split at h
      · cases h
      · rename_i hforM
        obtain ⟨hhandle, hname, htype, -⟩ := hfields.mp hforM
        split at h
        · cases h
        · rename_i hletters
          split at h
          · cases h
          · rename_i hlimits
            exact ⟨not_not.mp hnetwork, hhandle, hname, htype, hcountry.mp hletters,
              hstatuses.mp hlimits⟩
  · intro h
    have hbound : BoundedField response.country maxRdapCountryBytes := fun country hsome => by
      obtain ⟨hsize, -⟩ := h.country country hsome
      refine ⟨?_, Nat.le_of_eq hsize⟩
      rintro rfl
      cases hsize
    rw [if_neg (not_not.mpr h.network), hfields.mpr ⟨h.handle, h.name, h.networkType, hbound⟩]
    simp only
    rw [if_neg (hcountry.mpr h.country), if_neg (hstatuses.mpr h.statuses)]

theorem range_ok {startAddress endAddress : Option IpAddr}
    (h : response.range address = .ok (startAddress, endAddress)) :
    (startAddress = response.startAddress.bind IpAddr.parse ∧
      startAddress.isSome = response.startAddress.isSome) ∧
    (endAddress = response.endAddress.bind IpAddr.parse ∧
      endAddress.isSome = response.endAddress.isSome) ∧
    RangeOf address startAddress endAddress := by
  unfold range at h
  split at h
  · rename_i hstart hend
    cases h
    rw [hstart, hend]
    exact ⟨⟨rfl, rfl⟩, ⟨rfl, rfl⟩, .missing⟩
  · rename_i hstart hend
    split at h
    · rename_i start finish hs hf
      split at h
      · cases h
      · rename_i hcoherent
        cases h
        rw [hstart, hend, Option.bind_some, Option.bind_some, hs, hf]
        exact ⟨⟨rfl, rfl⟩, ⟨rfl, rfl⟩, .around (Bool.not_eq_false _ ▸ hcoherent)⟩
    · cases h
  · cases h

theorem range_eq {startAddress endAddress : Option IpAddr}
    (hstart : startAddress = response.startAddress.bind IpAddr.parse ∧
      startAddress.isSome = response.startAddress.isSome)
    (hend : endAddress = response.endAddress.bind IpAddr.parse ∧
      endAddress.isSome = response.endAddress.isSome)
    (hrange : RangeOf address startAddress endAddress) :
    response.range address = .ok (startAddress, endAddress) := by
  unfold range
  cases hrange with
  | missing =>
    rw [Option.not_isSome_iff_eq_none.mp (Bool.eq_false_iff.mp hstart.2.symm),
      Option.not_isSome_iff_eq_none.mp (Bool.eq_false_iff.mp hend.2.symm)]
  | around hcoherent =>
    obtain ⟨start, hs⟩ := Option.isSome_iff_exists.mp hstart.2.symm
    obtain ⟨finish, hf⟩ := Option.isSome_iff_exists.mp hend.2.symm
    rw [hs, Option.bind_some] at hstart
    rw [hf, Option.bind_some] at hend
    rw [hs, hf]
    simp only [← hstart.1, ← hend.1]
    rw [if_neg (by rw [hcoherent]; exact Bool.noConfusion)]

end RdapNetworkResponse

theorem parseRdapResponse_ok_iff {decode : List UInt8 → Option RdapNetworkResponse}
    {body : List UInt8} {address : IpAddr} {registry : String}
    {observation : NetworkRegistrationObservation} :
    parseRdapResponse decode body address registry = .ok observation ↔
      validateJsonDepth body = .ok () ∧ ∃ response, decode body = some response ∧
        response.Valid ∧ response.Yields address registry observation := by
  constructor
  · intro h
    unfold parseRdapResponse at h
    split at h
    · cases h
    · rename_i hdepth
      split at h
      · cases h
      · rename_i response hdecode
        split at h
        · cases h
        · rename_i hcheck
          split at h
          · cases h
          · rename_i startAddress endAddress hrange
            cases h
            obtain ⟨hstart, hend, hof⟩ := RdapNetworkResponse.range_ok hrange
            exact ⟨hdepth, response, hdecode, RdapNetworkResponse.check_ok_iff.mp hcheck,
              { queried := rfl, source := ⟨rfl, rfl⟩, texts := ⟨rfl, rfl, rfl, rfl⟩
                startAddress := hstart, endAddress := hend, range := hof
                statuses := ⟨(OrdSet.ofList response.status).sorted, fun status =>
                  OrdSet.mem_ofList⟩ }⟩
  · rintro ⟨hdepth, response, hdecode, hvalid, hyields⟩
    have hstatuses : (OrdSet.ofList response.status).toList = observation.statuses :=
      List.Pairwise.eq_of_mem_iff (OrdSet.sorted _) hyields.statuses.1 fun {status} =>
        OrdSet.mem_ofList.trans (hyields.statuses.2 status).symm
    rw [parseRdapResponse, hdepth, hdecode]
    simp only
    rw [RdapNetworkResponse.check_ok_iff.mpr hvalid,
      RdapNetworkResponse.range_eq hyields.startAddress hyields.endAddress hyields.range]
    obtain ⟨address', source, registry', handle, name, networkType, start, finish, country,
      statuses⟩ := observation
    obtain ⟨rfl, ⟨rfl, rfl⟩, ⟨rfl, rfl, rfl, rfl⟩, -, -, -, -⟩ := hyields
    simp only [hstatuses]

end Surface

import Surface.Intelligence.RdapRun
import Surface.Target

/-!
# Surface.Intelligence.RelatedRun

The domains that share both nameservers of the target: two requests through one pinned client, and
the names that both answers list.

* `analyzeRelatedDomains_outcome`: when anything is asked at all, and what is found then.
* `identifyNameserverProvider_iff`: the provider is that of every nameserver.
-/

namespace Surface

def maxRelatedDomains : Nat := 300
def maxReverseNsResponseBytes : Nat := 1048576

def reverseNsEndpoint : String := "https://reverse-ns.whoisxmlapi.com/api/v1"

structure ReverseNsEntry where
  name : String

structure ReverseNsResponse where
  result : List ReverseNsEntry

def reverseNsFetchError : FetchError → String
  | .cancelled => "reverse-NS request was cancelled"
  | .deadline => "reverse-NS deadline elapsed"
  | .timeout => "reverse-NS request timed out"
  | .resolution => "reverse-NS host resolution failed"
  | .destination => "reverse-NS resolved to a non-public destination"
  | .request => "reverse-NS request failed"
  | .http status => "reverse-NS service returned HTTP " ++ toString status
  | .tooLarge => "reverse-NS response exceeded 1 MiB"

/-- The libraries and the network of one run: what comes of the client, and of the request for a
nameserver. -/
structure ReverseNsWorld where
  parseUrl : String → Option RdapUrl
  appendPair : RdapUrl → String × String → RdapUrl
  decode : List UInt8 → Option ReverseNsResponse
  parsers : Parsers
  client : Reach
  lookup : String → Exchange

structure ReverseNsRequest where
  nameserver : String
  url : RdapUrl
  client : Client

section Source

def nameserverProviders : List (String × String) :=
  [("cloudflare.com", "Cloudflare"), ("domaincontrol.com", "GoDaddy"),
    ("googledomains.com", "Google Cloud DNS"), ("dns-parking.com", "Hostinger")]

def inZone (zone nameserver : String) : Bool :=
  decide (nameserver = zone) || ("." ++ zone).toList.isSuffixOf nameserver.toList

def identifyNameserverProvider (nameservers : List String) : Option String :=
  nameserverProviders.findSome? fun provider =>
    if nameservers.all (inZone provider.1) = true then some provider.2 else none

def nsRecord : DnsRecord → Option String
  | .ns name => some name.toLower
  | _ => none

def ScanReport.observedNameservers (report : ScanReport) : OrdSet String :=
  OrdSet.ofList ((report.dns.elim [] DnsObservation.records).filterMap nsRecord)

def relatedCandidates (primary : String) (nameservers : List String) (left right : OrdSet String) :
    List RelatedDomainCandidate :=
  (((left.inter right).toList.filter (· ≠ primary)).take maxRelatedDomains).map fun name =>
    { name := name
      matchedNameservers := nameservers
      confidence := "medium"
      evidence :=
        ["Exact nameserver-pair match in passive reverse-NS data",
          "Shared DNS infrastructure does not prove common ownership"] }

variable (world : ReverseNsWorld) (endpoint apiKey : String)

def reverseNsQuery (nameserver : String) : List (String × String) :=
  [("apiKey", apiKey), ("ns", nameserver), ("outputFormat", "JSON")]

def reverseNsUrl (nameserver : String) : Except String RdapUrl :=
  match world.parseUrl endpoint with
  | none => .error "invalid reverse-NS endpoint"
  | some url => .ok ((reverseNsQuery apiKey nameserver).foldl world.appendPair url)

def ReverseNsEntry.hostname (parsers : Parsers) (entry : ReverseNsEntry) : Option String :=
  (normalizeTarget parsers entry.name).toOption.bind NormalizedTarget.hostname

/-- The names of an answer, and whether there may be more of them. -/
def ReverseNsResponse.names (parsers : Parsers) (response : ReverseNsResponse) :
    OrdSet String × Bool :=
  (OrdSet.ofList ((response.result.take maxRelatedDomains).filterMap
      (ReverseNsEntry.hostname parsers)),
    decide (maxRelatedDomains ≤ response.result.length))

def fetchReverseNs (nameserver : String) : Except String (OrdSet String × Bool) :=
  match getBounded maxReverseNsResponseBytes (world.lookup nameserver) with
  | .error error => .error (reverseNsFetchError error)
  | .ok body =>
    match world.decode body with
    | none => .error "reverse-NS response was invalid"
    | some response => .ok (response.names world.parsers)

/-- The error of a fetch, if there is one. -/
def fetchErrors {α : Type} : Except String α → List String
  | .error error => [error]
  | .ok _ => []

/-- What both answers come to. -/
def observeRelated (primary left right : String) : RelatedDomainsObservation :=
  let nameservers := [left, right]
  let observation : RelatedDomainsObservation :=
    { nameservers := nameservers
      provider := identifyNameserverProvider nameservers
      candidates := []
      complete := true
      errors := [] }
  match fetchReverseNs world left, fetchReverseNs world right with
  | .ok (leftNames, leftTruncated), .ok (rightNames, rightTruncated) =>
    let candidates := relatedCandidates primary nameservers leftNames rightNames
    if (leftTruncated || rightTruncated) = true then
      { observation with
        candidates := candidates
        complete := false
        errors := ["reverse-NS results were truncated at 300 domains per nameserver"] }
    else { observation with candidates := candidates }
  | leftAnswer, rightAnswer =>
    { observation with
      complete := false
      errors := fetchErrors leftAnswer ++ fetchErrors rightAnswer }

/-- The requests that are sent, and the result. -/
def analyzeRelatedDomainsAt (report : ScanReport) (clients : PinnedClients) :
    List ReverseNsRequest × Except String RelatedDomainsObservation :=
  if trimSpaces apiKey.toList = [] then ([], .error "SURFACE_WHOISXML_API_KEY is empty")
  else
    match report.target.hostname with
    | none => ([], .error "related-domain discovery requires a hostname target")
    | some primary =>
      match report.observedNameservers.toList with
      | [left, right] =>
        match reverseNsUrl world endpoint apiKey left, reverseNsUrl world endpoint apiKey right with
        | .error error, _ => ([], .error error)
        | _, .error error => ([], .error error)
        | .ok leftUrl, .ok rightUrl =>
          match (clients.clientFor (world.client.call leftUrl.hostStr)).1 with
          | .error error => ([], .error (reverseNsFetchError error))
          | .ok client =>
            ([⟨left, leftUrl, client⟩, ⟨right, rightUrl, client⟩],
              .ok (observeRelated world primary left right))
      | _ =>
        ([], .error "related-domain discovery requires exactly two observed nameservers")

end Source

/-! ## The provider -/

theorem inZone_iff {zone nameserver : String} : inZone zone nameserver = true ↔
    nameserver = zone ∨ ("." ++ zone).toList <:+ nameserver.toList := by
  rw [inZone, Bool.or_eq_true, decide_eq_true_iff, List.isSuffixOf_iff_suffix]

/-- Without its first label a name in a zone, or the zone behind a dot, ends in the zone. -/
theorem inZone_suffix {zone nameserver : String} (h : inZone zone nameserver = true) :
    zone.toList <:+ nameserver.toList := by
  rcases inZone_iff.mp h with rfl | hsuffix
  · exact List.suffix_refl _
  · refine List.IsSuffix.trans ?_ hsuffix
    rw [String.toList_append]
    exact List.suffix_append ..

/-- No zone of a provider ends in another one, so no name is in two of them. -/
theorem nameserverProviders_apart : ∀ provider ∈ nameserverProviders,
    ∀ other ∈ nameserverProviders, provider.1.toList <:+ other.1.toList → provider = other := by
  decide

theorem identifyNameserverProvider_iff {nameservers : List String} (hne : nameservers ≠ [])
    {name : String} : identifyNameserverProvider nameservers = some name ↔
      ∃ zone, (zone, name) ∈ nameserverProviders ∧
        ∀ nameserver ∈ nameservers, inZone zone nameserver = true := by
  obtain ⟨first, hfirst⟩ := List.exists_mem_of_ne_nil nameservers hne
  constructor
  · intro h
    obtain ⟨provider, hprovider, hsome⟩ := List.exists_of_findSome?_eq_some h
    split at hsome
    · rename_i hall
      cases hsome
      exact ⟨provider.1, hprovider, List.all_eq_true.mp hall⟩
    · cases hsome
  · rintro ⟨zone, hprovider, hall⟩
    cases hfound : identifyNameserverProvider nameservers with
    | none =>
      have hnone := List.findSome?_eq_none_iff.mp hfound _ hprovider
      rw [if_pos (List.all_eq_true.mpr hall)] at hnone
      cases hnone
    | some found =>
      obtain ⟨other, hother, hsome⟩ := List.exists_of_findSome?_eq_some hfound
      split at hsome
      · rename_i hzone
        cases hsome
        have hend := inZone_suffix (hall first hfirst)
        have hend' := inZone_suffix (List.all_eq_true.mp hzone first hfirst)
        have hsame : (zone, name) = other := by
          rcases List.suffix_or_suffix_of_suffix hend hend' with hsuffix | hsuffix
          · exact nameserverProviders_apart _ hprovider _ hother hsuffix
          · exact (nameserverProviders_apart _ hother _ hprovider hsuffix).symm
        rw [← hsame]
      · cases hsome

/-! ## The names of both answers -/

variable {world : ReverseNsWorld} {endpoint apiKey primary left right : String}

/-- The request for a nameserver was answered by this response. -/
def ReverseNsWorld.Answers (world : ReverseNsWorld) (nameserver : String)
    (response : ReverseNsResponse) : Prop :=
  ∃ body, getBounded maxReverseNsResponseBytes (world.lookup nameserver) = .ok body ∧
    world.decode body = some response

/-- The answer for a nameserver has the name among the first 300 of its entries. -/
def ReverseNsWorld.Lists (world : ReverseNsWorld) (nameserver name : String) : Prop :=
  ∃ response, world.Answers nameserver response ∧
    ∃ entry ∈ response.result.take 300, entry.hostname world.parsers = some name

theorem ReverseNsWorld.Answers.unique {nameserver : String} {response other : ReverseNsResponse}
    (h : world.Answers nameserver response) (h' : world.Answers nameserver other) :
    response = other := by
  obtain ⟨body, hbody, hresponse⟩ := h
  obtain ⟨body', hbody', hother⟩ := h'
  rw [hbody] at hbody'
  cases hbody'
  exact Option.some.inj (hresponse.symm.trans hother)

theorem fetchReverseNs_ok {nameserver : String} {names : OrdSet String} {truncated : Bool}
    (h : fetchReverseNs world nameserver = .ok (names, truncated)) :
    ∃ response, world.Answers nameserver response ∧
      (truncated = false ↔ response.result.length < 300) ∧ names.size ≤ 300 ∧
      ∀ name, name ∈ names ↔ world.Lists nameserver name := by
  unfold fetchReverseNs at h
  split at h
  · cases h
  · rename_i body hbody
    split at h
    · cases h
    · rename_i response hresponse
      cases h
      refine ⟨response, ⟨body, hbody, hresponse⟩, ?_, ?_, fun name => ?_⟩
      · rw [decide_eq_false_iff_not, Nat.not_le]
        rfl
      · exact (OrdSet.size_ofList_le _).trans
          ((List.length_filterMap_le _ _).trans (List.length_take_le _ _))
      · rw [OrdSet.mem_ofList, List.mem_filterMap]
        constructor
        · rintro ⟨entry, hentry, hname⟩
          exact ⟨response, ⟨body, hbody, hresponse⟩, entry, hentry, hname⟩
        · rintro ⟨other, hother, entry, hentry, hname⟩
          have hsame : other = response := hother.unique ⟨body, hbody, hresponse⟩
          exact ⟨entry, hsame ▸ hentry, hname⟩

theorem fetchReverseNs_error {nameserver error : String}
    (h : fetchReverseNs world nameserver = .error error) (response : ReverseNsResponse) :
    ¬world.Answers nameserver response := by
  rintro ⟨body, hbody, hresponse⟩
  unfold fetchReverseNs at h
  rw [hbody] at h
  simp only [hresponse] at h
  cases h

/-- The common names are never more than what is taken of them. -/
theorem relatedCandidates_names (primary : String) (nameservers : List String)
    {leftNames : OrdSet String} (rightNames : OrdSet String) (hsize : leftNames.size ≤ 300) :
    (relatedCandidates primary nameservers leftNames rightNames).map RelatedDomainCandidate.name =
      (leftNames.inter rightNames).toList.filter (· ≠ primary) := by
  have hroom : ((leftNames.inter rightNames).toList.filter (· ≠ primary)).length ≤
      maxRelatedDomains :=
    (List.length_filter_le _ _).trans
      ((OrdSet.size_le fun _ hmem => (OrdSet.mem_inter.mp hmem).1).trans hsize)
  rw [relatedCandidates, List.map_map, List.take_of_length_le hroom]
  exact List.map_id _

/-! ## What is found -/

/-- What a run finds when both requests were sent. -/
structure RelatedObserved (world : ReverseNsWorld) (primary left right : String)
    (observation : RelatedDomainsObservation) : Prop where
  nameservers : observation.nameservers = [left, right]
  provider : ∀ name, observation.provider = some name ↔
    ∃ zone, (zone, name) ∈ nameserverProviders ∧ inZone zone left = true ∧
      inZone zone right = true
  names : ∀ name, name ∈ observation.candidates.map RelatedDomainCandidate.name ↔
    name ≠ primary ∧ world.Lists left name ∧ world.Lists right name
  ascending : (observation.candidates.map RelatedDomainCandidate.name).Pairwise (· < ·)
  hedged : ∀ candidate ∈ observation.candidates, candidate.matchedNameservers = [left, right] ∧
    candidate.confidence = "medium" ∧
    "Shared DNS infrastructure does not prove common ownership" ∈ candidate.evidence
  complete : observation.complete = true ↔ observation.errors = []
  clear : observation.errors = [] ↔ ∃ leftAnswer rightAnswer,
    world.Answers left leftAnswer ∧ leftAnswer.result.length < 300 ∧
      world.Answers right rightAnswer ∧ rightAnswer.result.length < 300

theorem provider_pair_iff (left right name : String) :
    identifyNameserverProvider [left, right] = some name ↔ ∃ zone,
      (zone, name) ∈ nameserverProviders ∧ inZone zone left = true ∧ inZone zone right = true := by
  rw [identifyNameserverProvider_iff (List.cons_ne_nil _ _)]
  simp only [List.forall_mem_cons, List.not_mem_nil, false_imp_iff, implies_true, and_true]

/-- An answer is missing, so nothing is in common. -/
theorem relatedObserved_failed {errors : List String} (herrors : errors ≠ [])
    (hmissing : (∀ response, ¬world.Answers left response) ∨
      ∀ response, ¬world.Answers right response) :
    RelatedObserved world primary left right
      { nameservers := [left, right]
        provider := identifyNameserverProvider [left, right]
        candidates := []
        complete := false
        errors := errors } where
  nameservers := rfl
  provider := provider_pair_iff left right
  names := fun name => by
    refine iff_of_false (List.not_mem_nil) ?_
    rintro ⟨-, ⟨leftAnswer, hleft, -⟩, ⟨rightAnswer, hright, -⟩⟩
    exact hmissing.elim (fun h => h leftAnswer hleft) fun h => h rightAnswer hright
  ascending := .nil
  hedged := fun _ hnone => by cases hnone
  complete := iff_of_false Bool.noConfusion herrors
  clear := by
    refine iff_of_false herrors ?_
    rintro ⟨leftAnswer, rightAnswer, hleft, -, hright, -⟩
    exact hmissing.elim (fun h => h leftAnswer hleft) fun h => h rightAnswer hright

theorem observeRelated_observed (world : ReverseNsWorld) (primary left right : String) :
    RelatedObserved world primary left right (observeRelated world primary left right) := by
  unfold observeRelated
  cases hleft : fetchReverseNs world left with
  | error error =>
    refine relatedObserved_failed ?_ (.inl (fetchReverseNs_error hleft))
    exact List.append_ne_nil_of_left_ne_nil (List.cons_ne_nil _ _) _
  | ok leftAnswer =>
    cases hright : fetchReverseNs world right with
    | error error =>
      exact relatedObserved_failed (List.cons_ne_nil _ _) (.inr (fetchReverseNs_error hright))
    | ok rightAnswer =>
      obtain ⟨leftNames, leftTruncated⟩ := leftAnswer
      obtain ⟨rightNames, rightTruncated⟩ := rightAnswer
      obtain ⟨leftResponse, hleftAnswers, hleftShort, hsize, hleftNames⟩ := fetchReverseNs_ok hleft
      obtain ⟨rightResponse, hrightAnswers, hrightShort, -, hrightNames⟩ :=
        fetchReverseNs_ok hright
      have hnames := relatedCandidates_names primary [left, right] rightNames hsize
      have hmem : ∀ name, name ∈ (relatedCandidates primary [left, right] leftNames
          rightNames).map RelatedDomainCandidate.name ↔
          name ≠ primary ∧ world.Lists left name ∧ world.Lists right name := fun name => by
        rw [hnames, List.mem_filter, ← hleftNames, ← hrightNames, decide_eq_true_iff, and_comm]
        exact and_congr_right fun _ => OrdSet.mem_inter
      have hascending : ((relatedCandidates primary [left, right] leftNames rightNames).map
          RelatedDomainCandidate.name).Pairwise (· < ·) := by
        rw [hnames]
        exact (OrdSet.sorted _).filter _
      have hhedged : ∀ candidate ∈ relatedCandidates primary [left, right] leftNames rightNames,
          candidate.matchedNameservers = [left, right] ∧ candidate.confidence = "medium" ∧
          "Shared DNS infrastructure does not prove common ownership" ∈ candidate.evidence := by
        intro candidate hcandidate
        obtain ⟨name, -, rfl⟩ := List.mem_map.mp hcandidate
        exact ⟨rfl, rfl, List.mem_cons_of_mem _ List.mem_cons_self⟩
      have hclear : (leftTruncated || rightTruncated) = false ↔ ∃ leftAnswer rightAnswer,
          world.Answers left leftAnswer ∧ leftAnswer.result.length < 300 ∧
            world.Answers right rightAnswer ∧ rightAnswer.result.length < 300 := by
        rw [Bool.or_eq_false_iff, hleftShort, hrightShort]
        constructor
        · rintro ⟨hl, hr⟩
          exact ⟨leftResponse, rightResponse, hleftAnswers, hl, hrightAnswers, hr⟩
        · rintro ⟨leftAnswer, rightAnswer, hl, hlshort, hr, hrshort⟩
          exact ⟨hl.unique hleftAnswers ▸ hlshort, hr.unique hrightAnswers ▸ hrshort⟩
      simp only
      split
      · rename_i htruncated
        refine ⟨rfl, provider_pair_iff left right, hmem, hascending, hhedged,
          iff_of_false Bool.noConfusion (List.cons_ne_nil _ _),
          iff_of_false (List.cons_ne_nil _ _) fun h => ?_⟩
        rw [hclear.mpr h] at htruncated
        cases htruncated
      · rename_i hfull
        exact ⟨rfl, provider_pair_iff left right, hmem, hascending, hhedged, iff_of_true rfl rfl,
          iff_of_true rfl (hclear.mp (Bool.eq_false_of_not_eq_true hfull))⟩

/-! ## The run -/

/-- The query for the domains of a nameserver at the endpoint, through a client that is pinned to
its host. -/
structure ReverseNsRequest.Asks (request : ReverseNsRequest) (world : ReverseNsWorld)
    (endpoint apiKey : String) : Prop where
  url : ∃ base, world.parseUrl endpoint = some base ∧
    request.url = (reverseNsQuery apiKey request.nameserver).foldl world.appendPair base
  pinned : ∃ hostname, request.url.hostStr = some hostname ∧ request.client.PublicFor hostname

/-- There is no client for the endpoint. -/
def ReverseNsWorld.Unreachable (world : ReverseNsWorld) (endpoint : String)
    (clients : PinnedClients) : Prop :=
  ∀ url, world.parseUrl endpoint = some url →
    ∃ error, (clients.clientFor (world.client.call url.hostStr)).1 = .error error

/-- A run is refused before anything is sent, or asks about the two nameservers of the target. -/
inductive RelatedOutcome (world : ReverseNsWorld) (endpoint apiKey : String)
    (report : ScanReport) (clients : PinnedClients) :
    List ReverseNsRequest × Except String RelatedDomainsObservation → Prop where
  | refused (error : String)
      (hmissing : trimSpaces apiKey.toList = [] ∨ report.target.hostname = none ∨
        report.observedNameservers.size ≠ 2 ∨ world.Unreachable endpoint clients) :
      RelatedOutcome world endpoint apiKey report clients ([], .error error)
  | asked {requests : List ReverseNsRequest} {observation : RelatedDomainsObservation}
      {primary left right : String} (hkey : trimSpaces apiKey.toList ≠ [])
      (hprimary : report.target.hostname = some primary)
      (hnameservers : report.observedNameservers.toList = [left, right])
      (hrequests : ∀ request ∈ requests, request.Asks world endpoint apiKey)
      (hsent : requests.map ReverseNsRequest.nameserver = [left, right])
      (hobserved : RelatedObserved world primary left right observation) :
      RelatedOutcome world endpoint apiKey report clients (requests, .ok observation)

theorem reverseNsUrl_ok {nameserver : String} {url : RdapUrl}
    (h : reverseNsUrl world endpoint apiKey nameserver = .ok url) :
    ∃ base, world.parseUrl endpoint = some base ∧
      url = (reverseNsQuery apiKey nameserver).foldl world.appendPair base := by
  unfold reverseNsUrl at h
  split at h
  · cases h
  · rename_i base hbase
    cases h
    exact ⟨base, hbase, rfl⟩

theorem hostStr_foldl (happend : ∀ url pair, (world.appendPair url pair).hostStr = url.hostStr)
    (pairs : List (String × String)) (url : RdapUrl) :
    (pairs.foldl world.appendPair url).hostStr = url.hostStr := by
  induction pairs generalizing url with
  | nil => rfl
  | cons pair pairs ih => exact (ih _).trans (happend url pair)

theorem reverseNsUrl_error {nameserver error : String} {clients : PinnedClients}
    (h : reverseNsUrl world endpoint apiKey nameserver = .error error) :
    world.Unreachable endpoint clients := by
  intro url hurl
  rw [reverseNsUrl, hurl] at h
  cases h

/-- Nothing is asked without a key, a hostname, two nameservers and a client. Otherwise both
nameservers are asked about through a client that is pinned to public addresses, and the candidates
are all other names that both answers list; they are complete when both answers are whole. -/
theorem analyzeRelatedDomains_outcome (world : ReverseNsWorld) (endpoint apiKey : String)
    (happend : ∀ url pair, (world.appendPair url pair).hostStr = url.hostStr)
    (report : ScanReport) {clients : PinnedClients} (hclients : clients.Public) :
    RelatedOutcome world endpoint apiKey report clients
      (analyzeRelatedDomainsAt world endpoint apiKey report clients) := by
  have hhosts : ∀ nameserver base, ((reverseNsQuery apiKey nameserver).foldl
      world.appendPair base).hostStr = base.hostStr := fun nameserver base =>
    hostStr_foldl happend _ base
  unfold analyzeRelatedDomainsAt
  split
  · rename_i hkey
    exact .refused _ (.inl hkey)
  · rename_i hkey
    split
    · rename_i hprimary
      exact .refused _ (.inr (.inl hprimary))
    · rename_i primary hprimary
      split
      · rename_i left right hnameservers
        split
        · rename_i error hleft
          exact .refused _ (.inr (.inr (.inr (reverseNsUrl_error hleft))))
        · rename_i error hright _
          exact .refused _ (.inr (.inr (.inr (reverseNsUrl_error hright))))
        · rename_i leftUrl rightUrl hleft hright
          obtain ⟨base, hbase, rfl⟩ := reverseNsUrl_ok hleft
          obtain ⟨base', hbase', rfl⟩ := reverseNsUrl_ok hright
          have hsame : base' = base := Option.some.inj (hbase'.symm.trans hbase)
          rw [hhosts]
          split
          · rename_i error hcall
            refine .refused _ (.inr (.inr (.inr fun url hurl => ⟨error, ?_⟩)))
            rw [Option.some.inj (hurl.symm.trans hbase)]
            exact hcall
          · rename_i client hcall
            obtain ⟨hostname, hhost, hfor, -⟩ := clientFor_pinned hclients hcall
            refine .asked hkey hprimary hnameservers (fun request hrequest => ?_) rfl
              (observeRelated_observed world primary left right)
            rcases List.mem_pair.mp hrequest with rfl | rfl
            · exact ⟨⟨base, hbase, rfl⟩, hostname, (hhosts left base).trans hhost, hfor⟩
            · exact ⟨⟨base', hbase', rfl⟩, hostname,
                (hhosts right base').trans (hsame ▸ hhost), hfor⟩
      · rename_i hother
        refine .refused _ (.inr (.inr (.inl fun hsize => ?_)))
        obtain ⟨left, right, hpair⟩ := List.length_eq_two.mp hsize
        exact hother left right hpair

/-! ## A run with two nameservers -/

def fixtureNameservers : ScanReport :=
  { fixtureReport with
    dns := some
      { explicitIpObservation fixtureTarget (.ofOctets 8 8 8 8) with
        records := [.ns "Alice.ns.cloudflare.com", .ns "bob.ns.cloudflare.com",
          .ns "alice.ns.cloudflare.com"] } }

def fixtureReverseNs (names : String × String) : String :=
  "\x7b\"size\":2,\"result\":[\x7b\"name\":\"" ++ names.1 ++ "\"\x7d,\x7b\"name\":\"" ++ names.2 ++
    "\"\x7d]\x7d"

def fixtureOfAlice : String × String := ("related.example", "example.com")
def fixtureOfBob : String × String := ("other.example", "related.example")

def fixtureReverseNsWorld : ReverseNsWorld where
  parseUrl text :=
    if text = reverseNsEndpoint then
      some ⟨"https", "", none, some "reverse-ns.whoisxmlapi.com", none, "/api/v1", none, none⟩
    else none
  appendPair url pair :=
    { url with query := some (url.query.elim "" (· ++ "&") ++ pair.1 ++ "=" ++ pair.2) }
  decode body :=
    ([fixtureOfAlice, fixtureOfBob].find? fun names =>
      body = utf8Bytes (fixtureReverseNs names)).map fun names => ⟨[⟨names.1⟩, ⟨names.2⟩]⟩
  parsers := asciiParsers
  client := fixtureReach ""
  lookup nameserver :=
    .answered ⟨200, [.ok (utf8Bytes (fixtureReverseNs
      (if nameserver = "alice.ns.cloudflare.com" then fixtureOfAlice else fixtureOfBob)))]⟩

theorem analyzeRelatedDomains_outcome_fixture :
    ((analyzeRelatedDomainsAt fixtureReverseNsWorld reverseNsEndpoint "key" fixtureNameservers
      (PinnedClients.new 5)).1.map ReverseNsRequest.nameserver =
        ["alice.ns.cloudflare.com", "bob.ns.cloudflare.com"]) ∧
      ((analyzeRelatedDomainsAt fixtureReverseNsWorld reverseNsEndpoint "key" fixtureNameservers
        (PinnedClients.new 5)).2.toOption.map fun observation =>
          observation.candidates.map RelatedDomainCandidate.name) = some ["related.example"] ∧
      RelatedOutcome fixtureReverseNsWorld reverseNsEndpoint "key" fixtureNameservers
        (PinnedClients.new 5)
        (analyzeRelatedDomainsAt fixtureReverseNsWorld reverseNsEndpoint "key" fixtureNameservers
          (PinnedClients.new 5)) :=
  ⟨by decide +kernel, by decide +kernel,
    analyzeRelatedDomains_outcome fixtureReverseNsWorld reverseNsEndpoint "key"
      (fun _ _ => rfl) fixtureNameservers (PinnedClients.public_new 5)⟩

end Surface

import Surface.Intelligence.Bgp
import Surface.Intelligence.RdapRun

/-!
# Surface.Intelligence.BgpRun

The lookup of the routes to the primary addresses: one client, one request for each address, and the
answers in whatever order they arrive.

* `constructBgpUrl_ok`: a URL is the configured endpoint with the address as its only parameter,
  whatever the URL library made of it.
* `bgp_requests`: what is asked, of whom and through which client.
* `routesBgp_outcome`: what a run leaves in the report, whatever the order.
* `routesBgp_inTurn`: the lookups one after the other are such a run.
-/

namespace Surface

def maxBgpConcurrency : Nat := 4
def maxBgpResponseBytes : Nat := 128 * 1024

structure BgpConfig where
  endpoint : String
  scheme : String
  host : String
  port : Option Nat
  path : String

def productionBgpConfig : BgpConfig :=
  ⟨"https://stat.ripe.net/data/network-info/data.json", "https", "stat.ripe.net", none,
    "/data/network-info/data.json"⟩

/-- The URL parser tells the same of this URL as of that of a registry. -/
abbrev BgpUrl := RdapUrl

def bgpUrlMatchesPolicy (url : BgpUrl) (config : BgpConfig) (query : Bool) : Bool :=
  decide (url.scheme = config.scheme) && decide (url.username = "") && url.password.isNone &&
    decide (url.hostStr = some config.host) && decide (url.port = config.port) &&
    decide (url.path = config.path) && url.fragment.isNone && (query == url.query.isSome)

/-- The libraries and the network of one run. `appendPair` and `queryPairs` are what the URL library
writes into a query and reads from it; `client` is what the network comes to for the one client. -/
structure BgpWorld where
  parseUrl : String → Option BgpUrl
  appendPair : BgpUrl → String × String → BgpUrl
  queryPairs : BgpUrl → List (String × String)
  decode : List UInt8 → Option RipeStatEnvelope
  client : Reach
  lookup : IpAddr → Exchange

structure BgpRequest where
  address : IpAddr
  url : BgpUrl

/-- The requests that could be constructed, and what comes of the client for them. -/
structure BgpRun where
  requests : List BgpRequest
  failures : OrdSet String
  client : Option Client
  stop : Option BgpStop

section Source

variable (world : BgpWorld) (config : BgpConfig)

def constructBgpUrl (address : IpAddr) : Except String BgpUrl :=
  match world.parseUrl config.endpoint with
  | none => .error "RIPEstat endpoint was invalid"
  | some url =>
    if bgpUrlMatchesPolicy url config false = false then
      .error "RIPEstat endpoint failed validation"
    else
      let url := world.appendPair url ("resource", address.display)
      if bgpUrlMatchesPolicy url config true = false ∨
          world.queryPairs url ≠ [("resource", address.display)] then
        .error "constructed RIPEstat endpoint failed validation"
      else .ok url

def bgpRequestTurn (built : List BgpRequest × OrdSet String) (address : IpAddr) :
    List BgpRequest × OrdSet String :=
  match constructBgpUrl world config address with
  | .ok url => (built.1 ++ [⟨address, url⟩], built.2)
  | .error reason => (built.1, built.2.insert reason)

def bgpRun (clients : PinnedClients) (addresses : List IpAddr) (truncated : Bool) : BgpRun :=
  let built := addresses.foldl (bgpRequestTurn world config)
    ([], truncationFailure truncated .empty)
  match built.1 with
  | [] => ⟨built.1, built.2, none, none⟩
  | first :: _ =>
    match (clients.clientFor (world.client.call first.url.hostStr)).1 with
    | .ok client => ⟨built.1, built.2, some client, none⟩
    | .error .cancelled => ⟨built.1, built.2, none, some .cancelled⟩
    | .error .deadline => ⟨built.1, built.2, none, some .deadline⟩
    | .error error => ⟨built.1, built.2.insert (bgpFetchReason error), none, none⟩

/-- The requests that are sent: none without a client. -/
def BgpRun.asked (run : BgpRun) : List BgpRequest :=
  if run.client.isSome = true then run.requests else []

abbrev BgpAnswer := BgpRequest × Except FetchError (List UInt8)

def bgpLookup (request : BgpRequest) : BgpAnswer :=
  (request, getBounded maxBgpResponseBytes (world.lookup request.address))

def bgpVerdict : BgpAnswer → Verdict BgpRouteObservation String BgpStop
  | (request, .ok body) =>
    match parseBgpResponse world.decode body request.address with
    | .ok observation =>
      if observation.complete = false then
        .reserve observation "RIPEstat returned incomplete BGP evidence"
      else .keep observation
    | .error reason => .fail reason
  | (_, .error error) => error.verdict bgpFetchReason

/-- The answers are read in the order in which they arrive. -/
def BgpRun.Reads (run : BgpRun) (gathered : Gathered BgpRouteObservation String BgpStop) : Prop :=
  GathersFrom maxBgpConcurrency (bgpLookup world) (bgpVerdict world) run.asked
    ⟨[], run.failures, run.stop⟩ gathered

/-- A run over a report leaves it as `after`. -/
def RoutesBgp (clients : PinnedClients) (report after : ScanReport) : Prop :=
  if report.eligibleBgpAddresses.1.isEmpty = true then
    after = report.recordBgpSkip "no eligible external address in primary DNS results"
  else
    ∃ gathered, (bgpRun world config clients report.eligibleBgpAddresses.1
        report.eligibleBgpAddresses.2).Reads world gathered ∧
      after = report.finishBgpRoutes gathered.values gathered.reasons gathered.cause

end Source

/-! ## What is asked -/

/-- The endpoint with the address as its only parameter, and nothing else in it. -/
structure BgpAsks (world : BgpWorld) (config : BgpConfig) (request : BgpRequest) : Prop where
  scheme : request.url.scheme = config.scheme
  host : request.url.hostStr = some config.host
  port : request.url.port = config.port
  path : request.url.path = config.path
  credentials : request.url.username = "" ∧ request.url.password = none
  fragment : request.url.fragment = none
  query : world.queryPairs request.url = [("resource", request.address.display)]

variable {world : BgpWorld} {config : BgpConfig}

theorem constructBgpUrl_ok {address : IpAddr} {url : BgpUrl}
    (h : constructBgpUrl world config address = .ok url) : BgpAsks world config ⟨address, url⟩ := by
  unfold constructBgpUrl at h
  split at h
  · cases h
  · split at h
    · cases h
    · simp only at h
      split at h
      · cases h
      · rename_i hmatches
        cases h
        rw [not_or, Bool.not_eq_false, not_not] at hmatches
        obtain ⟨hmatches, hquery⟩ := hmatches
        simp only [bgpUrlMatchesPolicy, Bool.and_eq_true, decide_eq_true_eq,
          Option.isNone_iff_eq_none, and_assoc] at hmatches
        obtain ⟨hscheme, husername, hpassword, hhost, hport, hpath, hfragment, -⟩ := hmatches
        exact ⟨hscheme, hhost, hport, hpath, ⟨husername, hpassword⟩, hfragment, hquery⟩

/-- What holds of the requests between two addresses. -/
structure BgpBuilt (world : BgpWorld) (config : BgpConfig) (truncated : Bool)
    (considered : List IpAddr) (built : List BgpRequest × OrdSet String) : Prop where
  requests : ∀ request ∈ built.1, BgpAsks world config request
  addresses : (built.1.map BgpRequest.address).Sublist considered
  truncation : ∀ reason ∈ truncationFailure truncated .empty, reason ∈ built.2
  accounted : built.2.isEmpty = true → built.1.map BgpRequest.address = considered

theorem BgpBuilt.turn {truncated : Bool} {considered : List IpAddr}
    {built : List BgpRequest × OrdSet String} (h : BgpBuilt world config truncated considered built)
    (address : IpAddr) : BgpBuilt world config truncated (considered ++ [address])
      (bgpRequestTurn world config built address) := by
  unfold bgpRequestTurn
  split
  · rename_i url hurl
    refine ⟨fun request hrequest => ?_, ?_, h.truncation, fun hempty => ?_⟩
    · rcases List.mem_append.mp hrequest with hold | hnew
      · exact h.requests request hold
      · rw [List.mem_singleton.mp hnew]
        exact constructBgpUrl_ok hurl
    · rw [List.map_append]
      exact h.addresses.append (.refl _)
    · rw [List.map_append, h.accounted hempty]
      rfl
  · refine ⟨h.requests, h.addresses.trans (List.sublist_append_left ..), fun reason hreason =>
      OrdSet.mem_insert.mpr (.inr (h.truncation reason hreason)), fun hempty => ?_⟩
    rw [insert_isEmpty] at hempty
    cases hempty

theorem bgpBuilt_turns {truncated : Bool} (addresses : List IpAddr) {considered : List IpAddr}
    {built : List BgpRequest × OrdSet String}
    (h : BgpBuilt world config truncated considered built) :
    BgpBuilt world config truncated (considered ++ addresses)
      (addresses.foldl (bgpRequestTurn world config) built) := by
  induction addresses generalizing considered built with
  | nil => rwa [List.append_nil]
  | cons address addresses ih =>
    have hrest := ih (h.turn address)
    rwa [List.append_assoc] at hrest

/-- The failures of a run whose client could not be had are not empty. -/
structure BgpRun.Confined (world : BgpWorld) (config : BgpConfig) (truncated : Bool)
    (addresses : List IpAddr) (run : BgpRun) : Prop where
  built : BgpBuilt world config truncated addresses (run.requests, run.failures)
  client : ∀ client, run.client = some client → client.PublicFor config.host
  missing : run.client = none → run.stop = none → run.failures.isEmpty = true → run.requests = []

theorem bgpRun_confined (world : BgpWorld) (config : BgpConfig) {clients : PinnedClients}
    (hclients : clients.Public) (addresses : List IpAddr) (truncated : Bool) :
    (bgpRun world config clients addresses truncated).Confined world config truncated
      addresses := by
  have hstart : BgpBuilt world config truncated [] ([], truncationFailure truncated .empty) :=
    ⟨fun _ hnone => (by cases hnone), .slnil, fun _ hreason => hreason, fun _ => rfl⟩
  have hbuilt := bgpBuilt_turns addresses hstart
  rw [List.nil_append] at hbuilt
  unfold bgpRun
  generalize addresses.foldl (bgpRequestTurn world config) ([], truncationFailure truncated .empty)
    = built at hbuilt
  obtain ⟨requests, failures⟩ := built
  cases requests with
  | nil => exact ⟨hbuilt, fun _ hnone => (by cases hnone), fun _ _ _ => rfl⟩
  | cons first rest =>
    have hhost := (hbuilt.requests first List.mem_cons_self).host
    cases hcall : (clients.clientFor (world.client.call first.url.hostStr)).1 with
    | ok client =>
      obtain ⟨hostname, hsome, hfor, -⟩ := clientFor_pinned hclients hcall
      have hsame : config.host = hostname := Option.some.inj (hhost.symm.trans hsome)
      simp only [hcall]
      refine ⟨hbuilt, fun other hother => ?_, fun hnone => (by cases hnone)⟩
      cases hother
      exact hsame ▸ hfor
    | error error =>
      have hfailed : BgpRun.Confined world config truncated addresses
          ⟨first :: rest, failures.insert (bgpFetchReason error), none, none⟩ := by
        refine ⟨⟨hbuilt.requests, hbuilt.addresses, fun reason hreason =>
          OrdSet.mem_insert.mpr (.inr (hbuilt.truncation reason hreason)), fun hempty => ?_⟩,
          fun _ hnone => (by cases hnone), fun _ _ hempty => ?_⟩
        · rw [insert_isEmpty] at hempty
          cases hempty
        · rw [insert_isEmpty] at hempty
          cases hempty
      simp only [hcall]
      cases error with
      | cancelled =>
        exact ⟨hbuilt, fun _ hnone => (by cases hnone), fun _ hnone => (by cases hnone)⟩
      | deadline => exact ⟨hbuilt, fun _ hnone => (by cases hnone), fun _ hnone => (by cases hnone)⟩
      | _ => exact hfailed

/-- The run over a report with the clients of a new scan. -/
def ScanReport.bgpRun (report : ScanReport) (world : BgpWorld) (config : BgpConfig)
    (requestTimeout : Nat) : BgpRun :=
  Surface.bgpRun world config (PinnedClients.new requestTimeout) report.eligibleBgpAddresses.1
    report.eligibleBgpAddresses.2

theorem bgp_addresses_nodup (world : BgpWorld) (config : BgpConfig) (requestTimeout : Nat)
    (report : ScanReport) :
    ((report.bgpRun world config requestTimeout).requests.map BgpRequest.address).Nodup :=
  (report.eligiblePrimaryAddresses_nodup _).sublist
    (bgpRun_confined world config (PinnedClients.public_new requestTimeout) _ _).built.addresses

/-- All that a run asks for: at most one question for each of at most eight public addresses of the
primary host, each at the configured endpoint with the address and nothing else, and all through one
client that is pinned to public addresses of its host. -/
theorem bgp_requests (world : BgpWorld) (config : BgpConfig) (requestTimeout : Nat)
    (report : ScanReport) :
    (∀ request ∈ (report.bgpRun world config requestTimeout).requests,
      BgpAsks world config request ∧ report.PublicPrimary request.address) ∧
    (∀ client, (report.bgpRun world config requestTimeout).client = some client →
      client.PublicFor config.host) ∧
    ((report.bgpRun world config requestTimeout).requests.map BgpRequest.address).Nodup ∧
    (report.bgpRun world config requestTimeout).requests.length ≤ maxBgpAddresses := by
  have h : (report.bgpRun world config requestTimeout).Confined world config
      report.eligibleBgpAddresses.2 report.eligibleBgpAddresses.1 :=
    bgpRun_confined world config (PinnedClients.public_new requestTimeout) _ _
  refine ⟨fun request hrequest => ⟨h.built.requests request hrequest, ?_⟩, h.client,
    bgp_addresses_nodup world config requestTimeout report, ?_⟩
  · exact ScanReport.publicPrimary_of_mem
      (h.built.addresses.subset (List.mem_map_of_mem hrequest))
  · have hlength := h.built.addresses.length_le
    rw [List.length_map] at hlength
    exact hlength.trans (report.eligiblePrimaryAddresses_length _)

/-! ## What is answered -/

/-- An observation is what the answer to a request was read as. -/
def BgpRequest.Answered (world : BgpWorld) (request : BgpRequest)
    (observation : BgpRouteObservation) : Prop :=
  ∃ body response, getBounded maxBgpResponseBytes (world.lookup request.address) = .ok body ∧
    world.decode body = some response ∧ response.successful = true ∧
    BgpCoherent response.data request.address observation

/-- The fetch of a request is cancelled or runs into the deadline. -/
def BgpRequest.EndsRun (world : BgpWorld) (request : BgpRequest) : Prop :=
  getBounded maxBgpResponseBytes (world.lookup request.address) = .error .cancelled ∨
    getBounded maxBgpResponseBytes (world.lookup request.address) = .error .deadline

theorem parseBgpResponse_read {decode : List UInt8 → Option RipeStatEnvelope} {body : List UInt8}
    {address : IpAddr} {observation : BgpRouteObservation}
    (h : parseBgpResponse decode body address = .ok observation) :
    ∃ response, decode body = some response ∧ response.successful = true ∧
      BgpCoherent response.data address observation := by
  unfold parseBgpResponse at h
  split at h
  · cases h
  · split at h
    · cases h
    · rename_i response hdecode
      split at h
      · cases h
      · rename_i hsuccess
        split at h
        · cases h
        · rename_i asns hasns
          obtain ⟨htexts, hpos⟩ := parseOriginAsns_ok hasns
          exact ⟨response, hdecode, Bool.not_eq_false _ ▸ hsuccess,
            bgpRoute_coherent htexts hpos h⟩

section Outcome

variable {requestTimeout : Nat} {report after : ScanReport} {run : BgpRun}
  {gathered : Gathered BgpRouteObservation String BgpStop} {observation : BgpRouteObservation}
  {request : BgpRequest}

theorem bgpVerdict_value (h : (bgpVerdict world (bgpLookup world request)).value? =
    some observation) : request.Answered world observation := by
  unfold bgpLookup at h
  cases hanswer : getBounded maxBgpResponseBytes (world.lookup request.address) with
  | error error =>
    rw [hanswer] at h
    cases error <;> cases h
  | ok body =>
    rw [hanswer, bgpVerdict] at h
    split at h
    · rename_i parsed hparse
      obtain ⟨response, hdecode, hsuccess, hcoherent⟩ := parseBgpResponse_read hparse
      split at h
      · cases h
        exact ⟨body, response, hanswer, hdecode, hsuccess, hcoherent⟩
      · cases h
        exact ⟨body, response, hanswer, hdecode, hsuccess, hcoherent⟩
    · cases h

/-- Only a complete observation is kept without a reservation. -/
theorem bgpVerdict_keep (h : bgpVerdict world (bgpLookup world request) = .keep observation) :
    observation.complete = true := by
  unfold bgpLookup at h
  cases hanswer : getBounded maxBgpResponseBytes (world.lookup request.address) with
  | error error =>
    rw [hanswer] at h
    cases error <;> cases h
  | ok body =>
    rw [hanswer, bgpVerdict] at h
    split at h
    · split at h
      · cases h
      · rename_i hcomplete
        cases h
        exact Bool.not_eq_false _ ▸ hcomplete
    · cases h

theorem bgpVerdict_cause (h : ¬request.EndsRun world) :
    (bgpVerdict world (bgpLookup world request)).cause? = none := by
  rw [BgpRequest.EndsRun, not_or] at h
  unfold bgpLookup
  cases hanswer : getBounded maxBgpResponseBytes (world.lookup request.address) with
  | ok body =>
    rw [bgpVerdict]
    split
    · split <;> rfl
    · rfl
  | error error =>
    cases error with
    | cancelled => exact absurd hanswer h.1
    | deadline => exact absurd hanswer h.2
    | _ => rfl

theorem BgpRequest.Answered.address (h : request.Answered world observation) :
    observation.address = request.address := by
  obtain ⟨_, _, -, -, -, hcoherent⟩ := h
  exact hcoherent.queried

namespace BgpRun

theorem asked_sublist (run : BgpRun) : run.asked.Sublist run.requests := by
  unfold asked
  split
  · exact .refl _
  · exact List.nil_sublist _

theorem Reads.values (h : run.Reads world gathered) (hmem : observation ∈ gathered.values) :
    ∃ request ∈ run.asked, request.Answered world observation := by
  rcases GathersFrom.values h hmem with hnone | ⟨request, hrequest, hvalue⟩
  · cases hnone
  · exact ⟨request, hrequest, bgpVerdict_value hvalue⟩

/-- Without reasons and without an end, every request was answered by an observation. -/
theorem Reads.clear {truncated : Bool} {addresses : List IpAddr}
    (h : run.Reads world gathered) (hconfined : run.Confined world config truncated addresses)
    (hreasons : gathered.reasons.isEmpty = true) (hcause : gathered.cause = none) :
    run.failures.isEmpty = true ∧ ∀ request ∈ run.requests, ∃ observation ∈ gathered.values,
      request.Answered world observation := by
  obtain ⟨hfailures, hstop, hall⟩ := GathersFrom.clear h hreasons hcause
  refine ⟨hfailures, fun request hrequest => ?_⟩
  cases hclient : run.client with
  | none =>
    rw [hconfined.missing hclient hstop hfailures] at hrequest
    cases hrequest
  | some client =>
    have hasked : run.asked = run.requests := by
      rw [asked, hclient]
      rfl
    rw [hasked] at hall
    obtain ⟨observation, hmem, hkeep⟩ := hall request hrequest
    exact ⟨observation, hmem, bgpVerdict_value (by rw [hkeep]; rfl)⟩

theorem Reads.complete (h : run.Reads world gathered) (hreasons : gathered.reasons.isEmpty = true)
    (hcause : gathered.cause = none) (hmem : observation ∈ gathered.values) :
    observation.complete = true := by
  obtain ⟨-, -, hall⟩ := GathersFrom.clear h hreasons hcause
  rcases GathersFrom.values h hmem with hnone | ⟨request, hrequest, hvalue⟩
  · cases hnone
  · obtain ⟨kept, -, hkeep⟩ := hall request hrequest
    rw [hkeep] at hvalue
    cases hvalue
    exact bgpVerdict_keep hkeep

theorem Reads.nodup (h : run.Reads world gathered)
    (hnodup : (run.requests.map BgpRequest.address).Nodup) :
    (gathered.values.map BgpRouteObservation.address).Nodup :=
  GathersFrom.nodup h (fun _ _ hvalue => (bgpVerdict_value hvalue).address) rfl
    (hnodup.sublist (run.asked_sublist.map _))

end BgpRun

/-! ## What is left in the report -/

/-- The run as the report sees it: which URLs there are, the client, and what was read of the
answers in their order. -/
def BgpWorld.env (world : BgpWorld) (config : BgpConfig) (client : Except FetchError Unit)
    (answers : List BgpAnswer) : BgpEnv where
  requestUrl address := (constructBgpUrl world config address).map fun _ => ()
  client := client
  responses := answers.map fun answer =>
    answer.2.map fun body => parseBgpResponse world.decode body answer.1.address

theorem collectBgp_eq (world : BgpWorld) (answers : List BgpAnswer)
    (values : List BgpRouteObservation)
    (reasons : OrdSet String) (cause : Option BgpStop) :
    let gathered := gather (answers.map (bgpVerdict world)) ⟨values, reasons, cause⟩
    collectBgp (answers.map fun answer =>
        answer.2.map fun body => parseBgpResponse world.decode body answer.1.address)
      ⟨values, reasons, cause⟩ = ⟨gathered.values, gathered.reasons, gathered.cause⟩ := by
  induction answers generalizing values reasons with
  | nil => rfl
  | cons answer answers ih =>
    obtain ⟨request, result⟩ := answer
    cases result with
    | error error => cases error <;> first | rfl | exact ih _ _
    | ok body =>
      simp only [List.map_cons, Except.map, bgpVerdict]
      cases parseBgpResponse world.decode body request.address with
      | error reason => exact ih _ _
      | ok observation =>
        cases hcomplete : observation.complete with
        | true =>
          simp only [collectBgp, BgpCollected.observe, hcomplete, if_true, Bool.true_eq_false,
            if_false]
          exact ih _ _
        | false =>
          simp only [collectBgp, BgpCollected.observe, hcomplete, Bool.false_eq_true, if_true,
            if_false]
          exact ih _ _

/-- The failures of the URLs, and when there is none that could be constructed. -/
theorem bgpRequestTurns_eq (world : BgpWorld) (config : BgpConfig) (addresses : List IpAddr)
    (built : List BgpRequest × OrdSet String) :
    (addresses.foldl (bgpRequestTurn world config) built).2 =
        addresses.foldl (fun failures address =>
          match (constructBgpUrl world config address).map fun _ => () with
          | .ok _ => failures
          | .error reason => failures.insert reason) built.2 ∧
      ((addresses.foldl (bgpRequestTurn world config) built).1 = [] ↔ built.1 = [] ∧
        ∀ address ∈ addresses,
          ((constructBgpUrl world config address).map fun _ => ()).isOk = false) := by
  induction addresses generalizing built with
  | nil => simp
  | cons address addresses ih =>
    obtain ⟨hfailures, hnone⟩ := ih (bgpRequestTurn world config built address)
    rw [List.foldl_cons, List.foldl_cons, hfailures, hnone, List.forall_mem_cons]
    unfold bgpRequestTurn
    cases constructBgpUrl world config address with
    | ok url => exact ⟨rfl, by simp [Except.map, Except.isOk, Except.toBool]⟩
    | error reason => exact ⟨rfl, by simp [Except.map, Except.isOk, Except.toBool]⟩

/-- What a run leaves in the report. -/
structure BgpOutcome (world : BgpWorld) (config : BgpConfig) (requestTimeout : Nat)
    (report after : ScanReport) : Prop where
  refines : ∃ client answers, after = analyzeBgpRoutes (world.env config client answers) report
  stored : ∀ observation ∈ after.bgpRoutes, observation ∈ report.bgpRoutes ∨
    ∃ request ∈ (report.bgpRun world config requestTimeout).asked,
      request.Answered world observation
  complete : after.status = .completed → ∀ address, report.PublicPrimary address →
    ∃ observation ∈ after.bgpRoutes, observation.address = address ∧
      (observation ∈ report.bgpRoutes ∨ observation.complete = true)
  settled : (∀ request ∈ (report.bgpRun world config requestTimeout).asked,
      ¬request.EndsRun world) →
    ∀ after', RoutesBgp world config (PinnedClients.new requestTimeout) report after' →
      after' = after

/-- The run as the report sees it, by the requests that could be constructed. -/
theorem analyzeBgpRoutes_env {built : List BgpRequest × OrdSet String}
    (hbuilt : report.eligibleBgpAddresses.1.foldl (bgpRequestTurn world config)
      ([], truncationFailure report.eligibleBgpAddresses.2 .empty) = built)
    (haddresses : report.eligibleBgpAddresses.1.isEmpty = false)
    (client : Except FetchError Unit) (answers : List BgpAnswer) :
    analyzeBgpRoutes (world.env config client answers) report =
      if built.1 = [] then report.finishBgpRoutes [] built.2 none
      else
        match client with
        | .ok _ =>
          let gathered := gather (answers.map (bgpVerdict world)) ⟨[], built.2, none⟩
          report.finishBgpRoutes gathered.values gathered.reasons gathered.cause
        | .error .cancelled => report.finishBgpRoutes [] built.2 (some .cancelled)
        | .error .deadline => report.finishBgpRoutes [] built.2 (some .deadline)
        | .error error =>
          report.finishBgpRoutes [] (built.2.insert (bgpFetchReason error)) none := by
  obtain ⟨hfailures, hnone⟩ := bgpRequestTurns_eq world config report.eligibleBgpAddresses.1
    ([], truncationFailure report.eligibleBgpAddresses.2 .empty)
  rw [hbuilt] at hfailures hnone
  have hall : (∀ address ∈ report.eligibleBgpAddresses.1,
      ((world.env config client answers).requestUrl address).isOk = false) ↔ built.1 = [] := by
    rw [hnone]
    exact (and_iff_right rfl).symm
  have hcollect := collectBgp_eq world answers [] built.2 none
  unfold analyzeBgpRoutes
  simp only [haddresses, Bool.false_eq_true, if_false, List.all_eq_true, decide_eq_true_eq, hall]
  generalize hfold : List.foldl _ (truncationFailure _ _) _ = failures
  have hsame : failures = built.2 := hfold.symm.trans hfailures.symm
  rw [hsame]
  split
  · rfl
  · cases client with
    | error error => cases error <;> rfl
    | ok _ =>
      exact congrArg (fun collected : BgpCollected => report.finishBgpRoutes
        collected.observations collected.failures collected.stop) hcollect

theorem routesBgp_refines {clients : PinnedClients}
    (haddresses : report.eligibleBgpAddresses.1.isEmpty = false)
    (h : (bgpRun world config clients report.eligibleBgpAddresses.1
      report.eligibleBgpAddresses.2).Reads world gathered) :
    ∃ client answers, report.finishBgpRoutes gathered.values gathered.reasons gathered.cause =
      analyzeBgpRoutes (world.env config client answers) report := by
  cases hbuilt : report.eligibleBgpAddresses.1.foldl (bgpRequestTurn world config)
      ([], truncationFailure report.eligibleBgpAddresses.2 .empty) with
  | mk requests failures =>
    have hsent : ∀ {client : Option Client} {reasons : OrdSet String} {stop : Option BgpStop},
        client = none → BgpRun.Reads world ⟨requests, reasons, client, stop⟩ gathered →
          gathered = ⟨[], reasons, stop⟩ := by
      rintro _ reasons stop rfl hreads
      exact GathersFrom.nil hreads
    unfold bgpRun at h
    simp only [hbuilt] at h
    cases requests with
    | nil =>
      refine ⟨.error .request, [], ?_⟩
      rw [hsent rfl h, analyzeBgpRoutes_env hbuilt haddresses]
      rfl
    | cons first rest =>
      cases hcall : (clients.clientFor (world.client.call first.url.hostStr)).1 with
      | error error =>
        simp only [hcall] at h
        refine ⟨.error error, [], ?_⟩
        rw [analyzeBgpRoutes_env hbuilt haddresses, if_neg (List.cons_ne_nil _ _)]
        cases error <;> rw [hsent rfl h]
      | ok client =>
        simp only [hcall] at h
        obtain ⟨answers, -, rfl⟩ := h
        exact ⟨.ok (), answers, by
          rw [analyzeBgpRoutes_env hbuilt haddresses, if_neg (List.cons_ne_nil _ _)]⟩

/-- Without an address there is nothing but a skip. -/
theorem RoutesBgp.cases
    (h : RoutesBgp world config (PinnedClients.new requestTimeout) report after) :
    report.eligibleBgpAddresses.1.isEmpty = true ∧
        after = report.recordBgpSkip "no eligible external address in primary DNS results" ∨
      report.eligibleBgpAddresses.1.isEmpty = false ∧
        ∃ gathered, (report.bgpRun world config requestTimeout).Reads world gathered ∧
          after = report.finishBgpRoutes gathered.values gathered.reasons gathered.cause := by
  unfold RoutesBgp at h
  split at h
  · rename_i hnone
    exact .inl ⟨hnone, h⟩
  · rename_i hsome
    exact .inr ⟨Bool.eq_false_of_not_eq_true hsome, h⟩

theorem RoutesBgp.refines
    (h : RoutesBgp world config (PinnedClients.new requestTimeout) report after) :
    ∃ client answers, after = analyzeBgpRoutes (world.env config client answers) report := by
  rcases h.cases with ⟨haddresses, rfl⟩ | ⟨haddresses, gathered, hreads, rfl⟩
  · refine ⟨.error .request, [], ?_⟩
    rw [analyzeBgpRoutes]
    simp only [haddresses, if_true]
  · exact routesBgp_refines haddresses hreads

theorem RoutesBgp.stored
    (h : RoutesBgp world config (PinnedClients.new requestTimeout) report after)
    (hmem : observation ∈ after.bgpRoutes) :
    observation ∈ report.bgpRoutes ∨
      ∃ request ∈ (report.bgpRun world config requestTimeout).asked,
        request.Answered world observation := by
  rcases h.cases with ⟨-, rfl⟩ | ⟨-, gathered, hreads, rfl⟩
  · exact .inl hmem
  · exact (mem_finishBgpRoutes hmem).imp_right hreads.values

theorem RoutesBgp.complete
    (h : RoutesBgp world config (PinnedClients.new requestTimeout) report after)
    (hstatus : after.status = .completed) {address : IpAddr}
    (hpublic : report.PublicPrimary address) :
    ∃ observation ∈ after.bgpRoutes, observation.address = address ∧
      (observation ∈ report.bgpRoutes ∨ observation.complete = true) := by
  rcases h.cases with ⟨haddresses, rfl⟩ | ⟨-, gathered, hreads, rfl⟩
  · have hmem : address ∈ report.eligibleBgpAddresses.1 :=
      ScanReport.mem_eligiblePrimaryAddresses
        (ScanReport.eligiblePrimaryAddresses_empty haddresses) hpublic
    rw [List.isEmpty_iff.mp haddresses] at hmem
    cases hmem
  · have hconfined : (report.bgpRun world config requestTimeout).Confined world config
        report.eligibleBgpAddresses.2 report.eligibleBgpAddresses.1 :=
      bgpRun_confined world config (PinnedClients.public_new requestTimeout) _ _
    rw [ScanReport.finishBgpRoutes, ScanReport.finishLookup_status] at hstatus
    obtain ⟨-, hreasons, hcause⟩ := ScanReport.lookupStatus_completed hstatus
    obtain ⟨hfailures, hall⟩ := hreads.clear hconfined hreasons hcause
    have hmem : address ∈ report.eligibleBgpAddresses.1 :=
      ScanReport.mem_eligiblePrimaryAddresses
        (not_truncated hconfined.built.truncation hfailures) hpublic
    rw [← hconfined.built.accounted hfailures] at hmem
    obtain ⟨request, hrequest, rfl⟩ := List.mem_map.mp hmem
    obtain ⟨observation, hobservation, hanswered⟩ := hall request hrequest
    refine (exists_finishBgpRoutes hobservation).imp fun stored hstored =>
      ⟨hstored.1, hstored.2.trans hanswered.address, ?_⟩
    exact (mem_finishBgpRoutes hstored.1).imp_right (hreads.complete hreasons hcause)

theorem RoutesBgp.settled
    (h : RoutesBgp world config (PinnedClients.new requestTimeout) report after)
    (hends : ∀ request ∈ (report.bgpRun world config requestTimeout).asked,
      ¬request.EndsRun world) {after' : ScanReport}
    (h' : RoutesBgp world config (PinnedClients.new requestTimeout) report after') :
    after' = after := by
  rcases h.cases with ⟨haddresses, rfl⟩ | ⟨haddresses, gathered, hreads, rfl⟩
  · rcases h'.cases with ⟨-, rfl⟩ | ⟨hsome, -⟩
    · rfl
    · rw [haddresses] at hsome
      cases hsome
  · rcases h'.cases with ⟨hnone, -⟩ | ⟨-, gathered', hreads', rfl⟩
    · rw [haddresses] at hnone
      cases hnone
    · obtain ⟨hvalues, hreasons, hcause⟩ := GathersFrom.perm hreads' hreads fun request hrequest =>
        bgpVerdict_cause (hends request hrequest)
      have hnodup := hreads'.nodup (bgp_addresses_nodup world config requestTimeout report)
      unfold ScanReport.finishBgpRoutes ScanReport.finishLookup
      rw [hreasons, hcause, sortBy_eq_of_perm hvalues hnodup]

theorem routesBgp_outcome
    (h : RoutesBgp world config (PinnedClients.new requestTimeout) report after) :
    BgpOutcome world config requestTimeout report after where
  refines := h.refines
  stored _ hmem := h.stored hmem
  complete hstatus _ hpublic := h.complete hstatus hpublic
  settled hends _ h' := h.settled hends h'

end Outcome

/-- The lookups one after the other. -/
def bgpInTurn (world : BgpWorld) (config : BgpConfig) (requestTimeout : Nat)
    (report : ScanReport) : BgpEnv :=
  let run := report.bgpRun world config requestTimeout
  let client := match run.requests with
    | [] => .error .request
    | first :: _ => ((PinnedClients.new requestTimeout).clientFor
        (world.client.call first.url.hostStr)).1.map fun _ => ()
  world.env config client (run.asked.map (bgpLookup world))

theorem routesBgp_inTurn (world : BgpWorld) (config : BgpConfig) (requestTimeout : Nat)
    (report : ScanReport) :
    RoutesBgp world config (PinnedClients.new requestTimeout) report
      (analyzeBgpRoutes (bgpInTurn world config requestTimeout report) report) := by
  unfold RoutesBgp
  split
  · rename_i hnone
    rw [analyzeBgpRoutes]
    simp only [hnone, if_true]
  · rename_i hsome
    refine ⟨_, exists_gathersFrom (by decide) .., ?_⟩
    cases hbuilt : report.eligibleBgpAddresses.1.foldl (bgpRequestTurn world config)
        ([], truncationFailure report.eligibleBgpAddresses.2 .empty) with
    | mk requests failures =>
      rw [bgpInTurn, analyzeBgpRoutes_env hbuilt (Bool.eq_false_of_not_eq_true hsome)]
      unfold ScanReport.bgpRun bgpRun
      simp only [hbuilt]
      cases requests with
      | nil => rfl
      | cons first rest =>
        rw [if_neg (List.cons_ne_nil _ _)]
        cases hcall : ((PinnedClients.new requestTimeout).clientFor
            (world.client.call first.url.hostStr)).1 with
        | ok client =>
          simp only [hcall]
          rfl
        | error error => cases error <;> simp only [hcall] <;> rfl

/-- There is a run, one lookup after the other. -/
theorem routesBgp_exists (world : BgpWorld) (config : BgpConfig) (requestTimeout : Nat)
    (report : ScanReport) : ∃ after,
      RoutesBgp world config (PinnedClients.new requestTimeout) report after :=
  ⟨_, routesBgp_inTurn world config requestTimeout report⟩

/-! ## A run with two addresses -/

def fixtureRoute (asn network : String) : String :=
  "\x7b\"status\":\"ok\",\"status_code\":200,\"data_call_name\":\"network-info\"," ++
    "\"data_call_status\":\"supported\",\"version\":\"1.1\"," ++
    "\"data\":\x7b\"asns\":[\"" ++ asn ++ "\"],\"prefix\":\"" ++ network ++ "\"\x7d\x7d"

def fixtureRouteResponse (asn network : String) : RipeStatEnvelope :=
  ⟨"ok", 200, "network-info", "supported", "1.1", ⟨[asn], network⟩⟩

def fixtureBgpWorld : BgpWorld where
  parseUrl text :=
    if text = productionBgpConfig.endpoint then
      some ⟨"https", "", none, some "stat.ripe.net", none, "/data/network-info/data.json", none,
        none⟩
    else none
  appendPair url pair := { url with query := some (pair.1 ++ "=" ++ pair.2) }
  queryPairs url :=
    match url.query.bind fun query => splitOnce '=' query.toList with
    | none => []
    | some (name, value) => [(String.ofList name, String.ofList value)]
  decode body :=
    if body = utf8Bytes (fixtureRoute "15169" "8.8.8.0/24") then
      some (fixtureRouteResponse "15169" "8.8.8.0/24")
    else if body = utf8Bytes (fixtureRoute "13335" "1.1.1.0/24") then
      some (fixtureRouteResponse "13335" "1.1.1.0/24")
    else none
  client := fixtureReach ""
  lookup address :=
    .answered ⟨200, [.ok (utf8Bytes (if address = .ofOctets 8 8 8 8 then
      fixtureRoute "15169" "8.8.8.0/24" else fixtureRoute "13335" "1.1.1.0/24"))]⟩

def fixtureBgpRun : BgpRun :=
  fixtureLookupReport.bgpRun fixtureBgpWorld productionBgpConfig 5

/-- The second lookup completes before the first one. -/
def fixtureRouted : Gathered BgpRouteObservation String BgpStop :=
  gather ((fixtureBgpRun.asked.reverse.map (bgpLookup fixtureBgpWorld)).map
    (bgpVerdict fixtureBgpWorld)) ⟨[], fixtureBgpRun.failures, fixtureBgpRun.stop⟩

def fixtureRoutesAfter : ScanReport :=
  fixtureLookupReport.finishBgpRoutes fixtureRouted.values fixtureRouted.reasons fixtureRouted.cause

theorem routesBgp_outcome_fixture :
    fixtureRouted.values.map BgpRouteObservation.address =
        [.ofOctets 8 8 8 8, .ofOctets 1 1 1 1] ∧
      fixtureRoutesAfter.bgpRoutes.map
          (fun observation => (observation.address, observation.originAsns)) =
        [(.ofOctets 1 1 1 1, [13335]), (.ofOctets 8 8 8 8, [15169])] ∧
      BgpOutcome fixtureBgpWorld productionBgpConfig 5 fixtureLookupReport fixtureRoutesAfter := by
  have hrun : RoutesBgp fixtureBgpWorld productionBgpConfig (PinnedClients.new 5)
      fixtureLookupReport fixtureRoutesAfter := by
    have haddresses : fixtureLookupReport.eligibleBgpAddresses.1.isEmpty = false := by
      decide +kernel
    have hroom : fixtureBgpRun.asked.length ≤ maxBgpConcurrency := by decide +kernel
    rw [RoutesBgp, haddresses, if_neg Bool.noConfusion]
    exact ⟨_, ⟨_, Buffer.collects_of_perm hroom (List.reverse_perm _), rfl⟩, rfl⟩
  exact ⟨by decide +kernel, by decide +kernel, routesBgp_outcome hrun⟩

end Surface

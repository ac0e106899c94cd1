import Surface.Dns.Baseline
import Surface.Gather
import Surface.Intelligence.Phases
import Surface.Intelligence.Registration
import Surface.Unordered

/-!
# Surface.Intelligence.RdapRun

The lookup of the registrations of the primary addresses: the bootstrap tables, the requests that
they lead to, and the answers in whatever order they arrive.

* `RdapRun.Confined`: what one turn of either loop preserves.
* `rdapRun_confined`: nothing but the bootstraps and the approved registries is asked, for eligible
  addresses alone, and through public pinned clients.
* `registersNetworks_outcome`: what a run leaves in the report, whatever the order.
* `registersNetworks_inTurn`: the lookups one after the other are such a run.
-/

namespace Surface

def maxRdapConcurrency : Nat := 4
def maxBootstrapBytes : Nat := 64 * 1024

structure RdapConfig where
  ipv4Bootstrap : String
  ipv6Bootstrap : String
  allowedBases : List AllowedRdapBase

def RdapConfig.bootstrap (config : RdapConfig) (ipv6 : Bool) : String :=
  if ipv6 then config.ipv6Bootstrap else config.ipv4Bootstrap

def officialRdapBases : List AllowedRdapBase :=
  [⟨"https", "rdap.arin.net", none, "/registry/", "ARIN"⟩,
    ⟨"https", "rdap.db.ripe.net", none, "/", "RIPE NCC"⟩,
    ⟨"https", "rdap.apnic.net", none, "/", "APNIC"⟩,
    ⟨"https", "rdap.lacnic.net", none, "/rdap/", "LACNIC"⟩,
    ⟨"https", "rdap.afrinic.net", none, "/rdap/", "AFRINIC"⟩]

def productionRdapConfig : RdapConfig :=
  ⟨"https://data.iana.org/rdap/ipv4.json", "https://data.iana.org/rdap/ipv6.json",
    officialRdapBases⟩

/-- The libraries and the network of one run. -/
structure RdapWorld where
  parseUrl : String → Option RdapUrl
  pushSegments : RdapUrl → List String → Option RdapUrl
  decodeBootstrap : List UInt8 → Option (List (List String × List String))
  decodeNetwork : List UInt8 → Option RdapNetworkResponse
  bootstrap : Bool → Reach
  lookup : IpAddr → Reach

structure RdapFetch where
  url : RdapUrl
  client : Client

structure RdapRequest extends RdapFetch where
  address : IpAddr
  registry : String

/-- The state of both loops. `fetched` records the bootstraps that were asked for. -/
structure RdapRun where
  clients : PinnedClients
  ipv4Entries : Option (List BootstrapEntry)
  ipv6Entries : Option (List BootstrapEntry)
  failures : OrdSet String
  fetched : List RdapFetch
  requests : List RdapRequest
  stop : Option RdapStop

namespace RdapRun

def start (clients : PinnedClients) (truncated : Bool) : RdapRun :=
  ⟨clients, none, none, truncationFailure truncated .empty, [], [], none⟩

def fail (run : RdapRun) (reason : String) : RdapRun :=
  { run with failures := run.failures.insert reason }

def fetchFailed (run : RdapRun) (reason : FetchError → String) (error : FetchError) : RdapRun :=
  match error with
  | .cancelled => { run with stop := some .cancelled }
  | .deadline => { run with stop := some .deadline }
  | error => run.fail (reason error)

def entries (run : RdapRun) (ipv6 : Bool) : Option (List BootstrapEntry) :=
  if ipv6 then run.ipv6Entries else run.ipv4Entries

def setEntries (run : RdapRun) (ipv6 : Bool) (entries : List BootstrapEntry) : RdapRun :=
  if ipv6 then { run with ipv6Entries := some entries }
  else { run with ipv4Entries := some entries }

section Source

variable (world : RdapWorld) (config : RdapConfig)

def readBootstrap (run : RdapRun) (ipv6 : Bool) : RdapRun :=
  match getBounded maxBootstrapBytes (world.bootstrap ipv6).exchange with
  | .error error => run.fetchFailed bootstrapFetchReason error
  | .ok body =>
    match parseBootstrap world.parseUrl ipv6 config.allowedBases world.decodeBootstrap body with
    | .ok entries => run.setEntries ipv6 entries
    | .error reason => run.fail reason

def fetchBootstrap (run : RdapRun) (ipv6 : Bool) : RdapRun :=
  match world.parseUrl (config.bootstrap ipv6) with
  | none => run.fail "bootstrap endpoint was invalid"
  | some url =>
    match run.clients.clientFor ((world.bootstrap ipv6).call url.hostStr) with
    | (.error error, clients) =>
      fetchFailed { run with clients := clients } bootstrapFetchReason error
    | (.ok client, clients) =>
      readBootstrap world config
        { run with clients := clients, fetched := run.fetched ++ [⟨url, client⟩] } ipv6

/-- The bootstrap of a family, unless none of the addresses is of it or the run has ended. -/
def bootstrapTurn (addresses : List IpAddr) (run : RdapRun) (ipv6 : Bool) : RdapRun :=
  if run.stop.isSome = true ∨ addresses.any (fun address => address.isIpv6 == ipv6) = false then run
  else run.fetchBootstrap world config ipv6

def request (run : RdapRun) (address : IpAddr) (policy : AllowedRdapBase) (url : RdapUrl) :
    RdapRun :=
  match run.clients.clientFor ((world.lookup address).call url.hostStr) with
  | (.error error, clients) => fetchFailed { run with clients := clients } rdapFetchReason error
  | (.ok client, clients) =>
    { run with
      clients := clients
      requests := run.requests ++ [⟨⟨url, client⟩, address, policy.registry⟩] }

/-- The request for an address, unless the run has ended. -/
def requestTurn (run : RdapRun) (address : IpAddr) : RdapRun :=
  if run.stop.isSome = true then run
  else
    match run.entries address.isIpv6 with
    | none => run.fail "bootstrap data unavailable for an address family"
    | some entries =>
      match longestBootstrapEndpoint address entries with
      | none => run.fail "bootstrap had no approved authoritative endpoint"
      | some endpoint =>
        match constructRdapUrl world.pushSegments endpoint address with
        | .error reason => run.fail reason
        | .ok url => run.request world address endpoint.policy url

end Source

end RdapRun

section Source

variable (world : RdapWorld) (config : RdapConfig) (clients : PinnedClients)

/-- Both loops: what is known, and what is to be asked, when the lookups start. -/
def rdapRun (addresses : List IpAddr) (truncated : Bool) : RdapRun :=
  addresses.foldl (RdapRun.requestTurn world)
    ([false, true].foldl (RdapRun.bootstrapTurn world config addresses)
      (RdapRun.start clients truncated))

abbrev RdapResponse := RdapRequest × Except FetchError (List UInt8)

def rdapLookup (request : RdapRequest) : RdapResponse :=
  (request, getBounded maxRdapResponseBytes (world.lookup request.address).exchange)

def rdapVerdict : RdapResponse → Verdict NetworkRegistrationObservation String RdapStop
  | (request, .ok body) =>
    match parseRdapResponse world.decodeNetwork body request.address request.registry with
    | .ok observation => .keep observation
    | .error reason => .fail reason
  | (_, .error error) => error.verdict rdapFetchReason

/-- The requests that are sent: none when the run has ended before. -/
def RdapRun.asked (run : RdapRun) : List RdapRequest :=
  if run.stop.isSome = true then [] else run.requests

/-- The answers are read in the order in which they arrive. -/
def RdapRun.Reads (run : RdapRun)
    (gathered : Gathered NetworkRegistrationObservation String RdapStop) : Prop :=
  GathersFrom maxRdapConcurrency (rdapLookup world) (rdapVerdict world) run.asked
    ⟨[], run.failures, run.stop⟩ gathered

/-- A run over a report leaves it as `after`. -/
def RegistersNetworks (report after : ScanReport) : Prop :=
  if report.eligibleRdapAddresses.1.isEmpty = true then
    after = report.recordNetworkRegistrationSkip
      "no eligible external address in primary DNS results"
  else
    ∃ gathered, (rdapRun world config clients report.eligibleRdapAddresses.1
        report.eligibleRdapAddresses.2).Reads world gathered ∧
      after = report.finishNetworkRegistrations gathered.values gathered.reasons gathered.cause

end Source

/-! ## What is asked -/

def RdapFetch.Pinned (fetch : RdapFetch) : Prop :=
  ∃ hostname, fetch.url.hostStr = some hostname ∧ fetch.client.PublicFor hostname

/-- A request at an allowed base for the address it is about. -/
def RdapRequest.Approved (request : RdapRequest) (allowedBases : List AllowedRdapBase) : Prop :=
  ∃ policy ∈ allowedBases, request.registry = policy.registry ∧
    request.url.Asks policy request.address ∧ request.client.PublicFor policy.host

namespace RdapRun

/-- What holds between two turns, when these addresses have been considered and the run started with
these failures. -/
structure Confined (world : RdapWorld) (config : RdapConfig) (truncated : Bool)
    (considered : List IpAddr) (run : RdapRun) : Prop where
  clients : run.clients.Public
  fetched : ∀ fetch ∈ run.fetched,
    (∃ ipv6, world.parseUrl (config.bootstrap ipv6) = some fetch.url) ∧ fetch.Pinned
  entries : ∀ ipv6 entries, run.entries ipv6 = some entries → ∃ body,
    parseBootstrap world.parseUrl ipv6 config.allowedBases world.decodeBootstrap body = .ok entries
  requests : ∀ request ∈ run.requests, request.Approved config.allowedBases
  addresses : (run.requests.map RdapRequest.address).Sublist considered
  truncation : ∀ reason ∈ truncationFailure truncated .empty, reason ∈ run.failures
  accounted : run.stop = none → run.failures.isEmpty = true →
    run.requests.map RdapRequest.address = considered

variable {world : RdapWorld} {config : RdapConfig} {truncated : Bool} {considered : List IpAddr}
  {run : RdapRun}

theorem confined_start {clients : PinnedClients} (hclients : clients.Public) :
    (start clients truncated).Confined world config truncated [] where
  clients := hclients
  fetched := fun _ hfetch => by cases hfetch
  entries := fun ipv6 entries hentries => by cases ipv6 <;> cases hentries
  requests := fun _ hrequest => by cases hrequest
  addresses := .slnil
  truncation := fun _ hreason => hreason
  accounted := fun _ _ => rfl

/-- A turn that ends in one more failure. -/
theorem Confined.fail (h : run.Confined world config truncated considered) (reason : String)
    {more : List IpAddr} (hmore : considered.Sublist more) :
    (run.fail reason).Confined world config truncated more where
  clients := h.clients
  fetched := h.fetched
  entries := h.entries
  requests := h.requests
  addresses := h.addresses.trans hmore
  truncation := fun other hother => OrdSet.mem_insert.mpr (.inr (h.truncation other hother))
  accounted := fun _ hempty => absurd hempty (by simp [RdapRun.fail, insert_isEmpty])

/-- A turn that ends the run. -/
theorem Confined.stopped (h : run.Confined world config truncated considered) (stop : RdapStop)
    {more : List IpAddr} (hmore : considered.Sublist more) :
    ({ run with stop := some stop } : RdapRun).Confined world config truncated more :=
  { h with addresses := h.addresses.trans hmore, accounted := fun hnone => by cases hnone }

theorem Confined.fetchFailed (h : run.Confined world config truncated considered)
    (reason : FetchError → String) (error : FetchError) {more : List IpAddr}
    (hmore : considered.Sublist more) :
    (run.fetchFailed reason error).Confined world config truncated more := by
  cases error with
  | cancelled => exact h.stopped .cancelled hmore
  | deadline => exact h.stopped .deadline hmore
  | _ => exact h.fail _ hmore

theorem Confined.withClients (h : run.Confined world config truncated considered)
    {clients : PinnedClients} (hclients : clients.Public) :
    ({ run with clients := clients } : RdapRun).Confined world config truncated considered :=
  { h with clients := hclients }

theorem entries_setEntries {ipv6 family : Bool} {table entries : List BootstrapEntry}
    (h : (run.setEntries ipv6 table).entries family = some entries) :
    family = ipv6 ∧ entries = table ∨ run.entries family = some entries := by
  cases ipv6 <;> cases family
  · exact .inl ⟨rfl, (Option.some.inj h).symm⟩
  · exact .inr h
  · exact .inr h
  · exact .inl ⟨rfl, (Option.some.inj h).symm⟩

theorem Confined.readBootstrap (h : run.Confined world config truncated considered)
    (ipv6 : Bool) : (run.readBootstrap world config ipv6).Confined world config truncated
      considered := by
  unfold RdapRun.readBootstrap
  split
  · exact h.fetchFailed _ _ (.refl _)
  · rename_i body hbody
    split
    · rename_i table hparse
      have hentries : ∀ family entries, (run.setEntries ipv6 table).entries family = some entries →
          ∃ body, parseBootstrap world.parseUrl family config.allowedBases world.decodeBootstrap
            body = .ok entries := by
        intro family entries hsome
        rcases entries_setEntries hsome with ⟨rfl, rfl⟩ | hold
        · exact ⟨body, hparse⟩
        · exact h.entries family entries hold
      cases ipv6 <;> exact { h with entries := hentries }
    · exact h.fail _ (.refl _)

theorem Confined.bootstrapTurn (h : run.Confined world config truncated considered)
    (addresses : List IpAddr) (ipv6 : Bool) :
    (run.bootstrapTurn world config addresses ipv6).Confined world config truncated
      considered := by
  unfold RdapRun.bootstrapTurn fetchBootstrap
  split
  · exact h
  · split
    · exact h.fail _ (.refl _)
    · rename_i url hurl
      have hpublic := h.clients.clientFor ((world.bootstrap ipv6).call url.hostStr)
      split
      · rename_i error clients hcall
        rw [hcall] at hpublic
        exact (h.withClients hpublic).fetchFailed _ _ (.refl _)
      · rename_i client clients hcall
        obtain ⟨hostname, hhost, hfor, -⟩ := clientFor_pinned h.clients (congrArg Prod.fst hcall)
        rw [hcall] at hpublic
        have hfetched : ∀ fetch ∈ run.fetched ++ [⟨url, client⟩],
            (∃ ipv6, world.parseUrl (config.bootstrap ipv6) = some fetch.url) ∧ fetch.Pinned := by
          intro fetch hfetch
          rcases List.mem_append.mp hfetch with hold | hnew
          · exact h.fetched fetch hold
          · rw [List.mem_singleton.mp hnew]
            exact ⟨⟨ipv6, hurl⟩, hostname, hhost, hfor⟩
        have hnext : RdapRun.Confined world config truncated considered
            { run with clients := clients, fetched := run.fetched ++ [⟨url, client⟩] } :=
          { h with clients := hpublic, fetched := hfetched }
        exact hnext.readBootstrap ipv6

theorem Confined.requestTurn (h : run.Confined world config truncated considered)
    (address : IpAddr) : (run.requestTurn world address).Confined world config truncated
      (considered ++ [address]) := by
  have hmore : considered.Sublist (considered ++ [address]) := List.sublist_append_left ..
  unfold RdapRun.requestTurn
  split
  · rename_i hstop
    exact { h with
      addresses := h.addresses.trans hmore
      accounted := fun hnone => by rw [hnone] at hstop; cases hstop }
  · split
    · exact h.fail _ hmore
    · rename_i entries hentries
      obtain ⟨body, hparse⟩ := h.entries _ entries hentries
      split
      · exact h.fail _ hmore
      · rename_i endpoint hendpoint
        have hpolicy := longestBootstrapEndpoint_policy hparse hendpoint
        split
        · exact h.fail _ hmore
        · rename_i url hurl
          have hasks := constructRdapUrl_ok hurl
          have hpublic := h.clients.clientFor ((world.lookup address).call url.hostStr)
          unfold request
          split
          · rename_i error clients hcall
            rw [hcall] at hpublic
            exact (h.withClients hpublic).fetchFailed _ _ hmore
          · rename_i client clients hcall
            obtain ⟨hostname, hhost, hfor, -⟩ :=
              clientFor_pinned h.clients (congrArg Prod.fst hcall)
            rw [hcall] at hpublic
            have hsame : endpoint.policy.host = hostname :=
              Option.some.inj (hasks.host.symm.trans hhost)
            have hrequests : ∀ request ∈ run.requests ++
                [⟨⟨url, client⟩, address, endpoint.policy.registry⟩],
                RdapRequest.Approved request config.allowedBases := by
              intro request hrequest
              rcases List.mem_append.mp hrequest with hold | hnew
              · exact h.requests request hold
              · rw [List.mem_singleton.mp hnew]
                exact ⟨endpoint.policy, hpolicy, rfl, hasks, hsame ▸ hfor⟩
            exact { h with
              clients := hpublic
              requests := hrequests
              addresses := by
                rw [List.map_append]
                exact h.addresses.append (.refl _)
              accounted := fun hnone hempty => by
                rw [List.map_append, h.accounted hnone hempty]
                rfl }

theorem confined_requestTurns (addresses : List IpAddr) {considered : List IpAddr} {run : RdapRun}
    (h : run.Confined world config truncated considered) :
    (addresses.foldl (requestTurn world) run).Confined world config truncated
      (considered ++ addresses) := by
  induction addresses generalizing considered run with
  | nil => rwa [List.append_nil]
  | cons address addresses ih =>
    have hrest := ih (h.requestTurn address)
    rwa [List.append_assoc] at hrest

end RdapRun

theorem rdapRun_confined (world : RdapWorld) (config : RdapConfig) {clients : PinnedClients}
    (hclients : clients.Public) (addresses : List IpAddr) (truncated : Bool) :
    (rdapRun world config clients addresses truncated).Confined world config truncated addresses :=
  RdapRun.confined_requestTurns addresses
    (((RdapRun.confined_start hclients).bootstrapTurn addresses false).bootstrapTurn addresses true)

/-- The run over a report with the clients of a new scan. -/
def ScanReport.rdapRun (report : ScanReport) (world : RdapWorld) (config : RdapConfig)
    (requestTimeout : Nat) : RdapRun :=
  Surface.rdapRun world config (PinnedClients.new requestTimeout) report.eligibleRdapAddresses.1
    report.eligibleRdapAddresses.2

theorem rdap_addresses_nodup (world : RdapWorld) (config : RdapConfig) (requestTimeout : Nat)
    (report : ScanReport) :
    ((report.rdapRun world config requestTimeout).requests.map RdapRequest.address).Nodup :=
  (report.eligiblePrimaryAddresses_nodup _).sublist
    (rdapRun_confined world config (PinnedClients.public_new requestTimeout) _ _).addresses

/-- All that a run asks for: the bootstraps of its configuration, and at most one question for each
of at most eight public addresses of the primary host, each at an approved registry, and each
through a client that is pinned to public addresses of that very host. -/
theorem rdap_requests (world : RdapWorld) (config : RdapConfig) (requestTimeout : Nat)
    (report : ScanReport) :
    (∀ fetch ∈ (report.rdapRun world config requestTimeout).fetched,
      (∃ ipv6, world.parseUrl (config.bootstrap ipv6) = some fetch.url) ∧ fetch.Pinned) ∧
    (∀ request ∈ (report.rdapRun world config requestTimeout).requests,
      request.Approved config.allowedBases ∧ report.PublicPrimary request.address) ∧
    ((report.rdapRun world config requestTimeout).requests.map RdapRequest.address).Nodup ∧
    (report.rdapRun world config requestTimeout).requests.length ≤ maxRdapAddresses := by
  have h : (report.rdapRun world config requestTimeout).Confined world config
      report.eligibleRdapAddresses.2 report.eligibleRdapAddresses.1 :=
    rdapRun_confined world config (PinnedClients.public_new requestTimeout) _ _
  refine ⟨h.fetched, fun request hrequest => ⟨h.requests request hrequest, ?_⟩,
    rdap_addresses_nodup world config requestTimeout report, ?_⟩
  · exact ScanReport.publicPrimary_of_mem (h.addresses.subset (List.mem_map_of_mem hrequest))
  · have hlength := h.addresses.length_le
    rw [List.length_map] at hlength
    exact hlength.trans (report.eligiblePrimaryAddresses_length _)

/-! ## What is answered -/

/-- An observation is what the answer to a request was read as. -/
def RdapRequest.Answered (world : RdapWorld) (request : RdapRequest)
    (observation : NetworkRegistrationObservation) : Prop :=
  ∃ body response,
    getBounded maxRdapResponseBytes (world.lookup request.address).exchange = .ok body ∧
      world.decodeNetwork body = some response ∧ response.Valid ∧
      response.Yields request.address request.registry observation

/-- The fetch of a request is cancelled or runs into the deadline. -/
def RdapRequest.EndsRun (world : RdapWorld) (request : RdapRequest) : Prop :=
  getBounded maxRdapResponseBytes (world.lookup request.address).exchange = .error .cancelled ∨
    getBounded maxRdapResponseBytes (world.lookup request.address).exchange = .error .deadline

section Outcome

variable {world : RdapWorld} {config : RdapConfig} {requestTimeout : Nat}
  {report after : ScanReport}
  {run : RdapRun} {gathered : Gathered NetworkRegistrationObservation String RdapStop}
  {observation : NetworkRegistrationObservation}

theorem rdapVerdict_value {request : RdapRequest}
    (h : (rdapVerdict world (rdapLookup world request)).value? = some observation) :
    request.Answered world observation := by
  unfold rdapLookup at h
  cases hanswer : getBounded maxRdapResponseBytes (world.lookup request.address).exchange with
  | error error =>
    rw [hanswer] at h
    cases error <;> cases h
  | ok body =>
    rw [hanswer, rdapVerdict] at h
    split at h
    · rename_i parsed hparse
      cases h
      obtain ⟨-, response, hdecode, hvalid, hyields⟩ := parseRdapResponse_ok_iff.mp hparse
      exact ⟨body, response, hanswer, hdecode, hvalid, hyields⟩
    · cases h

theorem RdapRequest.Answered.address {request : RdapRequest}
    (h : request.Answered world observation) : observation.address = request.address := by
  obtain ⟨_, _, -, -, -, hyields⟩ := h
  exact hyields.queried

theorem rdapVerdict_cause {request : RdapRequest} (h : ¬request.EndsRun world) :
    (rdapVerdict world (rdapLookup world request)).cause? = none := by
  rw [RdapRequest.EndsRun, not_or] at h
  unfold rdapLookup
  cases hanswer : getBounded maxRdapResponseBytes (world.lookup request.address).exchange with
  | ok body =>
    rw [rdapVerdict]
    split <;> rfl
  | error error =>
    cases error with
    | cancelled => exact absurd hanswer h.1
    | deadline => exact absurd hanswer h.2
    | _ => rfl

namespace RdapRun

theorem asked_sublist (run : RdapRun) : run.asked.Sublist run.requests := by
  unfold asked
  split
  · exact List.nil_sublist _
  · exact .refl _

theorem Reads.values (h : run.Reads world gathered) (hmem : observation ∈ gathered.values) :
    ∃ request ∈ run.asked, request.Answered world observation := by
  rcases GathersFrom.values h hmem with hnone | ⟨request, hrequest, hvalue⟩
  · cases hnone
  · exact ⟨request, hrequest, rdapVerdict_value hvalue⟩

/-- Without reasons and without an end, every request was answered by an observation. -/
theorem Reads.clear (h : run.Reads world gathered) (hreasons : gathered.reasons.isEmpty = true)
    (hcause : gathered.cause = none) : run.stop = none ∧ run.failures.isEmpty = true ∧
      ∀ request ∈ run.requests, ∃ observation ∈ gathered.values,
        request.Answered world observation := by
  obtain ⟨hfailures, hstop, hall⟩ := GathersFrom.clear h hreasons hcause
  have hnone : run.stop = none := hstop
  have hasked : run.asked = run.requests := by
    rw [asked, hnone]
    rfl
  rw [hasked] at hall
  refine ⟨hnone, hfailures, fun request hrequest => ?_⟩
  obtain ⟨observation, hmem, hkeep⟩ := hall request hrequest
  exact ⟨observation, hmem, rdapVerdict_value (by rw [hkeep]; rfl)⟩

theorem Reads.nodup (h : run.Reads world gathered)
    (hnodup : (run.requests.map RdapRequest.address).Nodup) :
    (gathered.values.map NetworkRegistrationObservation.address).Nodup :=
  GathersFrom.nodup h (fun _ _ hvalue => (rdapVerdict_value hvalue).address) rfl
    (hnodup.sublist (run.asked_sublist.map _))

end RdapRun

/-! ## What is left in the report -/

/-- What a run leaves in the report. -/
structure RdapOutcome (world : RdapWorld) (config : RdapConfig) (requestTimeout : Nat)
    (report after : ScanReport) : Prop where
  refines : ∃ env : RdapEnv, after = analyzeNetworkRegistrations env report
  stored : ∀ observation ∈ after.networkRegistrations,
    observation ∈ report.networkRegistrations ∨
      ∃ request ∈ (report.rdapRun world config requestTimeout).asked,
        request.Answered world observation
  complete : after.status = .completed → ∀ address, report.PublicPrimary address →
    ∃ observation ∈ after.networkRegistrations, observation.address = address
  settled : (∀ request ∈ (report.rdapRun world config requestTimeout).asked,
      ¬request.EndsRun world) →
    ∀ after', RegistersNetworks world config (PinnedClients.new requestTimeout) report after' →
      after' = after

/-- Without an address there is nothing but a skip. -/
theorem RegistersNetworks.cases
    (h : RegistersNetworks world config (PinnedClients.new requestTimeout) report after) :
    report.eligibleRdapAddresses.1.isEmpty = true ∧
        after = report.recordNetworkRegistrationSkip
          "no eligible external address in primary DNS results" ∨
      report.eligibleRdapAddresses.1.isEmpty = false ∧
        ∃ gathered, (report.rdapRun world config requestTimeout).Reads world gathered ∧
          after = report.finishNetworkRegistrations gathered.values gathered.reasons
            gathered.cause := by
  unfold RegistersNetworks at h
  split at h
  · rename_i hnone
    exact .inl ⟨hnone, h⟩
  · rename_i hsome
    exact .inr ⟨Bool.eq_false_of_not_eq_true hsome, h⟩

theorem RdapRun.Reads.truncation
    (h : (report.rdapRun world config requestTimeout).Reads world gathered) :
    ∀ reason ∈ truncationFailure report.eligibleRdapAddresses.2 .empty,
      reason ∈ gathered.reasons := by
  have hconfined : (report.rdapRun world config requestTimeout).Confined world config
      report.eligibleRdapAddresses.2 report.eligibleRdapAddresses.1 :=
    rdapRun_confined world config (PinnedClients.public_new requestTimeout) _ _
  exact fun reason hreason => GathersFrom.reasons h (hconfined.truncation reason hreason)

theorem RegistersNetworks.refines
    (h : RegistersNetworks world config (PinnedClients.new requestTimeout) report after) :
    ∃ env : RdapEnv, after = analyzeNetworkRegistrations env report := by
  rcases h.cases with ⟨haddresses, rfl⟩ | ⟨haddresses, gathered, hreads, rfl⟩
  · refine ⟨⟨[], .empty, none⟩, ?_⟩
    rw [analyzeNetworkRegistrations]
    simp only [haddresses, if_true]
  · refine ⟨⟨gathered.values, gathered.reasons, gathered.cause⟩, ?_⟩
    rw [analyzeNetworkRegistrations]
    simp only [haddresses, truncationFailure_kept hreads.truncation, Bool.false_eq_true, if_false]

theorem RegistersNetworks.stored
    (h : RegistersNetworks world config (PinnedClients.new requestTimeout) report after)
    (hmem : observation ∈ after.networkRegistrations) :
    observation ∈ report.networkRegistrations ∨
      ∃ request ∈ (report.rdapRun world config requestTimeout).asked,
        request.Answered world observation := by
  rcases h.cases with ⟨-, rfl⟩ | ⟨-, gathered, hreads, rfl⟩
  · exact .inl hmem
  · exact (mem_finishNetworkRegistrations hmem).imp_right hreads.values

theorem RegistersNetworks.complete
    (h : RegistersNetworks world config (PinnedClients.new requestTimeout) report after)
    (hstatus : after.status = .completed) {address : IpAddr}
    (hpublic : report.PublicPrimary address) :
    ∃ observation ∈ after.networkRegistrations, observation.address = address := by
  rcases h.cases with ⟨haddresses, rfl⟩ | ⟨-, gathered, hreads, rfl⟩
  · have hmem : address ∈ report.eligibleRdapAddresses.1 :=
      ScanReport.mem_eligiblePrimaryAddresses
        (ScanReport.eligiblePrimaryAddresses_empty haddresses) hpublic
    rw [List.isEmpty_iff.mp haddresses] at hmem
    cases hmem
  · have hconfined : (report.rdapRun world config requestTimeout).Confined world config
        report.eligibleRdapAddresses.2 report.eligibleRdapAddresses.1 :=
      rdapRun_confined world config (PinnedClients.public_new requestTimeout) _ _
    rw [ScanReport.finishNetworkRegistrations, ScanReport.finishLookup_status] at hstatus
    obtain ⟨-, hreasons, hcause⟩ := ScanReport.lookupStatus_completed hstatus
    obtain ⟨hstop, hfailures, hall⟩ := hreads.clear hreasons hcause
    have hmem : address ∈ report.eligibleRdapAddresses.1 :=
      ScanReport.mem_eligiblePrimaryAddresses (not_truncated hreads.truncation hreasons) hpublic
    rw [← hconfined.accounted hstop hfailures] at hmem
    obtain ⟨request, hrequest, rfl⟩ := List.mem_map.mp hmem
    obtain ⟨observation, hobservation, hanswered⟩ := hall request hrequest
    exact (exists_finishNetworkRegistrations hobservation).imp fun stored hstored =>
      ⟨hstored.1, hstored.2.trans hanswered.address⟩

theorem RegistersNetworks.settled
    (h : RegistersNetworks world config (PinnedClients.new requestTimeout) report after)
    (hends : ∀ request ∈ (report.rdapRun world config requestTimeout).asked,
      ¬request.EndsRun world) {after' : ScanReport}
    (h' : RegistersNetworks world config (PinnedClients.new requestTimeout) report after') :
    after' = after := by
  rcases h.cases with ⟨haddresses, rfl⟩ | ⟨haddresses, gathered, hreads, rfl⟩
  · rcases h'.cases with ⟨-, rfl⟩ | ⟨hsome, -⟩
    · rfl
    · rw [haddresses] at hsome
      cases hsome
  · rcases h'.cases with ⟨hnone, -⟩ | ⟨-, gathered', hreads', rfl⟩
    · rw [haddresses] at hnone
      cases hnone
    · obtain ⟨hvalues, hreasons, hcause⟩ := GathersFrom.perm hreads' hreads fun request hrequest =>
        rdapVerdict_cause (hends request hrequest)
      have hnodup := hreads'.nodup (rdap_addresses_nodup world config requestTimeout report)
      unfold ScanReport.finishNetworkRegistrations ScanReport.finishLookup
      rw [hreasons, hcause, sortBy_eq_of_perm hvalues hnodup]

theorem registersNetworks_outcome
    (h : RegistersNetworks world config (PinnedClients.new requestTimeout) report after) :
    RdapOutcome world config requestTimeout report after where
  refines := h.refines
  stored _ hmem := h.stored hmem
  complete hstatus _ hpublic := h.complete hstatus hpublic
  settled hends _ h' := h.settled hends h'

end Outcome

/-- The lookups one after the other. -/
def rdapInTurn (world : RdapWorld) (config : RdapConfig) (requestTimeout : Nat)
    (report : ScanReport) : RdapEnv :=
  let run := report.rdapRun world config requestTimeout
  let gathered := gather ((run.asked.map (rdapLookup world)).map (rdapVerdict world))
    ⟨[], run.failures, run.stop⟩
  ⟨gathered.values, gathered.reasons, gathered.cause⟩

theorem registersNetworks_inTurn (world : RdapWorld) (config : RdapConfig) (requestTimeout : Nat)
    (report : ScanReport) :
    RegistersNetworks world config (PinnedClients.new requestTimeout) report
      (analyzeNetworkRegistrations (rdapInTurn world config requestTimeout report) report) := by
  have hreads : (report.rdapRun world config requestTimeout).Reads world _ :=
    exists_gathersFrom (by decide) ..
  have hkept := truncationFailure_kept hreads.truncation
  unfold RegistersNetworks analyzeNetworkRegistrations
  split
  · rename_i hnone
    simp only [hnone, if_true]
  · rename_i hsome
    refine ⟨_, hreads, ?_⟩
    simp only [hsome, Bool.false_eq_true, if_false, rdapInTurn, hkept]

/-- There is a run, one lookup after the other. -/
theorem registersNetworks_exists (world : RdapWorld) (config : RdapConfig) (requestTimeout : Nat)
    (report : ScanReport) : ∃ after,
      RegistersNetworks world config (PinnedClients.new requestTimeout) report after :=
  ⟨_, registersNetworks_inTurn world config requestTimeout report⟩

/-! ## A run with two addresses -/

def fixtureLookupReport : ScanReport :=
  { fixtureReport with
    status := .completed
    dns := some
      { explicitIpObservation fixtureTarget (.ofOctets 8 8 8 8) with
        resolvedHosts := [⟨some "example.com", .ofOctets 8 8 8 8, .aRecord⟩,
          ⟨some "example.com", .ofOctets 1 1 1 1, .aRecord⟩] } }

def fixtureReach (body : String) : Reach :=
  ⟨.answer [⟨.ofOctets 9 9 9 9, 443⟩], true, .answered ⟨200, [.ok (utf8Bytes body)]⟩⟩

def fixtureTables : String :=
  "\x7b\"services\":[[[\"1.0.0.0/8\"],[\"https://rdap.apnic.net/\"]]," ++
    "[[\"8.0.0.0/8\"],[\"https://rdap.arin.net/registry/\"]]]\x7d"

def fixtureNetwork (start last : String) : String :=
  "\x7b\"objectClassName\":\"ip network\",\"startAddress\":\"" ++ start ++
    "\",\"endAddress\":\"" ++ last ++ "\"\x7d"

def fixtureNetworkResponse (start last : String) : RdapNetworkResponse :=
  ⟨some "ip network", none, none, none, some start, some last, none, []⟩

def fixtureRdapWorld : RdapWorld where
  parseUrl text :=
    if text = "https://data.iana.org/rdap/ipv4.json" then
      some ⟨"https", "", none, some "data.iana.org", none, "/rdap/ipv4.json", none, none⟩
    else if text = "https://rdap.arin.net/registry/" then
      some ⟨"https", "", none, some "rdap.arin.net", none, "/registry/", none, none⟩
    else if text = "https://rdap.apnic.net/" then
      some ⟨"https", "", none, some "rdap.apnic.net", none, "/", none, none⟩
    else none
  pushSegments url segments := some { url with path := url.path ++ "/".intercalate segments }
  decodeBootstrap body :=
    if body = utf8Bytes fixtureTables then
      some [(["1.0.0.0/8"], ["https://rdap.apnic.net/"]),
        (["8.0.0.0/8"], ["https://rdap.arin.net/registry/"])]
    else none
  decodeNetwork body :=
    if body = utf8Bytes (fixtureNetwork "8.8.8.0" "8.8.8.255") then
      some (fixtureNetworkResponse "8.8.8.0" "8.8.8.255")
    else if body = utf8Bytes (fixtureNetwork "1.1.1.0" "1.1.1.255") then
      some (fixtureNetworkResponse "1.1.1.0" "1.1.1.255")
    else none
  bootstrap _ := fixtureReach fixtureTables
  lookup address :=
    fixtureReach (if address = .ofOctets 8 8 8 8 then fixtureNetwork "8.8.8.0" "8.8.8.255"
      else fixtureNetwork "1.1.1.0" "1.1.1.255")

def fixtureRdapRun : RdapRun :=
  fixtureLookupReport.rdapRun fixtureRdapWorld productionRdapConfig 5

/-- The second lookup completes before the first one. -/
def fixtureRegistered : Gathered NetworkRegistrationObservation String RdapStop :=
  gather ((fixtureRdapRun.asked.reverse.map (rdapLookup fixtureRdapWorld)).map
    (rdapVerdict fixtureRdapWorld)) ⟨[], fixtureRdapRun.failures, fixtureRdapRun.stop⟩

def fixtureLookupAfter : ScanReport :=
  fixtureLookupReport.finishNetworkRegistrations fixtureRegistered.values fixtureRegistered.reasons
    fixtureRegistered.cause

theorem registersNetworks_outcome_fixture :
    fixtureRegistered.values.map NetworkRegistrationObservation.address =
        [.ofOctets 8 8 8 8, .ofOctets 1 1 1 1] ∧
      fixtureLookupAfter.networkRegistrations.map
          (fun observation => (observation.address, observation.registry)) =
        [(.ofOctets 1 1 1 1, "APNIC"), (.ofOctets 8 8 8 8, "ARIN")] ∧
      RdapOutcome fixtureRdapWorld productionRdapConfig 5 fixtureLookupReport
        fixtureLookupAfter := by
  have hrun : RegistersNetworks fixtureRdapWorld productionRdapConfig (PinnedClients.new 5)
      fixtureLookupReport fixtureLookupAfter := by
    have haddresses : fixtureLookupReport.eligibleRdapAddresses.1.isEmpty = false := by
      decide +kernel
    have hroom : fixtureRdapRun.asked.length ≤ maxRdapConcurrency := by decide +kernel
    rw [RegistersNetworks, haddresses, if_neg Bool.noConfusion]
    exact ⟨_, ⟨_, Buffer.collects_of_perm hroom (List.reverse_perm _), rfl⟩, rfl⟩
  exact ⟨by decide +kernel, by decide +kernel, registersNetworks_outcome hrun⟩

end Surface

import Surface.Dns.Message
import Surface.Intelligence.RdapRun
import Surface.Intelligence.Transparency
import Surface.Intelligence.Verification

/-!
# Surface.Intelligence.TransparencyRun

The certificate transparency analysis as a whole: the pages that are asked for, one after the other
and through pinned clients, and the lookups of the candidates, in whatever order they complete.

* `CtTrace.Confined`: what one fetch preserves.
* `CtTrace.run_replayed`: the loop over the network is the loop over the answers that it recorded.
* `analyzesCertificateTransparency_outcome`: what is asked, and what a run finds.
-/

namespace Surface

def maxCtResponseBytes : Nat := 1024 * 1024

def certspotterEndpoint : String := "https://api.certspotter.com/v1/issuances"

def certificateTransparencyFetchError : FetchError → String
  | .cancelled => "certificate transparency request was cancelled"
  | .deadline => "certificate transparency deadline elapsed"
  | .timeout => "certificate transparency request timed out"
  | .resolution => "certificate transparency host resolution failed"
  | .destination => "certificate transparency resolved to a non-public destination"
  | .request => "certificate transparency request failed"
  | .http status => "certificate transparency service returned HTTP " ++ toString status
  | .tooLarge => "certificate transparency response exceeded 1 MiB"

/-- What the resolver comes to for a name. -/
inductive IpLookup where
  | addresses (addresses : List IpAddr)
  | noRecordsFound (responseCode : ResponseCode)
  | failed

def IpLookup.result : IpLookup → CtDnsLookupResult
  | addresses (_ :: _) => .address
  | addresses [] => .noAddress
  | noRecordsFound .nxDomain => .nxDomain
  | noRecordsFound .noError => .noAddress
  | noRecordsFound _ => .failed
  | failed => .failed

/-- The libraries and the network of one run: what each fetch comes to, whether a resolver can be
built, and what each lookup comes to under the token and its deadline. -/
structure CtWorld where
  parseUrl : String → Option RdapUrl
  appendPair : RdapUrl → String × String → RdapUrl
  decode : List UInt8 → Option CtPage
  parsers : Parsers
  reach : Nat → Reach
  buildsResolver : Bool
  lookupIp : Nat → String → Awaited IpLookup

structure CtRequest where
  after : Option String
  url : RdapUrl
  client : Client

/-- The clients that are kept, the requests that were sent and what every fetch came to. -/
structure CtTrace where
  clients : PinnedClients
  requests : List CtRequest
  answers : List (Except String CtPage)

section Source

def ctQuery (domain : String) (after : Option String) : List (String × String) :=
  [("domain", domain), ("include_subdomains", "true"), ("match_wildcards", "true"),
    ("expand", "dns_names")] ++ (after.map fun after => ("after", after)).toList

variable (world : CtWorld) (endpoint domain : String)

def readCtPage (reach : Reach) : Except String CtPage :=
  match getBounded maxCtResponseBytes reach.exchange with
  | .error error => .error (certificateTransparencyFetchError error)
  | .ok body =>
    match world.decode body with
    | none => .error "certificate transparency response was invalid"
    | some page => .ok page

def fetchCertspotterPage (after : Option String) (trace : CtTrace) :
    Except String CtPage × CtTrace :=
  match world.parseUrl endpoint with
  | none => (.error "invalid CertSpotter endpoint", trace)
  | some url =>
    let url := (ctQuery domain after).foldl world.appendPair url
    let reach := world.reach trace.answers.length
    match trace.clients.clientFor (reach.call url.hostStr) with
    | (.error error, clients) =>
      (.error (certificateTransparencyFetchError error), { trace with clients := clients })
    | (.ok client, clients) =>
      (readCtPage world reach,
        { trace with clients := clients, requests := trace.requests ++ [⟨after, url, client⟩] })

/-- A fetch, with its answer in the record. -/
def CtTrace.fetch (trace : CtTrace) (after : Option String) : CtTrace :=
  let fetched := fetchCertspotterPage world endpoint domain after trace
  { fetched.2 with answers := trace.answers ++ [fetched.1] }

def CtTrace.run : Nat → CtPages → CtTrace → (CtPages × Option String) × CtTrace
  | 0, pages, trace => ((pages, none), trace)
  | turns + 1, pages, trace =>
    let answer := (fetchCertspotterPage world endpoint domain pages.after trace).1
    let trace := trace.fetch world endpoint domain pages.after
    match pages.turn fun _ _ => answer with
    | .next pages => CtTrace.run turns pages trace
    | .stop pages => ((pages, none), trace)
    | .fail pages error => ((pages, some error), trace)

def CtWorld.readPages (report : ScanReport) (clients : PinnedClients) :
    Except String CertificateTransparencyObservation × CtTrace :=
  match report.target.hostname with
  | none =>
    (.error "certificate transparency discovery requires a hostname target", ⟨clients, [], []⟩)
  | some primary =>
    match CtTrace.run world endpoint primary maxCtPages .start ⟨clients, [], []⟩ with
    | ((_, some error), trace) => (.error error, trace)
    | ((pages, none), trace) => (.ok (pages.observation world.parsers primary), trace)

/-- What a name counts as: the root is appended to it before it is looked up. -/
def CtWorld.lookup (place : Nat) (name : String) : Awaited CtDnsLookupResult :=
  if world.buildsResolver = true then
    match world.lookupIp place (name ++ ".") with
    | .cancelled => .cancelled
    | .timedOut => .timedOut
    | .ready answer => .ready answer.result
  else .ready .failed

def CertificateTransparencyCandidate.unresolved (candidate : CertificateTransparencyCandidate) :
    CertificateTransparencyCandidate :=
  if candidate.wildcard = true then candidate else { candidate with dnsStatus := .indeterminate }

/-- A run of the verification leaves the candidates so, and says whether it was complete. -/
def CtWorld.Verifies (candidates : List CertificateTransparencyCandidate)
    (verified : List CertificateTransparencyCandidate × Bool) : Prop :=
  if candidates.all CertificateTransparencyCandidate.wildcard = true then
    verified = (candidates, true)
  else if world.buildsResolver = false then
    verified = (candidates.map CertificateTransparencyCandidate.unresolved, false)
  else
    ∃ results, VerifiesCtCandidates world.lookup candidates results ∧
      verified = finishCtCandidates candidates results

def CertificateTransparencyObservation.verified (observation : CertificateTransparencyObservation)
    (verified : List CertificateTransparencyCandidate × Bool) :
    CertificateTransparencyObservation :=
  let observation := { observation with candidates := verified.1 }
  if verified.2 = true then observation
  else
    { observation with
      complete := false
      errors := observation.errors ++
        ["certificate transparency DNS verification was incomplete"] }

/-- A run over a report has this trace and this result. -/
def CtWorld.AnalyzesCertificateTransparency (report : ScanReport) (requestTimeout : Nat)
    (trace : CtTrace) (result : Except String CertificateTransparencyObservation) : Prop :=
  match world.readPages endpoint report (PinnedClients.new requestTimeout) with
  | (.error error, traced) => trace = traced ∧ result = .error error
  | (.ok observation, traced) =>
    trace = traced ∧ ∃ verified, world.Verifies observation.candidates verified ∧
      result = .ok (observation.verified verified)

end Source

/-! ## The requests -/

variable {world : CtWorld} {endpoint domain : String} {trace : CtTrace} {pages : CtPages}
  {report : ScanReport} {requestTimeout : Nat}

/-- The query for a page of the domain at the endpoint, over a client that is pinned to its host. -/
structure CtRequest.Asks (request : CtRequest) (world : CtWorld) (endpoint domain : String) :
    Prop where
  url : ∃ base, world.parseUrl endpoint = some base ∧
    request.url = (ctQuery domain request.after).foldl world.appendPair base
  pinned : ∃ hostname, request.url.hostStr = some hostname ∧ request.client.PublicFor hostname

/-- A page that was read is the answer to the request of that place. -/
def CtTrace.Answered (world : CtWorld) (trace : CtTrace) (place : Nat) (page : CtPage) : Prop :=
  ∃ body, getBounded maxCtResponseBytes (world.reach place).exchange = .ok body ∧
    world.decode body = some page ∧ place < trace.requests.length

/-- What holds after these calls. Only the last of them may have sent no request. -/
structure CtTrace.Confined (world : CtWorld) (endpoint domain : String) (trace : CtTrace)
    (calls : List (Option String)) : Prop where
  clients : trace.clients.Public
  requests : ∀ request ∈ trace.requests, request.Asks world endpoint domain
  sent : trace.requests.map CtRequest.after <+: calls
  answers : ∀ place page, trace.answers[place]? = some (.ok page) → trace.Answered world place page
  answered : trace.answers.length = calls.length

theorem readCtPage_ok {reach : Reach} {page : CtPage} (h : readCtPage world reach = .ok page) :
    ∃ body, getBounded maxCtResponseBytes reach.exchange = .ok body ∧
      world.decode body = some page := by
  unfold readCtPage at h
  split at h
  · cases h
  · rename_i body hbody
    split at h
    · cases h
    · rename_i read hread
      cases h
      exact ⟨body, hbody, hread⟩

/-- One fetch: nothing is sent, and there is an error, or one request is. -/
theorem CtTrace.Confined.fetch {calls : List (Option String)}
    (h : trace.Confined world endpoint domain calls)
    (hsent : trace.requests.map CtRequest.after = calls) (after : Option String) :
    (trace.fetch world endpoint domain after).Confined world endpoint domain (calls ++ [after]) ∧
      ∀ page, (fetchCertspotterPage world endpoint domain after trace).1 = .ok page →
        (trace.fetch world endpoint domain after).requests.map CtRequest.after =
          calls ++ [after] := by
  have hcount : trace.answers.length = trace.requests.length := by
    rw [h.answered, ← hsent, List.length_map]
  -- The answers so far stay where they are, over more requests.
  have hanswers : ∀ {requests : List CtRequest} {answer : Except String CtPage} {clients},
      trace.requests.length ≤ requests.length →
      (∀ page, answer = .ok page → CtTrace.Answered world ⟨clients, requests, []⟩
        trace.answers.length page) →
      ∀ place page, (trace.answers ++ [answer])[place]? = some (.ok page) →
        CtTrace.Answered world ⟨clients, requests, trace.answers ++ [answer]⟩ place page := by
    intro requests answer clients hmore hnew place page hplace
    rcases Nat.lt_or_ge place trace.answers.length with hlt | hge
    · rw [List.getElem?_append_left hlt] at hplace
      obtain ⟨body, hbody, hdecode, hbound⟩ := h.answers place page hplace
      exact ⟨body, hbody, hdecode, hbound.trans_le hmore⟩
    · rw [List.getElem?_append_right hge] at hplace
      obtain ⟨hin, hsame⟩ := List.getElem?_eq_some_iff.mp hplace
      rw [List.length_singleton, Nat.lt_one_iff] at hin
      have hplace' : place = trace.answers.length := by omega
      rw [List.getElem_singleton] at hsame
      obtain ⟨body, hbody, hdecode, hbound⟩ := hnew page hsame
      rw [hplace']
      exact ⟨body, hbody, hdecode, hbound⟩
  have hfailed : ∀ {clients : PinnedClients} {error : String}, clients.Public →
      CtTrace.Confined world endpoint domain
        ⟨clients, trace.requests, trace.answers ++ [.error error]⟩ (calls ++ [after]) :=
    fun hclients => ⟨hclients, h.requests, h.sent.trans (List.prefix_append ..),
      hanswers (Nat.le_refl _) fun _ hok => (by cases hok), by simp [h.answered]⟩
  unfold CtTrace.fetch fetchCertspotterPage
  cases hurl : world.parseUrl endpoint with
  | none => exact ⟨hfailed h.clients, fun _ hok => (by cases hok)⟩
  | some base =>
    have hpublic := h.clients.clientFor ((world.reach trace.answers.length).call
      ((ctQuery domain after).foldl world.appendPair base).hostStr)
    simp only
    split
    · rename_i error clients hcall
      rw [hcall] at hpublic
      exact ⟨hfailed hpublic, fun _ hok => (by cases hok)⟩
    · rename_i client clients hcall
      obtain ⟨hostname, hhost, hfor, -⟩ := clientFor_pinned h.clients (congrArg Prod.fst hcall)
      rw [hcall] at hpublic
      have hmap : ∀ url, (trace.requests ++ [(⟨after, url, client⟩ : CtRequest)]).map
          CtRequest.after = calls ++ [after] := fun url => by
        rw [List.map_append, hsent]
        rfl
      refine ⟨⟨hpublic, fun request hrequest => ?_, hmap _ ▸ List.prefix_refl _, hanswers ?_ ?_,
        by simp [h.answered]⟩, fun _ _ => hmap _⟩
      · rcases List.mem_append.mp hrequest with hold | hnew
        · exact h.requests request hold
        · rw [List.mem_singleton.mp hnew]
          exact ⟨⟨base, hurl, rfl⟩, hostname, hhost, hfor⟩
      · simp
      · intro page hok
        obtain ⟨body, hbody, hdecode⟩ := readCtPage_ok hok
        exact ⟨body, hbody, hdecode, by simp [hcount]⟩

/-! ## The loop -/

/-- The answers of a trace, as the fetches of the loop over pure answers. -/
def CtTrace.recorded (trace : CtTrace) (place : Nat) (_ : Option String) : Except String CtPage :=
  (trace.answers[place]?).getD (.error "")

theorem CtPages.turn_congr {fetch fetch' : Nat → Option String → Except String CtPage}
    (h : fetch pages.calls.length pages.after = fetch' pages.calls.length pages.after) :
    pages.turn fetch = pages.turn fetch' := by
  unfold CtPages.turn
  rw [h]

/-- A turn calls once, for where the pages end, and goes on only after an answer. -/
theorem CtPages.turn_calls (pages : CtPages) (answer : Except String CtPage) :
    (∃ next, (pages.turn fun _ _ => answer) = .next next ∧
      next.calls = pages.calls ++ [pages.after] ∧ ∃ page, answer = .ok page) ∨
    (∃ last, (pages.turn fun _ _ => answer) = .stop last ∧
      last.calls = pages.calls ++ [pages.after]) ∨
    ∃ last error, (pages.turn fun _ _ => answer) = .fail last error ∧
      last.calls = pages.calls ++ [pages.after] := by
  unfold CtPages.turn
  cases answer with
  | error error =>
    simp only
    split
    · exact .inr (.inr ⟨_, _, rfl, rfl⟩)
    · exact .inr (.inl ⟨_, rfl, rfl⟩)
  | ok page =>
    simp only
    split
    · exact .inr (.inl ⟨_, rfl, rfl⟩)
    · split
      · split
        · exact .inr (.inr ⟨_, _, rfl, rfl⟩)
        · exact .inr (.inl ⟨_, rfl, rfl⟩)
      · exact .inl ⟨_, rfl, rfl, page, rfl⟩

/-- A run of the loop that started at `pages`, over the answers that its trace has recorded. -/
structure CtReplayed (world : CtWorld) (endpoint domain : String) (turns : Nat) (pages : CtPages)
    (trace : CtTrace) (ended : (CtPages × Option String) × CtTrace) : Prop where
  confined : ended.2.Confined world endpoint domain ended.1.1.calls
  kept : trace.answers <+: ended.2.answers
  replay : pages.run ended.2.recorded turns = ended.1

theorem recorded_of_prefix {answer : Except String CtPage} {answers : List (Except String CtPage)}
    (h : answers ++ [answer] <+: trace.answers) (after : Option String) :
    trace.recorded answers.length after = answer := by
  obtain ⟨rest, hrest⟩ := h
  rw [CtTrace.recorded, ← hrest, List.append_assoc, List.getElem?_append_right (Nat.le_refl _),
    Nat.sub_self]
  rfl

theorem CtTrace.run_replayed (turns : Nat) {pages : CtPages} {trace : CtTrace}
    (h : trace.Confined world endpoint domain pages.calls)
    (hsent : trace.requests.map CtRequest.after = pages.calls) :
    CtReplayed world endpoint domain turns pages trace
      (CtTrace.run world endpoint domain turns pages trace) := by
  induction turns generalizing pages trace with
  | zero => exact ⟨h, List.prefix_refl _, rfl⟩
  | succ turns ih =>
    obtain ⟨hnext, hmore⟩ := h.fetch hsent pages.after
    have hplace : pages.calls.length = trace.answers.length := h.answered.symm
    have hrecorded : ∀ {ended : CtTrace},
        (trace.fetch world endpoint domain pages.after).answers <+: ended.answers →
        ended.recorded pages.calls.length pages.after =
          (fetchCertspotterPage world endpoint domain pages.after trace).1 := fun hprefix => by
      rw [hplace]
      exact recorded_of_prefix hprefix _
    have hkept : trace.answers <+: (trace.fetch world endpoint domain pages.after).answers :=
      List.prefix_append ..
    rw [CtTrace.run]
    generalize hanswer : (fetchCertspotterPage world endpoint domain pages.after trace).1 = answer
      at hmore hrecorded
    have hsame : ∀ {ended : CtTrace},
        (trace.fetch world endpoint domain pages.after).answers <+: ended.answers →
        pages.turn ended.recorded = pages.turn fun _ _ => answer := fun hprefix =>
      CtPages.turn_congr (hrecorded hprefix)
    rcases pages.turn_calls answer with
      ⟨next, hturn, hcalls, page, hok⟩ | ⟨last, hturn, hcalls⟩ | ⟨last, error, hturn, hcalls⟩
    · rw [hturn]
      have hreplayed := ih (hcalls ▸ hnext) ((hmore page hok).trans hcalls.symm)
      refine ⟨hreplayed.confined, hkept.trans hreplayed.kept, ?_⟩
      rw [CtPages.run, hsame hreplayed.kept, hturn]
      exact hreplayed.replay
    · rw [hturn]
      refine ⟨hcalls ▸ hnext, hkept, ?_⟩
      rw [CtPages.run, hsame (List.prefix_refl _), hturn]
    · rw [hturn]
      refine ⟨hcalls ▸ hnext, hkept, ?_⟩
      rw [CtPages.run, hsame (List.prefix_refl _), hturn]

/-- The pages are read as over the recorded answers, and every call that was answered was sent. -/
structure CtRead (world : CtWorld) (endpoint : String) (report : ScanReport) (trace : CtTrace)
    (calls : List (Option String)) : Prop where
  requests : ∀ request ∈ trace.requests, ∃ primary,
    report.target.hostname = some primary ∧ request.Asks world endpoint primary
  sent : trace.requests.map CtRequest.after <+: calls
  answers : ∀ place page, trace.answers[place]? = some (.ok page) → trace.Answered world place page

theorem readPages_eq (world : CtWorld) (endpoint : String) (report : ScanReport)
    {clients : PinnedClients} (hclients : clients.Public) :
    ∃ calls, CtRead world endpoint report (world.readPages endpoint report clients).2 calls ∧
      analyzeCertificateTransparencyAt (world.readPages endpoint report clients).2.recorded
        world.parsers report = (calls, (world.readPages endpoint report clients).1) := by
  unfold CtWorld.readPages analyzeCertificateTransparencyAt
  cases hprimary : report.target.hostname with
  | none =>
    exact ⟨[], ⟨fun _ hnone => (by cases hnone), List.prefix_refl _,
      fun _ _ hnone => (by cases hnone)⟩, rfl⟩
  | some primary =>
    have hstart : CtTrace.Confined world endpoint primary ⟨clients, [], []⟩ CtPages.start.calls :=
      ⟨hclients, fun _ hnone => (by cases hnone), List.prefix_refl _,
        fun _ _ hnone => (by cases hnone), rfl⟩
    have hreplayed := CtTrace.run_replayed maxCtPages hstart rfl
    cases hended : CtTrace.run world endpoint primary maxCtPages .start ⟨clients, [], []⟩ with
    | mk ended trace =>
    obtain ⟨pages, failure⟩ := ended
    rw [hended] at hreplayed
    have hread : CtRead world endpoint report trace pages.calls :=
      ⟨fun request hrequest => ⟨primary, hprimary, hreplayed.confined.requests request hrequest⟩,
        hreplayed.confined.sent, hreplayed.confined.answers⟩
    have hrun : CtPages.start.run trace.recorded maxCtPages = (pages, failure) := hreplayed.replay
    cases failure with
    | none =>
      simp only [hended]
      exact ⟨pages.calls, hread, by rw [hrun]⟩
    | some error =>
      simp only [hended]
      exact ⟨pages.calls, hread, by rw [hrun]⟩

/-! ## The candidates -/

/-- Whatever happens to the resolver, each candidate gets the status of its own lookup. -/
structure CtWorld.Checked (world : CtWorld) (candidates : List CertificateTransparencyCandidate)
    (verified : List CertificateTransparencyCandidate × Bool) : Prop where
  statuses : verified.1 = candidates.mapIdx fun place candidate =>
    candidate.verified (world.lookup place candidate.name)
  complete : verified.2 = true ↔
    ∀ (place : Nat) (candidate : CertificateTransparencyCandidate),
      candidates[place]? = some candidate → candidate.wildcard = false →
        settleLookup (world.lookup place candidate.name) ≠ .failed

theorem CtWorld.Verifies.checked {candidates : List CertificateTransparencyCandidate}
    {verified : List CertificateTransparencyCandidate × Bool}
    (h : world.Verifies candidates verified) : world.Checked candidates verified := by
  unfold CtWorld.Verifies at h
  split at h
  · rename_i hall
    have hwildcard : ∀ (place : Nat) (candidate : CertificateTransparencyCandidate),
        candidates[place]? = some candidate → candidate.wildcard = true :=
      fun place candidate hplace =>
        List.all_eq_true.mp hall candidate (List.mem_of_getElem? hplace)
    rw [h]
    refine ⟨List.ext_getElem? fun place => ?_,
      iff_of_true rfl fun place candidate hplace hplain => ?_⟩
    · rw [List.getElem?_mapIdx]
      cases hplace : candidates[place]? with
      | none => rfl
      | some candidate =>
        rw [Option.map_some, CertificateTransparencyCandidate.verified,
          if_pos (hwildcard place candidate hplace)]
    · rw [hwildcard place candidate hplace] at hplain
      cases hplain
  · rename_i hsome
    split at h
    · rename_i hresolver
      have hlookup : ∀ place name, world.lookup place name = .ready .failed := fun place name => by
        rw [CtWorld.lookup, hresolver]
        rfl
      rw [h]
      refine ⟨List.ext_getElem? fun place => ?_,
        iff_of_false Bool.noConfusion fun hready => hsome ?_⟩
      · rw [List.getElem?_mapIdx, List.getElem?_map]
        cases candidates[place]? with
        | none => rfl
        | some candidate =>
          rw [Option.map_some, Option.map_some, hlookup,
            CertificateTransparencyCandidate.unresolved, CertificateTransparencyCandidate.verified]
          rfl
      · rw [List.all_eq_true]
        intro candidate hmem
        obtain ⟨place, hplace⟩ := List.mem_iff_getElem?.mp hmem
        by_contra hplain
        exact hready place candidate hplace (Bool.eq_false_of_not_eq_true hplain)
          (by rw [hlookup]; rfl)
    · obtain ⟨results, hresults, hverified⟩ := h
      have hrun := verifyCtCandidates_statuses hresults
      rw [hverified]
      exact ⟨hrun.statuses, hrun.complete⟩

/-- The candidates of the pages that were read, each after its own lookup. -/
def CtWorld.candidatesOf (world : CtWorld) (primary : String) (issuances : CtPage) :
    List CertificateTransparencyCandidate :=
  (ctCandidates world.parsers primary issuances).1.mapIdx fun place candidate =>
    candidate.verified (world.lookup place candidate.name)

/-- No candidate is left without the result of a lookup that it needs. -/
def CtWorld.Settles (world : CtWorld) (primary : String) (issuances : CtPage) : Prop :=
  ∀ (place : Nat) (candidate : CertificateTransparencyCandidate),
    (ctCandidates world.parsers primary issuances).1[place]? = some candidate →
      candidate.wildcard = false → settleLookup (world.lookup place candidate.name) ≠ .failed

theorem mem_candidatesOf {primary : String} {issuances : CtPage}
    {candidate : CertificateTransparencyCandidate}
    (h : candidate ∈ world.candidatesOf primary issuances) :
    ∃ (place : Nat) (before : CertificateTransparencyCandidate),
      (ctCandidates world.parsers primary issuances).1[place]? = some before ∧
      candidate = before.verified (world.lookup place before.name) ∧
      candidate.name = before.name ∧ candidate.wildcard = before.wildcard := by
  obtain ⟨place, hplace⟩ := List.mem_iff_getElem?.mp h
  rw [CtWorld.candidatesOf, List.getElem?_mapIdx] at hplace
  obtain ⟨before, hbefore, rfl⟩ := Option.map_eq_some_iff.mp hplace
  refine ⟨place, before, hbefore, rfl, ?_⟩
  unfold CertificateTransparencyCandidate.verified
  split
  · exact ⟨rfl, rfl⟩
  · exact ⟨rfl, rfl⟩

/-- Evidence that is complete has no candidate whose status is open. -/
theorem CtWorld.Settles.determined {primary : String} {issuances : CtPage}
    (h : world.Settles primary issuances) {candidate : CertificateTransparencyCandidate}
    (hmem : candidate ∈ world.candidatesOf primary issuances) :
    candidate.dnsStatus ≠ .indeterminate ∧
      (candidate.dnsStatus = .notChecked ↔ candidate.wildcard = true) := by
  obtain ⟨place, before, hbefore, rfl, -, hwildcard⟩ := mem_candidatesOf hmem
  rw [hwildcard]
  unfold CertificateTransparencyCandidate.verified
  cases hkind : before.wildcard with
  | true =>
    have hunchecked : before.dnsStatus = .notChecked := by
      obtain ⟨entry, -, rfl⟩ := List.mem_map.mp (List.mem_of_getElem? hbefore)
      rfl
    rw [if_pos rfl, hunchecked]
    exact ⟨nofun, iff_of_true rfl rfl⟩
  | false =>
    rw [if_neg Bool.noConfusion]
    have hsettled := h place before hbefore hkind
    generalize settleLookup (world.lookup place before.name) = result at hsettled
    cases result with
    | failed => exact absurd rfl hsettled
    | _ => exact ⟨nofun, iff_of_false nofun Bool.noConfusion⟩

/-! ## The run -/

/-- What a run asks, and what it finds in the pages that the calls retained. -/
structure CtOutcome (world : CtWorld) (endpoint : String) (report : ScanReport) (trace : CtTrace)
    (result : Except String CertificateTransparencyObservation)
    (calls : List (Option String)) : Prop where
  read : CtRead world endpoint report trace calls
  bounded : calls.length ≤ 3
  chained : Chained trace.recorded calls
  failed : ∀ error, result = .error error → retained trace.recorded calls = []
  observed : ∀ observation, result = .ok observation → ∃ primary,
    report.target.hostname = some primary ∧
    observation.candidates =
      world.candidatesOf primary (retained trace.recorded calls).flatten ∧
    (∀ candidate ∈ observation.candidates, StrictSubdomain candidate.name primary) ∧
    (observation.complete = true ↔ observation.errors = []) ∧
    (observation.errors = [] ↔ ReachedEmpty trace.recorded calls ∧
      (ctCandidates world.parsers primary (retained trace.recorded calls).flatten).2 = false ∧
      world.Settles primary (retained trace.recorded calls).flatten) ∧
    (observation.complete = true → ∀ candidate ∈ observation.candidates,
      candidate.dnsStatus ≠ .indeterminate ∧
        (candidate.dnsStatus = .notChecked ↔ candidate.wildcard = true))

theorem verified_complete (observation : CertificateTransparencyObservation)
    (verified : List CertificateTransparencyCandidate × Bool)
    (h : observation.complete = true ↔ observation.errors = []) :
    ((observation.verified verified).complete = true ↔
      (observation.verified verified).errors = []) ∧
    ((observation.verified verified).errors = [] ↔
      observation.errors = [] ∧ verified.2 = true) := by
  unfold CertificateTransparencyObservation.verified
  split
  · rename_i hverified
    exact ⟨h, (and_iff_left hverified).symm⟩
  · rename_i hverified
    refine ⟨iff_of_false Bool.noConfusion ?_, iff_of_false ?_ fun hall => hverified hall.2⟩ <;>
      exact List.append_ne_nil_of_right_ne_nil _ (List.cons_ne_nil _ _)

/-- A run that ends in an observation: the pages it was made of, and what it says of them. -/
theorem CtWorld.AnalyzesCertificateTransparency.observed
    {observation : CertificateTransparencyObservation}
    (h : world.AnalyzesCertificateTransparency endpoint report requestTimeout trace
      (.ok observation)) :
    ∃ calls, CtRead world endpoint report trace calls ∧ calls.length ≤ 3 ∧
      Chained trace.recorded calls ∧
      ∃ primary, report.target.hostname = some primary ∧
        observation.candidates =
          world.candidatesOf primary (retained trace.recorded calls).flatten ∧
        (∀ candidate ∈ observation.candidates, StrictSubdomain candidate.name primary) ∧
        (observation.complete = true ↔ observation.errors = []) ∧
        (observation.errors = [] ↔ ReachedEmpty trace.recorded calls ∧
          (ctCandidates world.parsers primary
            (retained trace.recorded calls).flatten).2 = false ∧
          world.Settles primary (retained trace.recorded calls).flatten) := by
  obtain ⟨calls, hread, hanalysis⟩ :=
    readPages_eq world endpoint report (PinnedClients.public_new requestTimeout)
  unfold CtWorld.AnalyzesCertificateTransparency at h
  generalize world.readPages endpoint report (PinnedClients.new requestTimeout) = ended
    at h hread hanalysis
  obtain ⟨read, traced⟩ := ended
  have hpages := analyzeCertificateTransparency_pages traced.recorded world.parsers report
  rw [hanalysis] at hpages
  cases read with
  | error error => cases h.2
  | ok before =>
    obtain ⟨rfl, verified, hverifies, hresult⟩ := h
    cases hresult
    obtain ⟨primary, hprimary, -, hcandidates, hcomplete, hclear⟩ := hpages.observed before rfl
    have hchecked := hverifies.checked
    obtain ⟨hends, herrors⟩ := verified_complete before verified hcomplete
    have hafter : (before.verified verified).candidates =
        world.candidatesOf primary (retained trace.recorded calls).flatten := by
      have hkept : (before.verified verified).candidates = verified.1 := by
        unfold CertificateTransparencyObservation.verified
        split <;> rfl
      rw [hkept, hchecked.statuses, hcandidates]
      rfl
    have hsettles : verified.2 = true ↔
        world.Settles primary (retained trace.recorded calls).flatten := by
      rw [hchecked.complete, hcandidates]
      rfl
    refine ⟨calls, hread, hpages.bounded, hpages.chained, primary, hprimary, hafter,
      fun candidate hmem => ?_, hends, ?_⟩
    · rw [hafter] at hmem
      obtain ⟨place, listed, hlisted, -, hname, -⟩ := mem_candidatesOf hmem
      rw [hname]
      exact ((ctCandidates_set world.parsers primary _).confined listed
        (List.mem_of_getElem? hlisted)).1
    · rw [herrors, hclear, hsettles, and_assoc]

/-- A run asks for at most three pages, each of which continues from the one before, and sends
nothing but the query for a page of the hostname, to public addresses of the endpoint's host. The
candidates are the names below the hostname that the pages list, with the status of their own
lookups, and the evidence is complete when nothing of it is missing. -/
theorem analyzesCertificateTransparency_outcome
    {result : Except String CertificateTransparencyObservation}
    (h : world.AnalyzesCertificateTransparency endpoint report requestTimeout trace result) :
    ∃ calls, CtOutcome world endpoint report trace result calls := by
  cases result with
  | ok observation =>
    obtain ⟨calls, hread, hbounded, hchained, primary, hprimary, hcandidates, hstrict, hends,
      hall⟩ := h.observed
    refine ⟨calls, hread, hbounded, hchained, fun _ herror => (by cases herror), fun _ hok => ?_⟩
    cases hok
    refine ⟨primary, hprimary, hcandidates, hstrict, hends, hall, fun hfull candidate hmem => ?_⟩
    rw [hcandidates] at hmem
    exact (hall.mp (hends.mp hfull)).2.2.determined hmem
  | error error =>
    obtain ⟨calls, hread, hanalysis⟩ :=
      readPages_eq world endpoint report (PinnedClients.public_new requestTimeout)
    unfold CtWorld.AnalyzesCertificateTransparency at h
    generalize world.readPages endpoint report (PinnedClients.new requestTimeout) = ended
      at h hread hanalysis
    obtain ⟨read, traced⟩ := ended
    have hpages := analyzeCertificateTransparency_pages traced.recorded world.parsers report
    rw [hanalysis] at hpages
    cases read with
    | ok before =>
      obtain ⟨-, verified, -, hresult⟩ := h
      cases hresult
    | error stopped =>
      obtain ⟨rfl, hresult⟩ := h
      cases hresult
      exact ⟨calls, hread, hpages.bounded, hpages.chained, fun other hother =>
        hpages.failed other hother, fun _ hok => (by cases hok)⟩

/-- The lookups of the verification one after the other. -/
def CtWorld.verifiedInTurn (world : CtWorld) (candidates : List CertificateTransparencyCandidate) :
    List CertificateTransparencyCandidate × Bool :=
  if candidates.all CertificateTransparencyCandidate.wildcard = true then (candidates, true)
  else if world.buildsResolver = false then
    (candidates.map CertificateTransparencyCandidate.unresolved, false)
  else finishCtCandidates candidates ((ctQueries candidates).map (ctLookup world.lookup))

theorem CtWorld.verifies_inTurn (world : CtWorld)
    (candidates : List CertificateTransparencyCandidate) :
    world.Verifies candidates (world.verifiedInTurn candidates) := by
  unfold CtWorld.Verifies CtWorld.verifiedInTurn
  split
  · rfl
  · split
    · rfl
    · exact ⟨_, Buffer.collects_map (by decide) _, rfl⟩

def CtWorld.analyzedInTurn (world : CtWorld) (endpoint : String) (report : ScanReport)
    (requestTimeout : Nat) : Except String CertificateTransparencyObservation :=
  (world.readPages endpoint report (PinnedClients.new requestTimeout)).1.map fun observation =>
    observation.verified (world.verifiedInTurn observation.candidates)

theorem analyzesCertificateTransparency_inTurn (world : CtWorld) (endpoint : String)
    (report : ScanReport) (requestTimeout : Nat) :
    world.AnalyzesCertificateTransparency endpoint report requestTimeout
      (world.readPages endpoint report (PinnedClients.new requestTimeout)).2
      (world.analyzedInTurn endpoint report requestTimeout) := by
  unfold CtWorld.AnalyzesCertificateTransparency CtWorld.analyzedInTurn
  generalize world.readPages endpoint report (PinnedClients.new requestTimeout) = ended
  obtain ⟨read, traced⟩ := ended
  cases read with
  | error error => exact ⟨rfl, rfl⟩
  | ok before => exact ⟨rfl, _, world.verifies_inTurn before.candidates, rfl⟩

/-! ## A run with two pages -/

def fixturePage : CtPage := [⟨"1", ["a.example.com"]⟩]

def fixturePageText : String := "[\x7b\"id\":\"1\",\"dns_names\":[\"a.example.com\"]\x7d]"

/-- One page with a name, an empty one, and a name that has an address. -/
def fixtureCtWorld : CtWorld where
  parseUrl text :=
    if text = certspotterEndpoint then
      some ⟨"https", "", none, some "api.certspotter.com", none, "/v1/issuances", none, none⟩
    else none
  appendPair url pair :=
    { url with query := some (url.query.elim "" (· ++ "&") ++ pair.1 ++ "=" ++ pair.2) }
  decode body :=
    if body = utf8Bytes "[]" then some []
    else if body = utf8Bytes fixturePageText then some fixturePage
    else none
  parsers := asciiParsers
  reach place := fixtureReach (if place = 0 then fixturePageText else "[]")
  buildsResolver := true
  lookupIp _ _ := .ready (.addresses [.ofOctets 9 9 9 9])

def fixtureCtTrace : CtTrace :=
  (fixtureCtWorld.readPages certspotterEndpoint fixtureReport (PinnedClients.new 5)).2

theorem analyzesCertificateTransparency_outcome_fixture :
    fixtureCtTrace.requests.map CtRequest.after = [none, some "1"] ∧
      ∃ result calls, CtOutcome fixtureCtWorld certspotterEndpoint fixtureReport fixtureCtTrace
        result calls :=
  ⟨by decide +kernel, _, analyzesCertificateTransparency_outcome
    (analyzesCertificateTransparency_inTurn fixtureCtWorld certspotterEndpoint fixtureReport 5)⟩

end Surface

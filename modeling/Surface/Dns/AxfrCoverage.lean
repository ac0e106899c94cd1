import Surface.Accounting
import Surface.Dns.AxfrCheck
import Surface.Fallible
import Surface.NetText

/-!
# Surface.Dns.AxfrCoverage

Which nameservers a completed check covers, and which of the others the report tells about.

* `checkAxfrEndpoint_at`: an attempt keeps its nameserver and endpoint.
* `EndpointsOf`: the invariant of the resolution. At most four nameservers give at most eight
  endpoints, so that the limit on these is never met.
* `axfr_accounted_iff`: the report accounts for every nameserver exactly if all can be resolved.
-/

namespace Surface

/-! ## Attempts -/

def AxfrAttempt.At (server : String) (endpoint : SocketAddr) (attempt : AxfrAttempt) : Prop :=
  attempt.server = server ∧ attempt.endpoint = endpoint

section Attempts

variable {N Q : Type} [BEq N] [BEq Q] {server : String} {endpoint : SocketAddr}
  {request : AxfrRequest N Q} {attempt attempt' : AxfrAttempt}

theorem recordCode_at (h : attempt.At server endpoint) (code : ResponseCode) :
    (∀ attempt', recordCode attempt code = .ok attempt' → attempt'.At server endpoint) ∧
      ∀ attempt', recordCode attempt code = .error attempt' → attempt'.At server endpoint := by
  unfold recordCode
  split
  · exact outcomes_ok ⟨h.1, h.2⟩
  · split
    · exact outcomes_ok ⟨h.1, h.2⟩
    · exact outcomes_error ⟨h.1, h.2⟩

theorem rejectCode_at (h : attempt.At server endpoint) {code : ResponseCode}
    (hr : rejectCode attempt code = some attempt') : attempt'.At server endpoint := by
  unfold rejectCode at hr
  split at hr <;> cases hr <;> exact ⟨h.1, h.2⟩

omit [BEq Q] in
theorem readAnswers_at {progress : AxfrProgress} (h : attempt.At server endpoint)
    (response : DnsResponse N Q) :
    (∀ progress', readAnswers request progress attempt response = .ok progress' →
        progress'.attempt.At server endpoint) ∧
      ∀ attempt', readAnswers request progress attempt response = .error attempt' →
        attempt'.At server endpoint := by
  unfold readAnswers
  dsimp only
  split
  · exact outcomes_error ⟨h.1, h.2⟩
  · split
    · exact outcomes_error ⟨h.1, h.2⟩
    · exact outcomes_ok ⟨h.1, h.2⟩

theorem receive_at (request : AxfrRequest N Q) {progress : AxfrProgress}
    (h : progress.attempt.At server endpoint) (bytes : Nat) (response : Option (DnsResponse N Q)) :
    (∀ progress', receive request progress bytes response = .ok progress' →
        progress'.attempt.At server endpoint) ∧
      ∀ attempt', receive request progress bytes response = .error attempt' →
        attempt'.At server endpoint := by
  cases response with
  | none => exact outcomes_error ⟨h.1, h.2⟩
  | some response =>
    simp only [receive]
    split
    · exact outcomes_error ⟨h.1, h.2⟩
    · split
      · exact outcomes_error ⟨h.1, h.2⟩
      · have hcounted : (progress.attempt.count bytes response.answers.length).At server endpoint :=
          ⟨h.1, h.2⟩
        obtain ⟨hok, herror⟩ := recordCode_at hcounted response.responseCode
        split
        · rename_i hcode
          exact outcomes_error (herror _ hcode)
        · rename_i hcode
          split
          · rename_i hreject
            exact outcomes_error (rejectCode_at (hok _ hcode) hreject)
          · exact readAnswers_at (hok _ hcode) response

theorem axfrLoop_at (deadlineFirst : Bool) {progress : AxfrProgress}
    (h : progress.attempt.At server endpoint) (events : List (AxfrEvent N Q)) :
    (axfrLoop request deadlineFirst progress events).At server endpoint := by
  induction events generalizing progress with
  | nil => exact ⟨h.1, h.2⟩
  | cons event rest ih =>
    cases event with
    | cancelled | timedOut | framingError => exact ⟨h.1, h.2⟩
    | endOfStream =>
      simp only [axfrLoop, AxfrProgress.ended]
      split <;> exact ⟨h.1, h.2⟩
    | message bytes response =>
      obtain ⟨hok, herror⟩ := receive_at request h bytes response
      simp only [axfrLoop]
      split
      · exact ⟨h.1, h.2⟩
      · split
        · rename_i hr
          exact herror _ hr
        · rename_i hr
          split
          · unfold drain
            split <;> exact ⟨(hok _ hr).1, (hok _ hr).2⟩
          · exact ih (hok _ hr)

/-- An attempt is listed under its nameserver and endpoint, however it ends. -/
theorem checkAxfrEndpoint_at (session : AxfrSession N Q) :
    (checkAxfrEndpoint session).At session.server session.endpoint := by
  have h : session.newAttempt.At session.server session.endpoint := ⟨rfl, rfl⟩
  unfold checkAxfrEndpoint
  dsimp only
  split
  · exact ⟨h.1, h.2⟩
  · exact ⟨h.1, h.2⟩
  · exact ⟨h.1, h.2⟩
  · split
    · exact ⟨h.1, h.2⟩
    · split
      · exact ⟨h.1, h.2⟩
      · exact axfrLoop_at _ h _

theorem attempt_at (meeting : AxfrMeeting N Q) (server : String) (endpoint : SocketAddr) :
    (meeting.attempt server endpoint).At server endpoint :=
  checkAxfrEndpoint_at _

/-- A completed check has tried all endpoints. -/
theorem attemptEndpoints_completed {meeting : AxfrMeeting N Q}
    {endpoints : List (SocketAddr × String)}
    (h : (attemptEndpoints meeting endpoints).2 = .completed) :
    (attemptEndpoints meeting endpoints).1 =
      endpoints.map fun entry => meeting.attempt entry.2 entry.1 := by
  induction endpoints with
  | nil => rfl
  | cons entry endpoints ih =>
    obtain ⟨endpoint, server⟩ := entry
    unfold attemptEndpoints at h ⊢
    dsimp only at h ⊢
    split at h
    · cases h
    · rename_i hcancelled
      split at h
      · cases h
      · rename_i hexpired
        rw [if_neg hcancelled, if_neg hexpired, List.map_cons, ih h]

end Attempts

/-! ## Endpoints -/

section Endpoints

variable {endpoints : AxfrEndpoints}

/-- With room for them, all addresses come to be endpoints; those before keep their nameserver. -/
theorem addEndpoints_spec (nameserver : String) {ips : List IpAddr}
    (hroom : endpoints.size + ips.length ≤ maxAxfrEndpoints) :
    (addEndpoints nameserver ips endpoints).size ≤ endpoints.size + ips.length ∧
      (∀ endpoint server, endpoints.get endpoint = some server →
        (addEndpoints nameserver ips endpoints).get endpoint = some server) ∧
      (∀ endpoint server, (addEndpoints nameserver ips endpoints).get endpoint = some server →
        endpoints.get endpoint = some server ∨ server = nameserver) ∧
      ∀ ip ∈ ips, ((addEndpoints nameserver ips endpoints).get ⟨ip, 53⟩).isSome = true := by
  induction ips generalizing endpoints with
  | nil => exact ⟨Nat.le_refl _, fun _ _ h => h, fun _ _ h => .inl h, nofun⟩
  | cons ip ips ih =>
    rw [List.length_cons] at hroom ⊢
    unfold addEndpoints
    rw [if_neg (by omega)]
    generalize hadded : (if (endpoints.get ⟨ip, 53⟩).isSome = true then endpoints
      else endpoints.insert ⟨ip, 53⟩ nameserver) = added
    have hsize : added.size ≤ endpoints.size + 1 := by
      rw [← hadded]
      split
      · exact Nat.le_succ _
      · exact OrdMap.size_insert_le _ _ _
    have hkept : ∀ endpoint server, endpoints.get endpoint = some server →
        added.get endpoint = some server := by
      intro endpoint server h
      rw [← hadded]
      split
      · exact h
      · rename_i hfree
        rw [OrdMap.get_insert, if_neg, h]
        rintro rfl
        rw [h] at hfree
        exact hfree rfl
    have howned : ∀ endpoint server, added.get endpoint = some server →
        endpoints.get endpoint = some server ∨ server = nameserver := by
      intro endpoint server h
      rw [← hadded] at h
      split at h
      · exact .inl h
      · rw [OrdMap.get_insert] at h
        split at h
        · exact .inr (Option.some.inj h).symm
        · exact .inl h
    have hmem : (added.get ⟨ip, 53⟩).isSome = true := by
      rw [← hadded]
      split
      · assumption
      · rw [OrdMap.get_insert, if_pos rfl]
        rfl
    have hroom' : added.size + ips.length ≤ maxAxfrEndpoints := by omega
    obtain ⟨hsize', hkept', howned', hmem'⟩ := ih hroom'
    refine ⟨by omega, fun endpoint server h => hkept' _ _ (hkept _ _ h),
      fun endpoint server h => ?_, ?_⟩
    · exact (howned' _ _ h).elim (howned _ _) .inr
    · rintro other (_ | ⟨_, hother⟩)
      · obtain ⟨server, hserver⟩ := Option.isSome_iff_exists.mp hmem
        rw [hkept' _ _ hserver]
        rfl
      · exact hmem' other hother

/-- The lookup of the nameserver gives these addresses. -/
def NameserverLookup.Resolves (lookup : NameserverLookup) (addresses : List IpAddr) : Prop :=
  lookup.result = .ready (.ok addresses)

/-- The endpoints of the nameservers looked up so far. -/
structure EndpointsOf (lookup : String → NameserverLookup) (nameservers : List String)
    (endpoints : AxfrEndpoints) : Prop where
  size_le : endpoints.size ≤ maxAxfrIpsPerNameserver * nameservers.length
  owned : ∀ endpoint server, endpoints.get endpoint = some server →
    ∃ addresses, (lookup server).Resolves addresses
  covered : ∀ nameserver ∈ nameservers, ∀ addresses, (lookup nameserver).Resolves addresses →
    ∀ ip ∈ axfrAddresses addresses, (endpoints.get ⟨ip, 53⟩).isSome = true

variable {lookup : String → NameserverLookup} {nameservers : List String} {nameserver : String}

theorem endpointsOf_empty : EndpointsOf lookup [] .empty := ⟨Nat.le_refl _, nofun, nofun⟩

theorem EndpointsOf.add (h : EndpointsOf lookup nameservers endpoints)
    (hroom : nameservers.length < maxAxfrNameservers) {addresses : List IpAddr}
    (hresolves : (lookup nameserver).Resolves addresses) :
    EndpointsOf lookup (nameservers ++ [nameserver])
      (addAxfrEndpoints endpoints nameserver addresses) := by
  -- four nameservers with two addresses each stay within the eight endpoints
  have hroom : nameservers.length < 4 := hroom
  have hlength : (axfrAddresses addresses).length ≤ 2 := List.length_take_le _ _
  have hsize : endpoints.size ≤ 2 * nameservers.length := h.size_le
  have hfits : endpoints.size + (axfrAddresses addresses).length ≤ 8 := by omega
  obtain ⟨hsize', hkept, howned, hmem⟩ := addEndpoints_spec nameserver hfits
  refine ⟨?_, fun endpoint server hget => ?_, fun other hother found hfound ip hip => ?_⟩
  · rw [List.length_append, List.length_singleton]
    exact hsize'.trans (show _ ≤ 2 * (nameservers.length + 1) by omega)
  · rcases howned endpoint server hget with hold | rfl
    · exact h.owned endpoint server hold
    · exact ⟨addresses, hresolves⟩
  · rcases List.mem_append.mp hother with hother | hother
    · obtain ⟨server, hserver⟩ :=
        Option.isSome_iff_exists.mp (h.covered other hother found hfound ip hip)
      rw [addAxfrEndpoints, hkept _ _ hserver]
      rfl
    · rw [List.mem_singleton] at hother
      subst hother
      cases hresolves.symm.trans hfound
      exact hmem ip hip

/-- A nameserver that cannot be resolved leaves no trace. -/
theorem EndpointsOf.skip (h : EndpointsOf lookup nameservers endpoints) (nameserver : String)
    (hfails : ∀ addresses, ¬ (lookup nameserver).Resolves addresses) :
    EndpointsOf lookup (nameservers ++ [nameserver]) endpoints := by
  refine ⟨h.size_le.trans ?_, h.owned, fun other hother found hfound => ?_⟩
  · rw [List.length_append]
    exact Nat.mul_le_mul_left _ (Nat.le_add_right _ _)
  · rcases List.mem_append.mp hother with hother | hother
    · exact h.covered other hother found hfound
    · rw [List.mem_singleton] at hother
      subst hother
      exact absurd hfound (hfails found)

theorem resolveNameservers_endpoints {rest : List String} {endpoints' : AxfrEndpoints}
    (h : EndpointsOf lookup nameservers endpoints)
    (hlength : (nameservers ++ rest).length ≤ maxAxfrNameservers)
    (hok : resolveNameservers lookup rest endpoints = .ok endpoints') :
    EndpointsOf lookup (nameservers ++ rest) endpoints' := by
  induction rest generalizing nameservers endpoints with
  | nil =>
    cases hok
    rwa [List.append_nil]
  | cons nameserver rest ih =>
    have hroom : nameservers.length < maxAxfrNameservers := by
      rw [List.length_append, List.length_cons] at hlength
      omega
    rw [List.append_cons] at hlength ⊢
    unfold resolveNameservers at hok
    split at hok
    · cases hok
    · rename_i addresses hresult
      exact ih (h.add hroom hresult) hlength hok
    all_goals
      rename_i hresult
      have hskip := h.skip nameserver fun addresses hresolves => by
        cases hresult.symm.trans hresolves
      split at hok
      · cases hok
      · exact ih hskip hlength hok

/-- A resolution that is stopped has not completed. -/
theorem resolveNameservers_error {rest : List String} {state : AxfrCheckState}
    (h : resolveNameservers lookup rest endpoints = .error state) : state ≠ .completed := by
  induction rest generalizing endpoints with
  | nil => cases h
  | cons nameserver rest ih =>
    unfold resolveNameservers at h
    split at h
    · cases h
      simp
    · exact ih h
    all_goals
      split at h
      · cases h
        simp
      · exact ih h

end Endpoints

/-! ## The report -/

/-- The error is about a transfer from the nameserver. -/
def ScanError.Names (error : ScanError) (nameserver : String) : Prop :=
  ∃ endpoint : SocketAddr, error.target = some (nameserver ++ " (" ++ endpoint.display ++ ")")

/-- What `after` lists beyond `before` tells that the nameserver was not checked. -/
def RecordsUnchecked (before after : ScanReport) (nameserver : String) : Prop :=
  (∃ error ∈ after.errors.drop before.errors.length, error.Names nameserver) ∨
    ∃ skipped ∈ after.skippedChecks.drop before.skippedChecks.length,
      skipped.check = "authoritative_axfr"

/-- The first two addresses of the nameserver have been tried. -/
def AuthoritativeAxfrObservation.Covers (observation : AuthoritativeAxfrObservation)
    (lookup : NameserverLookup) : Prop :=
  ∃ addresses, lookup.Resolves addresses ∧ ∀ ip ∈ axfrAddresses addresses,
    (⟨ip, 53⟩ : SocketAddr) ∈ observation.attempts.map AxfrAttempt.endpoint

/-- No endpoint is tried twice, and no nameserver is left out in silence. -/
def AxfrAccounted (lookup : String → NameserverLookup) (check : AxfrCheck)
    (before after : ScanReport) : Prop :=
  ∃ observation, check.observation = some observation ∧
    (observation.attempts.map AxfrAttempt.endpoint).Nodup ∧
    ∀ nameserver ∈ observation.nameservers, observation.Covers (lookup nameserver) ∨
      RecordsUnchecked before after nameserver

/-- The text in front of the endpoint is the nameserver. -/
theorem nameserver_of_target {server nameserver : String} {endpoint endpoint' : SocketAddr}
    (h : server ++ " (" ++ endpoint.display ++ ")" =
      nameserver ++ " (" ++ endpoint'.display ++ ")") : server = nameserver := by
  have hlists := congrArg String.toList h
  have hopen : " (".toList = [' ', '('] := by decide
  simp only [String.toList_append, hopen, List.append_assoc, List.cons_append,
    List.nil_append] at hlists
  rw [List.append_cons server.toList, List.append_cons nameserver.toList] at hlists
  have hbehind (endpoint : SocketAddr) : '(' ∉ endpoint.display.toList ++ ")".toList := by
    rw [List.mem_append]
    rintro (hmem | hmem)
    · exact absurd (endpoint.display_chars _ hmem) (by decide)
    · exact absurd hmem (by decide)
  have hfront := append_lastMark_injective (hbehind endpoint) (hbehind endpoint') hlists
  exact String.toList_injective (List.append_cancel_right hfront)

section Report

variable {N Q : Type} [BEq N] [BEq Q] {platform : Platform} {evidence : AuthoritativeEvidence}
  {meeting : AxfrMeeting N Q}

/-- What a completed check has done. -/
theorem analyze_completed
    (h : (analyzeAuthoritativeAxfr platform evidence meeting).state = .completed) :
    ∃ endpoints, EndpointsOf meeting.lookup (evidence.nameservers.take maxAxfrNameservers)
        endpoints ∧
      (analyzeAuthoritativeAxfr platform evidence meeting).observation = some
        { zone := trimName platform evidence.zone
          nameservers := evidence.nameservers.take maxAxfrNameservers
          attempts := endpoints.entries.map fun entry => meeting.attempt entry.2 entry.1 } := by
  have hlength : ([] ++ evidence.nameservers.take maxAxfrNameservers).length ≤ maxAxfrNameservers :=
    List.length_take_le _ _
  unfold analyzeAuthoritativeAxfr at h ⊢
  dsimp only at h ⊢
  split at h
  · cases h
  · rename_i hcancelled
    split at h
    · cases h
    · rename_i hexpired
      split at h
      · cases h
      · rename_i hbuilt
        rw [if_neg hcancelled, if_neg hexpired, if_neg hbuilt]
        cases hendpoints : resolveNameservers meeting.lookup
            (evidence.nameservers.take maxAxfrNameservers) .empty with
        | error state =>
          rw [hendpoints] at h
          exact absurd h (resolveNameservers_error hendpoints)
        | ok endpoints =>
          have hof := resolveNameservers_endpoints endpointsOf_empty hlength hendpoints
          rw [hendpoints] at h
          dsimp only at h ⊢
          split at h
          · cases h
          · rename_i hsome
            rw [if_neg hsome]
            have hall : endpoints.entries.take maxAxfrEndpoints = endpoints.entries := by
              refine List.take_of_length_le (hof.size_le.trans ?_)
              exact Nat.mul_le_mul_left maxAxfrIpsPerNameserver hlength
            rw [hall] at h ⊢
            exact ⟨endpoints, hof, by rw [attemptEndpoints_completed h]⟩

/-- The endpoints of the attempts are those of the resolution. -/
theorem attempts_endpoints (meeting : AxfrMeeting N Q) (entries : List (SocketAddr × String)) :
    (entries.map fun entry => meeting.attempt entry.2 entry.1).map AxfrAttempt.endpoint =
      entries.map Prod.fst := by
  rw [List.map_map]
  exact List.map_congr_left fun entry _ => (attempt_at meeting entry.2 entry.1).2

theorem covers_of_endpoints {endpoints : AxfrEndpoints} {nameservers : List String}
    (h : EndpointsOf meeting.lookup nameservers endpoints) {nameserver : String}
    (hmem : nameserver ∈ nameservers) {addresses : List IpAddr}
    (hresolves : (meeting.lookup nameserver).Resolves addresses) :
    ∀ ip ∈ axfrAddresses addresses, (⟨ip, 53⟩ : SocketAddr) ∈
      (endpoints.entries.map fun entry => meeting.attempt entry.2 entry.1).map
        AxfrAttempt.endpoint := by
  intro ip hip
  rw [attempts_endpoints]
  exact OrdMap.mem_keys.mpr (h.covered nameserver hmem addresses hresolves ip hip)

/-- An error of an attempt names a nameserver that was resolved. -/
theorem resolves_of_names {endpoints : AxfrEndpoints} {nameservers : List String}
    (h : EndpointsOf meeting.lookup nameservers endpoints) {error : ScanError}
    (herror : error ∈ (endpoints.entries.map fun entry =>
      meeting.attempt entry.2 entry.1).filterMap AxfrAttempt.scanError)
    {nameserver : String} (hnames : error.Names nameserver) :
    ∃ addresses, (meeting.lookup nameserver).Resolves addresses := by
  obtain ⟨attempt, hattempt, hscan⟩ := List.mem_filterMap.mp herror
  obtain ⟨⟨endpoint, server⟩, hentry, rfl⟩ := List.mem_map.mp hattempt
  obtain ⟨hserver, -⟩ := attempt_at meeting server endpoint
  obtain ⟨kind, -, rfl⟩ := Option.map_eq_some_iff.mp hscan
  obtain ⟨endpoint', htarget⟩ := hnames
  have hsame := nameserver_of_target (Option.some.inj htarget)
  rw [← hsame, hserver]
  exact h.owned endpoint server (OrdMap.mem_entries_iff.mp hentry)

/-- The stage of the scan leaves the report as the accounting makes it. -/
theorem authoritativeAxfr_completed (env : CoreEnv) (selection : ScanSelection) {run : Run}
    (hhost : run.report.target.hostless = false) (h : env.axfr.state = .completed) :
    ((authoritativeAxfr env selection (some evidence)).final run).report =
      recordAxfr env.axfr run.report := by
  refine Flow.final_iff (R := fun run' : Run => run'.report = recordAxfr env.axfr run.report).mpr ?_
  unfold authoritativeAxfr
  simp only [Flow.holds_bind, Flow.holds_read, Flow.holds_ite, holds_update, hhost,
    Option.isSome_some, h, if_true, Bool.false_eq_true, if_false]
  rfl

section Stage

variable {env : CoreEnv} {run : Run}

/-- What the stage adds to the report are the errors of the attempts. -/
theorem authoritativeAxfr_adds (evidence : AuthoritativeEvidence) (selection : ScanSelection)
    (hhost : run.report.target.hostless = false) (hstate : env.axfr.state = .completed)
    {observation : AuthoritativeAxfrObservation} (h : env.axfr.observation = some observation) :
    ((authoritativeAxfr env selection (some evidence)).final run).report.errors =
        run.report.errors ++ observation.attempts.filterMap AxfrAttempt.scanError ∧
      ((authoritativeAxfr env selection (some evidence)).final run).report.skippedChecks =
        run.report.skippedChecks := by
  rw [authoritativeAxfr_completed env selection hhost hstate]
  simp only [recordAxfr, h, hstate, if_true]
  exact ⟨rfl, rfl⟩

theorem resolves_of_accounted (selection : ScanSelection)
    (hhost : run.report.target.hostless = false)
    (hcheck : env.axfr = analyzeAuthoritativeAxfr platform evidence meeting)
    (hstate : env.axfr.state = .completed)
    (h : AxfrAccounted meeting.lookup env.axfr run.report
      ((authoritativeAxfr env selection (some evidence)).final run).report) {nameserver : String}
    (hmem : nameserver ∈ evidence.nameservers.take maxAxfrNameservers) :
    ∃ addresses, (meeting.lookup nameserver).Resolves addresses := by
  obtain ⟨endpoints, hof, hobservation⟩ := analyze_completed (hcheck ▸ hstate)
  rw [← hcheck] at hobservation
  obtain ⟨herrors, hskipped⟩ :=
    authoritativeAxfr_adds evidence selection hhost hstate hobservation
  obtain ⟨observation, hsome, -, hall⟩ := h
  rw [hobservation] at hsome
  cases hsome
  rcases hall nameserver hmem with ⟨addresses, hresolves, -⟩ | hrecords
  · exact ⟨addresses, hresolves⟩
  · rw [RecordsUnchecked, herrors, hskipped, List.drop_left, List.drop_length] at hrecords
    obtain ⟨error, herror, hnames⟩ | ⟨skipped, hskip, -⟩ := hrecords
    · exact resolves_of_names hof herror hnames
    · cases hskip

/-- A completed check accounts for all nameservers of its observation exactly when each of them
could be resolved. -/
theorem axfr_accounted_iff (selection : ScanSelection)
    (hhost : run.report.target.hostless = false)
    (hcheck : env.axfr = analyzeAuthoritativeAxfr platform evidence meeting)
    (hstate : env.axfr.state = .completed) :
    AxfrAccounted meeting.lookup env.axfr run.report
        ((authoritativeAxfr env selection (some evidence)).final run).report ↔
      ∀ nameserver ∈ evidence.nameservers.take maxAxfrNameservers,
        ∃ addresses, (meeting.lookup nameserver).Resolves addresses := by
  constructor
  · exact fun h _ hmem => resolves_of_accounted selection hhost hcheck hstate h hmem
  · intro hall
    obtain ⟨endpoints, hof, hobservation⟩ := analyze_completed (hcheck ▸ hstate)
    refine ⟨_, hcheck ▸ hobservation, ?_, fun nameserver hmem => .inl ?_⟩
    · dsimp only
      rw [attempts_endpoints]
      exact List.pairwise_map.mpr (endpoints.sorted.imp ne_of_lt)
    · obtain ⟨addresses, hresolves⟩ := hall nameserver hmem
      exact ⟨addresses, hresolves, covers_of_endpoints hof hmem hresolves⟩

end Stage

end Report

/-! ## A nameserver that does not answer -/

/-- The first nameserver has an address at which no connection is made, the second has none. -/
def silentMeeting : AxfrMeeting Unit Unit where
  before := ⟨false, false⟩
  built := true
  lookup := fun nameserver =>
    if nameserver = "ns1.example.com" then ⟨.ready (.ok [.v4 0xc0000201#32]), false⟩
    else ⟨.timedOut, false⟩
  session := fun endpoint =>
    ⟨"", endpoint, ⟨(), 0, []⟩, .ready (.error ()), true, true, false, []⟩
  expired := fun _ => false

/-- The NS records of the zone, one of them twice, and one of a zone below. -/
def nameserverRecords : List Record :=
  [⟨"example.com.", .ns "NS2.example.com.", .insecure⟩,
    ⟨"example.com.", .ns "ns1.example.com.", .insecure⟩,
    ⟨"sub.example.com.", .ns "ns3.example.com.", .insecure⟩,
    ⟨"example.com.", .ns "ns2.example.com.", .insecure⟩]

def twoNameservers : AuthoritativeEvidence where
  zone := "example.com."
  nameservers := evidencedNameservers fixturePlatform (fun record => record.name = "example.com.")
    nameserverRecords

def silentEnv : CoreEnv :=
  { addresslessEnv with
    axfr := analyzeAuthoritativeAxfr fixturePlatform twoNameservers silentMeeting }

def silentRun : Run := ⟨fixtureReport, []⟩

theorem silentEnv_completed : silentEnv.axfr.state = .completed := by decide +kernel

theorem silentEnv_axfr :
    silentEnv.axfr = analyzeAuthoritativeAxfr fixturePlatform twoNameservers silentMeeting := rfl

theorem axfr_accounted_silent :
    AxfrAccounted silentMeeting.lookup silentEnv.axfr silentRun.report
        ((authoritativeAxfr silentEnv .all (some twoNameservers)).final silentRun).report ↔
      ∀ nameserver ∈ twoNameservers.nameservers.take maxAxfrNameservers,
        ∃ addresses, (silentMeeting.lookup nameserver).Resolves addresses :=
  axfr_accounted_iff .all rfl silentEnv_axfr silentEnv_completed

/-- The check completes, and nothing tells of the second nameserver. -/
theorem axfr_unaccounted :
    silentEnv.axfr.state = .completed ∧
      ¬ AxfrAccounted silentMeeting.lookup silentEnv.axfr silentRun.report
        ((authoritativeAxfr silentEnv .all (some twoNameservers)).final silentRun).report := by
  refine ⟨silentEnv_completed, fun h => ?_⟩
  have hmem : "ns2.example.com" ∈ twoNameservers.nameservers.take maxAxfrNameservers := by
    decide +kernel
  obtain ⟨addresses, hresolves⟩ :=
    resolves_of_accounted .all rfl silentEnv_axfr silentEnv_completed h hmem
  cases hresolves

end Surface

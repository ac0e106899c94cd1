import Surface.Lifecycle
import Surface.Intelligence.Destination

/-!
# Surface.Intelligence.Lookup

The two sources that look up the addresses of the primary host, RDAP registrations and BGP routes,
and how their results enter a report.

* `finishLookup`: what both sources do with their observations, failures and stop.
  `finishNetworkRegistrations` and `finishBgpRoutes` are its two members.
* `finishLookup_status`: the status after a lookup, from the status before it.
* `collectBgp`: the loop over the responses of the routing source.
-/

namespace Surface

def maxRdapAddresses : Nat := 8
def maxBgpAddresses : Nat := 8

/-- Why a lookup ended before all of its responses were read. -/
inductive LookupStop where
  | cancelled
  | deadline
deriving DecidableEq

abbrev RdapStop := LookupStop
abbrev BgpStop := LookupStop

inductive FetchError where
  | cancelled
  | deadline
  | timeout
  | resolution
  | destination
  | request
  | http (status : Nat)
  | tooLarge
deriving DecidableEq

/-! ## Recording a source in the report -/

namespace ScanReport

/-- Only a completed scan turns partial when intelligence is incomplete; the same for registrations,
for routes and in the command. -/
def downgrade (report : ScanReport) : ScanReport :=
  if report.status = .completed then
    { report with
      status := .partialScan
      message := "Scan completed with incomplete intelligence." }
  else report

/-- Replace the reason of the first entry for a check, or add one. -/
def setSkipReason (check reason : String) : List SkippedCheck → List SkippedCheck
  | [] => [⟨check, reason⟩]
  | skip :: rest =>
    if skip.check = check then { skip with reason := reason } :: rest
    else skip :: setSkipReason check reason rest

def recordSourceSkip (report : ScanReport) (check reason : String) : ScanReport :=
  { report with skippedChecks := setSkipReason check reason report.skippedChecks }

def recordNetworkRegistrationSkip (report : ScanReport) (reason : String) : ScanReport :=
  report.recordSourceSkip "network_registration" reason

def recordBgpSkip (report : ScanReport) (reason : String) : ScanReport :=
  report.recordSourceSkip "bgp_origin" reason

/-- The intelligence section, started as complete when there is none yet. -/
def intelligenceOrNew (report : ScanReport) : IntelligenceObservation :=
  report.intelligence.getD { complete := true }

/-- The status and message a finished lookup leaves, and the reason it gives for a skip. -/
def stopLookup (report : ScanReport) (incomplete : String) (failures : OrdSet String) :
    Option LookupStop → ScanReport × Option String
  | some .cancelled =>
    (if report.status ≠ .failed then
      { report with status := .interrupted, message := "Scan interrupted." }
    else report, some "scan interrupted")
  | some .deadline => (report.downgrade, some "global timeout expired")
  | none =>
    if failures.isEmpty then (report, none)
    else (report.downgrade, some (incomplete ++ "; ".intercalate failures.toList))

/-- Store what a source observed, then its effect on the status, then its skip entry. -/
def finishLookup {α : Type} (report : ScanReport) (check incomplete : String)
    (store : IntelligenceObservation → List α → IntelligenceObservation) (address : α → IpAddr)
    (observations : List α) (failures : OrdSet String) (stop : Option LookupStop) : ScanReport :=
  let observations := sortBy address observations
  let stored :=
    if !observations.isEmpty || !failures.isEmpty || stop.isSome then
      let intelligence := store report.intelligenceOrNew observations
      { report with
        intelligence := some
          { intelligence with
            complete := intelligence.complete && (failures.isEmpty && stop.isNone) } }
    else report
  match stored.stopLookup incomplete failures stop with
  | (report, some reason) => report.recordSourceSkip check reason
  | (report, none) => report

def finishNetworkRegistrations (report : ScanReport)
    (observations : List NetworkRegistrationObservation) (failures : OrdSet String)
    (stop : Option RdapStop) : ScanReport :=
  report.finishLookup "network_registration" "network registration lookup incomplete: "
    (fun intelligence observations =>
      { intelligence with
        networkRegistrations := dedupBy NetworkRegistrationObservation.address
          (sortBy NetworkRegistrationObservation.address
            (intelligence.networkRegistrations ++ observations)) })
    NetworkRegistrationObservation.address observations failures stop

def finishBgpRoutes (report : ScanReport) (observations : List BgpRouteObservation)
    (failures : OrdSet String) (stop : Option BgpStop) : ScanReport :=
  report.finishLookup "bgp_origin" "BGP origin lookup incomplete: "
    (fun intelligence observations =>
      { intelligence with
        bgpRoutes := dedupBy BgpRouteObservation.address
          (sortBy BgpRouteObservation.address (intelligence.bgpRoutes ++ observations)) })
    BgpRouteObservation.address observations failures stop

theorem downgrade_status (report : ScanReport) :
    report.downgrade.status =
      if report.status = .completed then .partialScan else report.status := by
  unfold downgrade
  split <;> rfl

/-- The status a finished lookup leaves behind. -/
def lookupStatus (status : ScanStatus) (failures : OrdSet String) : Option LookupStop → ScanStatus
  | some .cancelled => if status ≠ .failed then .interrupted else status
  | some .deadline => if status = .completed then .partialScan else status
  | none => if failures.isEmpty then status
    else if status = .completed then .partialScan else status

theorem stopLookup_status (report : ScanReport) (incomplete : String) (failures : OrdSet String)
    (stop : Option LookupStop) :
    (report.stopLookup incomplete failures stop).1.status =
      lookupStatus report.status failures stop := by
  rcases stop with _ | stop
  · simp only [stopLookup, lookupStatus]
    split
    · rfl
    · exact downgrade_status report
  · cases stop with
    | cancelled => simp only [stopLookup, lookupStatus]; split <;> rfl
    | deadline => exact downgrade_status report

theorem finishLookup_status {α : Type} (report : ScanReport) (check incomplete : String)
    (store : IntelligenceObservation → List α → IntelligenceObservation) (address : α → IpAddr)
    (observations : List α) (failures : OrdSet String) (stop : Option LookupStop) :
    (report.finishLookup check incomplete store address observations failures stop).status =
      lookupStatus report.status failures stop := by
  have hstore : ∀ stored : ScanReport, stored.status = report.status →
      (match stored.stopLookup incomplete failures stop with
        | (r, some reason) => r.recordSourceSkip check reason
        | (r, none) => r).status = lookupStatus report.status failures stop := by
    intro stored h
    have hs := stopLookup_status stored incomplete failures stop
    rw [h] at hs
    cases hp : stored.stopLookup incomplete failures stop with
    | mk r reason =>
      rw [hp] at hs
      cases reason with
      | none => exact hs
      | some reason => exact hs
  unfold finishLookup
  apply hstore
  split <;> rfl

/-- A lookup without failures or stop stores its observations and changes nothing else. -/
theorem finishLookup_clear {α : Type} (report : ScanReport) (check incomplete : String)
    (store : IntelligenceObservation → List α → IntelligenceObservation) (address : α → IpAddr)
    (observations : List α) {failures : OrdSet String} (h : failures.isEmpty = true) :
    report.finishLookup check incomplete store address observations failures none =
      if observations = [] then report
      else
        { report with
          intelligence :=
            some (store report.intelligenceOrNew (sortBy address observations)) } := by
  unfold finishLookup
  by_cases ho : observations = []
  · simp [ho, h, stopLookup]
  · have hs : (sortBy address observations).isEmpty = false := by
      simpa [List.isEmpty_iff, sortBy_eq_nil] using ho
    simp [ho, hs, h, stopLookup]

/-- Only a completed report whose lookup had neither failures nor a stop stays completed. -/
theorem lookupStatus_completed {status : ScanStatus} {failures : OrdSet String}
    {stop : Option LookupStop} (h : lookupStatus status failures stop = .completed) :
    status = .completed ∧ failures.isEmpty = true ∧ stop = none := by
  rcases stop with _ | stop
  · simp only [lookupStatus] at h
    split at h
    · rename_i hf
      exact ⟨h, hf, rfl⟩
    · split at h
      · cases h
      · rename_i _ hs
        exact absurd h hs
  · cases stop with
    | cancelled =>
      simp only [lookupStatus] at h
      split at h
      · cases h
      · rename_i hs
        rw [not_not.mp hs] at h
        cases h
    | deadline =>
      simp only [lookupStatus] at h
      split at h
      · cases h
      · rename_i hs
        exact absurd h hs

theorem lookupStatus_started {status : ScanStatus} {failures : OrdSet String}
    {stop : Option LookupStop} (h : status ≠ .notStarted) :
    lookupStatus status failures stop ≠ .notStarted := by
  unfold lookupStatus
  split
  · split
    · decide
    · exact h
  · split
    · decide
    · exact h
  · split
    · exact h
    · split
      · decide
      · exact h

end ScanReport

/-! ## The addresses looked up -/

namespace ScanReport

/-- The public addresses of the primary host in order, at most `maximum` of them, and whether
there were more. -/
def eligiblePrimaryAddresses (report : ScanReport) (maximum : Nat) : List IpAddr × Bool :=
  let hosts := (report.dns.map DnsObservation.resolvedHosts).getD []
  let addresses :=
    (OrdSet.ofList ((hosts.map ResolvedHost.ip).filter IpAddr.isPublicDestination)).toList
  (addresses.take maximum, decide (maximum < addresses.length))

def eligibleRdapAddresses (report : ScanReport) : List IpAddr × Bool :=
  report.eligiblePrimaryAddresses maxRdapAddresses

def eligibleBgpAddresses (report : ScanReport) : List IpAddr × Bool :=
  report.eligiblePrimaryAddresses maxBgpAddresses

/-- A public address that the primary host resolved to. -/
def PublicPrimary (report : ScanReport) (address : IpAddr) : Prop :=
  address ∈ ((report.dns.map DnsObservation.resolvedHosts).getD []).map ResolvedHost.ip ∧
    address.isPublicDestination = true

theorem publicPrimary_of_mem {report : ScanReport} {maximum : Nat} {address : IpAddr}
    (h : address ∈ (report.eligiblePrimaryAddresses maximum).1) : report.PublicPrimary address :=
  List.mem_filter.mp (OrdSet.mem_ofList.mp (List.mem_of_mem_take h))

/-- Without truncation no public address is missing. -/
theorem mem_eligiblePrimaryAddresses {report : ScanReport} {maximum : Nat} {address : IpAddr}
    (htruncated : (report.eligiblePrimaryAddresses maximum).2 = false)
    (h : report.PublicPrimary address) : address ∈ (report.eligiblePrimaryAddresses maximum).1 := by
  have hall : (report.eligiblePrimaryAddresses maximum).1 = _ :=
    List.take_of_length_le (Nat.not_lt.mp (of_decide_eq_false htruncated))
  rw [hall]
  exact OrdSet.mem_ofList.mpr (List.mem_filter.mpr h)

theorem eligiblePrimaryAddresses_empty {report : ScanReport} {maximum : Nat}
    (h : (report.eligiblePrimaryAddresses (maximum + 1)).1.isEmpty = true) :
    (report.eligiblePrimaryAddresses (maximum + 1)).2 = false := by
  have hnone := List.isEmpty_iff.mp h
  rw [eligiblePrimaryAddresses, List.take_eq_nil_iff] at hnone
  rw [eligiblePrimaryAddresses, hnone.resolve_left (Nat.succ_ne_zero _)]
  rfl

theorem eligiblePrimaryAddresses_nodup (report : ScanReport) (maximum : Nat) :
    (report.eligiblePrimaryAddresses maximum).1.Nodup :=
  (OrdSet.nodup _).sublist (List.take_sublist ..)

theorem eligiblePrimaryAddresses_length (report : ScanReport) (maximum : Nat) :
    (report.eligiblePrimaryAddresses maximum).1.length ≤ maximum := List.length_take_le ..

end ScanReport

/-- What the RDAP bootstraps and requests of one run came to. -/
structure RdapEnv where
  observations : List NetworkRegistrationObservation
  failures : OrdSet String
  stop : Option RdapStop

def truncationFailure (truncated : Bool) (failures : OrdSet String) : OrdSet String :=
  if truncated then failures.insert "address limit reached" else failures

theorem truncationFailure_kept {truncated : Bool} {failures : OrdSet String}
    (h : ∀ reason ∈ truncationFailure truncated .empty, reason ∈ failures) :
    truncationFailure truncated failures = failures := by
  cases truncated with
  | false => rfl
  | true => exact OrdSet.insert_of_mem (h _ (OrdSet.mem_insert.mpr (.inl rfl)))

theorem not_truncated {truncated : Bool} {failures : OrdSet String}
    (h : ∀ reason ∈ truncationFailure truncated .empty, reason ∈ failures)
    (hempty : failures.isEmpty = true) : truncated = false := by
  cases truncated with
  | false => rfl
  | true =>
    exact absurd (h _ (OrdSet.mem_insert.mpr (.inl rfl))) (OrdSet.isEmpty_iff.mp hempty _)

def analyzeNetworkRegistrations (env : RdapEnv) (report : ScanReport) : ScanReport :=
  let (addresses, truncated) := report.eligibleRdapAddresses
  if addresses.isEmpty then
    report.recordNetworkRegistrationSkip "no eligible external address in primary DNS results"
  else
    report.finishNetworkRegistrations env.observations (truncationFailure truncated env.failures)
      env.stop

/-! ## BGP routes -/

def bgpFetchReason : FetchError → String
  | .timeout => "RIPEstat request timed out"
  | .resolution => "RIPEstat hostname resolution failed"
  | .destination => "RIPEstat destination was not public"
  | .request => "RIPEstat request failed"
  | .http _ => "RIPEstat service returned an HTTP error"
  | .tooLarge => "RIPEstat response exceeded 128 KiB"
  | .cancelled => "scan interrupted"
  | .deadline => "global timeout expired"

/-- A response in the order of completion: the fetch may fail, and so may reading the body. -/
abbrev BgpResponse := Except FetchError (Except String BgpRouteObservation)

structure BgpEnv where
  requestUrl : IpAddr → Except String Unit
  client : Except FetchError Unit
  responses : List BgpResponse

structure BgpCollected where
  observations : List BgpRouteObservation
  failures : OrdSet String
  stop : Option BgpStop

def BgpCollected.fail (collected : BgpCollected) (reason : String) : BgpCollected :=
  { collected with failures := collected.failures.insert reason }

def BgpCollected.observe (collected : BgpCollected) (observation : BgpRouteObservation) :
    BgpCollected :=
  let collected :=
    if observation.complete then collected
    else collected.fail "RIPEstat returned incomplete BGP evidence"
  { collected with observations := collected.observations ++ [observation] }

def collectBgp : List BgpResponse → BgpCollected → BgpCollected
  | [], collected => collected
  | .ok (.ok observation) :: rest, collected => collectBgp rest (collected.observe observation)
  | .ok (.error reason) :: rest, collected => collectBgp rest (collected.fail reason)
  | .error .cancelled :: _, collected => { collected with stop := some .cancelled }
  | .error .deadline :: _, collected => { collected with stop := some .deadline }
  | .error error :: rest, collected => collectBgp rest (collected.fail (bgpFetchReason error))

def analyzeBgpRoutes (env : BgpEnv) (report : ScanReport) : ScanReport :=
  let (addresses, truncated) := report.eligibleBgpAddresses
  if addresses.isEmpty then
    report.recordBgpSkip "no eligible external address in primary DNS results"
  else
    let failures := addresses.foldl (fun failures address =>
      match env.requestUrl address with
      | .ok _ => failures
      | .error reason => failures.insert reason) (truncationFailure truncated .empty)
    if addresses.all (fun address => (env.requestUrl address).isOk = false) then
      report.finishBgpRoutes [] failures none
    else
      match env.client with
      | .ok _ =>
        let collected := collectBgp env.responses ⟨[], failures, none⟩
        report.finishBgpRoutes collected.observations collected.failures collected.stop
      | .error .cancelled => report.finishBgpRoutes [] failures (some .cancelled)
      | .error .deadline => report.finishBgpRoutes [] failures (some .deadline)
      | .error error => report.finishBgpRoutes [] (failures.insert (bgpFetchReason error)) none

/-- Without failures every observation is complete. -/
def BgpCollected.coherent (collected : BgpCollected) : Prop :=
  collected.failures.isEmpty = true → ∀ o ∈ collected.observations, o.complete = true

theorem insert_isEmpty (failures : OrdSet String) (reason : String) :
    (failures.insert reason).isEmpty = false := by
  rw [Bool.eq_false_iff, ne_eq, OrdSet.isEmpty_iff]
  exact fun h => h reason (OrdSet.mem_insert.mpr (Or.inl rfl))

theorem coherent_fail (collected : BgpCollected) (reason : String) :
    (collected.fail reason).coherent := by
  intro h
  rw [BgpCollected.fail, insert_isEmpty] at h
  cases h

theorem coherent_observe {collected : BgpCollected} (h : collected.coherent)
    (observation : BgpRouteObservation) : (collected.observe observation).coherent := by
  unfold BgpCollected.observe
  split
  · rename_i hcomplete
    intro hf o ho
    rcases List.mem_append.mp ho with ho | ho
    · exact h hf o ho
    · rw [List.mem_singleton.mp ho]
      exact hcomplete
  · intro hf
    exact absurd hf (by simp [BgpCollected.fail, insert_isEmpty])

theorem coherent_collectBgp (responses : List BgpResponse) {collected : BgpCollected}
    (h : collected.coherent) : (collectBgp responses collected).coherent := by
  induction responses generalizing collected with
  | nil => exact h
  | cons response rest ih =>
    rcases response with error | result
    · cases error with
      | cancelled => exact h
      | deadline => exact h
      | _ => exact ih (coherent_fail _ _)
    · rcases result with reason | observation
      · exact ih (coherent_fail _ _)
      · exact ih (coherent_observe h observation)

end Surface

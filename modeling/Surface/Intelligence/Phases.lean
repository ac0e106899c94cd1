import Surface.Intelligence.Lookup
import Surface.Trace

/-!
# Surface.Intelligence.Phases

Any sequence of the two lookups on one report.

* `PhaseCall`: a call of one of them, with whatever its requests came to.
* `Grown`: what a call keeps of the report before it; `finishLookup_grown` for each call.
* `phases_grown`: runs of any length, and one call of each in either order.
-/

namespace Surface

namespace ScanReport

/-! ## The parts of a lookup -/

theorem downgrade_frame (report : ScanReport) :
    ∃ status message, report.downgrade = { report with status := status, message := message } := by
  unfold downgrade
  split
  · exact ⟨_, _, rfl⟩
  · exact ⟨report.status, report.message, rfl⟩

theorem stopLookup_frame (report : ScanReport) (incomplete : String) (failures : OrdSet String)
    (stop : Option LookupStop) :
    ∃ status message reason, report.stopLookup incomplete failures stop =
      ({ report with status := status, message := message }, reason) := by
  rcases stop with _ | stop
  · simp only [stopLookup]
    split
    · exact ⟨report.status, report.message, none, rfl⟩
    · obtain ⟨status, message, h⟩ := report.downgrade_frame
      exact ⟨status, message, _, by rw [h]⟩
  · cases stop with
    | cancelled =>
      simp only [stopLookup]
      split
      · exact ⟨_, _, _, rfl⟩
      · exact ⟨report.status, report.message, _, rfl⟩
    | deadline =>
      obtain ⟨status, message, h⟩ := report.downgrade_frame
      exact ⟨status, message, _, by rw [stopLookup, h]⟩

/-- The section a lookup leaves. -/
def lookupSection {α : Type} (intelligence : Option IntelligenceObservation)
    (store : IntelligenceObservation → List α → IntelligenceObservation) (observations : List α)
    (failures : OrdSet String) (stop : Option LookupStop) : Option IntelligenceObservation :=
  if !observations.isEmpty || !failures.isEmpty || stop.isSome then
    let stored := store (intelligence.getD { complete := true }) observations
    some { stored with complete := stored.complete && (failures.isEmpty && stop.isNone) }
  else intelligence

/-- A lookup changes the intelligence section, the status and its message, and its own entry of the
checks that were skipped. -/
theorem finishLookup_eq {α : Type} (report : ScanReport) (check incomplete : String)
    (store : IntelligenceObservation → List α → IntelligenceObservation) (address : α → IpAddr)
    (observations : List α) (failures : OrdSet String) (stop : Option LookupStop) :
    ∃ status message skips,
      report.finishLookup check incomplete store address observations failures stop =
        { report with
          intelligence := lookupSection report.intelligence store (sortBy address observations)
            failures stop
          status := status
          message := message
          skippedChecks := skips } ∧
      (skips = report.skippedChecks ∨
        ∃ reason, skips = setSkipReason check reason report.skippedChecks) := by
  have hstored : (if !(sortBy address observations).isEmpty || !failures.isEmpty || stop.isSome then
      { report with
        intelligence := some
          { store report.intelligenceOrNew (sortBy address observations) with
            complete := (store report.intelligenceOrNew (sortBy address observations)).complete &&
              (failures.isEmpty && stop.isNone) } }
    else report) =
      { report with
        intelligence := lookupSection report.intelligence store (sortBy address observations)
          failures stop } := by
    unfold lookupSection intelligenceOrNew
    split <;> rfl
  obtain ⟨status, message, reason, hstop⟩ := stopLookup_frame
    { report with
      intelligence := lookupSection report.intelligence store (sortBy address observations)
        failures stop } incomplete failures stop
  unfold finishLookup
  dsimp only
  rw [hstored, hstop]
  cases reason with
  | none => exact ⟨status, message, report.skippedChecks, rfl, .inl rfl⟩
  | some reason => exact ⟨status, message, _, rfl, .inr ⟨reason, rfl⟩⟩

end ScanReport

/-! ## Calls -/

/-- A call of one of the lookups, with what its requests came to. -/
inductive PhaseCall where
  | networkRegistrations (observations : List NetworkRegistrationObservation)
      (failures : OrdSet String) (stop : Option RdapStop)
  | bgpRoutes (observations : List BgpRouteObservation) (failures : OrdSet String)
      (stop : Option BgpStop)

def PhaseCall.finish (call : PhaseCall) (report : ScanReport) : ScanReport :=
  match call with
  | .networkRegistrations observations failures stop =>
    report.finishNetworkRegistrations observations failures stop
  | .bgpRoutes observations failures stop => report.finishBgpRoutes observations failures stop

def storeRegistrations (intelligence : IntelligenceObservation)
    (observations : List NetworkRegistrationObservation) : IntelligenceObservation :=
  { intelligence with
    networkRegistrations := mergeBy NetworkRegistrationObservation.address
      intelligence.networkRegistrations observations }

def storeRoutes (intelligence : IntelligenceObservation)
    (observations : List BgpRouteObservation) : IntelligenceObservation :=
  { intelligence with
    bgpRoutes := mergeBy BgpRouteObservation.address intelligence.bgpRoutes observations }

/-! ## What a call keeps -/

/-- A list kept by key that has only gained elements: it stays strictly ascending, and what was
found at a key is still found there. -/
def GrownBy {α κ : Type} [LinearOrder κ] (key : α → κ) (before after : List α) : Prop :=
  (before.Pairwise (fun a b => key a < key b) → after.Pairwise fun a b => key a < key b) ∧
    ∀ k a, before.find? (fun b => decide (key b = k)) = some a →
      after.find? (fun b => decide (key b = k)) = some a

namespace ScanReport

def networkRegistrations (report : ScanReport) : List NetworkRegistrationObservation :=
  (report.intelligence.map IntelligenceObservation.networkRegistrations).getD []

def bgpRoutes (report : ScanReport) : List BgpRouteObservation :=
  (report.intelligence.map IntelligenceObservation.bgpRoutes).getD []

def countSkips (report : ScanReport) (check : String) : Nat :=
  report.skippedChecks.countP fun skip => skip.check = check

end ScanReport

/-- The earlier evidence is still there, and nothing outside of the lookups has changed. -/
structure Grown (before after : ScanReport) : Prop where
  networkRegistrations : GrownBy NetworkRegistrationObservation.address
    before.networkRegistrations after.networkRegistrations
  bgpRoutes : GrownBy BgpRouteObservation.address before.bgpRoutes after.bgpRoutes
  incomplete : ∀ intelligence, before.intelligence = some intelligence →
    ∃ intelligence', after.intelligence = some intelligence' ∧
      (intelligence.complete = false → intelligence'.complete = false)
  skips : ∀ check, after.countSkips check ≤ max 1 (before.countSkips check)
  target_eq : after.target = before.target
  dns_eq : after.dns = before.dns
  hosts_eq : after.hosts = before.hosts
  services_eq : after.services = before.services
  http_eq : after.http = before.http
  tls_eq : after.tls = before.tls
  findings_eq : after.findings = before.findings

theorem GrownBy.refl {α κ : Type} [LinearOrder κ] {key : α → κ} (l : List α) : GrownBy key l l :=
  ⟨id, fun _ _ h => h⟩

theorem GrownBy.trans {α κ : Type} [LinearOrder κ] {key : α → κ} {a b c : List α}
    (hab : GrownBy key a b) (hbc : GrownBy key b c) : GrownBy key a c :=
  ⟨hbc.1 ∘ hab.1, fun k x h => hbc.2 k x (hab.2 k x h)⟩

theorem grownBy_mergeBy {α κ : Type} [LinearOrder κ] {key : α → κ} (old new : List α) :
    GrownBy key old (mergeBy key old new) :=
  ⟨fun _ => mergeBy_strict key old new, fun _ _ h => find?_mergeBy h new⟩

theorem Grown.refl (report : ScanReport) : Grown report report where
  networkRegistrations := .refl _
  bgpRoutes := .refl _
  incomplete intelligence h := ⟨intelligence, h, id⟩
  skips _ := Nat.le_max_right ..
  target_eq := rfl
  dns_eq := rfl
  hosts_eq := rfl
  services_eq := rfl
  http_eq := rfl
  tls_eq := rfl
  findings_eq := rfl

theorem Grown.trans {a b c : ScanReport} (hab : Grown a b) (hbc : Grown b c) : Grown a c where
  networkRegistrations := hab.networkRegistrations.trans hbc.networkRegistrations
  bgpRoutes := hab.bgpRoutes.trans hbc.bgpRoutes
  incomplete intelligence h := by
    obtain ⟨intelligence', h', hcomplete⟩ := hab.incomplete intelligence h
    obtain ⟨intelligence'', h'', hcomplete'⟩ := hbc.incomplete intelligence' h'
    exact ⟨intelligence'', h'', hcomplete' ∘ hcomplete⟩
  skips check := by
    have hfirst := hab.skips check
    have hsecond := hbc.skips check
    omega
  target_eq := hbc.target_eq.trans hab.target_eq
  dns_eq := hbc.dns_eq.trans hab.dns_eq
  hosts_eq := hbc.hosts_eq.trans hab.hosts_eq
  services_eq := hbc.services_eq.trans hab.services_eq
  http_eq := hbc.http_eq.trans hab.http_eq
  tls_eq := hbc.tls_eq.trans hab.tls_eq
  findings_eq := hbc.findings_eq.trans hab.findings_eq

/-- An entry is added to the checks that were skipped only when there is none yet. -/
theorem countSkips_setSkipReason (check name reason : String) (skips : List SkippedCheck) :
    (ScanReport.setSkipReason name reason skips).countP (fun skip => decide (skip.check = check)) =
      if name = check then max 1 (skips.countP fun skip => decide (skip.check = check))
      else skips.countP fun skip => decide (skip.check = check) := by
  induction skips with
  | nil =>
    by_cases hname : name = check
    · simp [ScanReport.setSkipReason, hname]
    · simp [ScanReport.setSkipReason, hname]
  | cons skip rest ih =>
    unfold ScanReport.setSkipReason
    by_cases hskip : skip.check = name
    · rw [if_pos hskip, List.countP_cons, List.countP_cons]
      by_cases hname : name = check
      · rw [if_pos hname, if_pos (decide_eq_true (hskip.trans hname))]
        omega
      · rw [if_neg hname]
    · rw [if_neg hskip, List.countP_cons, List.countP_cons, ih]
      by_cases hname : name = check
      · have hout : ¬ decide (skip.check = check) = true :=
          fun h => hskip ((of_decide_eq_true h).trans hname.symm)
        rw [if_pos hname, if_pos hname, if_neg hout, Nat.add_zero, Nat.add_zero]
      · rw [if_neg hname, if_neg hname]

/-- One call of a lookup that keeps both of the lists. -/
theorem finishLookup_grown {α : Type} (report : ScanReport) (check incomplete : String)
    (store : IntelligenceObservation → List α → IntelligenceObservation) (address : α → IpAddr)
    (observations : List α) (failures : OrdSet String) (stop : Option LookupStop)
    (hregistrations : ∀ intelligence observations, GrownBy NetworkRegistrationObservation.address
      intelligence.networkRegistrations (store intelligence observations).networkRegistrations)
    (hroutes : ∀ intelligence observations, GrownBy BgpRouteObservation.address
      intelligence.bgpRoutes (store intelligence observations).bgpRoutes)
    (hcomplete : ∀ intelligence observations,
      (store intelligence observations).complete = intelligence.complete) :
    Grown report
      (report.finishLookup check incomplete store address observations failures stop) := by
  obtain ⟨status, message, skips, heq, hskips⟩ := report.finishLookup_eq check incomplete store
    address observations failures stop
  rw [heq]
  refine ⟨?_, ?_, ?_, ?_, rfl, rfl, rfl, rfl, rfl, rfl, rfl⟩
  · unfold ScanReport.networkRegistrations ScanReport.lookupSection
    split
    · cases report.intelligence with
      | none => exact hregistrations { complete := true } _
      | some intelligence => exact hregistrations intelligence _
    · exact .refl _
  · unfold ScanReport.bgpRoutes ScanReport.lookupSection
    split
    · cases report.intelligence with
      | none => exact hroutes { complete := true } _
      | some intelligence => exact hroutes intelligence _
    · exact .refl _
  · intro intelligence hsome
    unfold ScanReport.lookupSection
    rw [hsome]
    split
    · refine ⟨_, rfl, fun hfalse => ?_⟩
      show ((store intelligence _).complete && _) = false
      rw [hcomplete, hfalse]
      rfl
    · exact ⟨intelligence, rfl, id⟩
  · intro name
    rcases hskips with rfl | ⟨reason, rfl⟩
    · exact Nat.le_max_right ..
    · show List.countP _ _ ≤ _
      rw [countSkips_setSkipReason]
      split
      · exact Nat.le_refl _
      · exact Nat.le_max_right ..

theorem PhaseCall.finish_grown (call : PhaseCall) (report : ScanReport) :
    Grown report (call.finish report) := by
  cases call with
  | networkRegistrations observations failures stop =>
    exact finishLookup_grown report _ _ storeRegistrations _ _ _ _
      (fun _ _ => grownBy_mergeBy _ _) (fun _ _ => .refl _) fun _ _ => rfl
  | bgpRoutes observations failures stop =>
    exact finishLookup_grown report _ _ storeRoutes _ _ _ _
      (fun _ _ => .refl _) (fun _ _ => grownBy_mergeBy _ _) fun _ _ => rfl

/-! ## Two calls in either order -/

theorem lookupSection_comm (intelligence : Option IntelligenceObservation)
    (registrations : List NetworkRegistrationObservation) (routes : List BgpRouteObservation)
    (failures failures' : OrdSet String) (stop stop' : Option LookupStop) :
    ScanReport.lookupSection
        (ScanReport.lookupSection intelligence storeRegistrations registrations failures stop)
        storeRoutes routes failures' stop' =
      ScanReport.lookupSection
        (ScanReport.lookupSection intelligence storeRoutes routes failures' stop')
        storeRegistrations registrations failures stop := by
  unfold ScanReport.lookupSection
  by_cases hregistrations :
      (!registrations.isEmpty || !failures.isEmpty || stop.isSome) = true
  · by_cases hroutes : (!routes.isEmpty || !failures'.isEmpty || stop'.isSome) = true
    · simp only [if_pos hregistrations, if_pos hroutes, Option.getD_some, storeRegistrations,
        storeRoutes, Bool.and_right_comm]
    · simp only [if_pos hregistrations, if_neg hroutes]
  · simp only [if_neg hregistrations]

theorem finishNetworkRegistrations_intelligence (report : ScanReport)
    (observations : List NetworkRegistrationObservation) (failures : OrdSet String)
    (stop : Option RdapStop) :
    (report.finishNetworkRegistrations observations failures stop).intelligence =
      ScanReport.lookupSection report.intelligence storeRegistrations
        (sortBy NetworkRegistrationObservation.address observations) failures stop := by
  obtain ⟨_, _, _, heq, _⟩ := report.finishLookup_eq "network_registration"
    "network registration lookup incomplete: " storeRegistrations
    NetworkRegistrationObservation.address observations failures stop
  exact congrArg ScanReport.intelligence heq

theorem finishBgpRoutes_intelligence (report : ScanReport)
    (observations : List BgpRouteObservation) (failures : OrdSet String) (stop : Option BgpStop) :
    (report.finishBgpRoutes observations failures stop).intelligence =
      ScanReport.lookupSection report.intelligence storeRoutes
        (sortBy BgpRouteObservation.address observations) failures stop := by
  obtain ⟨_, _, _, heq, _⟩ := report.finishLookup_eq "bgp_origin" "BGP origin lookup incomplete: "
    storeRoutes BgpRouteObservation.address observations failures stop
  exact congrArg ScanReport.intelligence heq

/-- A section has what it had and what is stored in it, each key of it. -/
theorem lookupSection_merged {α : Type} {key : α → IpAddr}
    {select : IntelligenceObservation → List α}
    {store : IntelligenceObservation → List α → IntelligenceObservation}
    (hstore : ∀ intelligence complete observations,
      select { store intelligence observations with complete := complete } =
        mergeBy key (select intelligence) observations)
    (hnew : select { complete := true } = []) (intelligence : Option IntelligenceObservation)
    (observations : List α) (failures : OrdSet String) (stop : Option LookupStop) :
    (∀ a ∈ ((ScanReport.lookupSection intelligence store observations failures stop).map
        select).getD [], a ∈ (intelligence.map select).getD [] ∨ a ∈ observations) ∧
    ∀ a ∈ observations, ∃ b ∈ ((ScanReport.lookupSection intelligence store observations failures
      stop).map select).getD [], key b = key a := by
  have hbefore : select (intelligence.getD { complete := true }) =
      (intelligence.map select).getD [] := by
    cases intelligence with
    | none => exact hnew
    | some intelligence => rfl
  unfold ScanReport.lookupSection
  split
  · rw [Option.map_some, Option.getD_some, hstore, hbefore]
    refine ⟨fun a ha => mem_of_mem_mergeBy ha, fun a ha => ?_⟩
    exact List.mem_map.mp (mem_map_mergeBy (.inr (List.mem_map_of_mem ha)))
  · rename_i hnone
    refine ⟨fun a ha => .inl ha, fun a ha => ?_⟩
    simp only [Bool.or_eq_true, not_or, Bool.not_eq_true', Bool.not_eq_false, List.isEmpty_iff]
      at hnone
    rw [hnone.1.1] at ha
    cases ha

section Merged

variable {report : ScanReport} {failures : OrdSet String} {stop : Option LookupStop}

theorem mem_finishNetworkRegistrations {observations : List NetworkRegistrationObservation}
    {observation : NetworkRegistrationObservation}
    (h : observation ∈
      (report.finishNetworkRegistrations observations failures stop).networkRegistrations) :
    observation ∈ report.networkRegistrations ∨ observation ∈ observations := by
  rw [ScanReport.networkRegistrations, finishNetworkRegistrations_intelligence] at h
  exact ((lookupSection_merged (fun _ _ _ => rfl) rfl _ _ failures stop).1 _ h).imp_right
    mem_sortBy.mp

theorem exists_finishNetworkRegistrations {observations : List NetworkRegistrationObservation}
    {observation : NetworkRegistrationObservation} (h : observation ∈ observations) :
    ∃ stored ∈ (report.finishNetworkRegistrations observations failures stop).networkRegistrations,
      stored.address = observation.address := by
  rw [ScanReport.networkRegistrations, finishNetworkRegistrations_intelligence]
  exact (lookupSection_merged (fun _ _ _ => rfl) rfl _ _ failures stop).2 _ (mem_sortBy.mpr h)

theorem mem_finishBgpRoutes {observations : List BgpRouteObservation}
    {observation : BgpRouteObservation}
    (h : observation ∈ (report.finishBgpRoutes observations failures stop).bgpRoutes) :
    observation ∈ report.bgpRoutes ∨ observation ∈ observations := by
  rw [ScanReport.bgpRoutes, finishBgpRoutes_intelligence] at h
  exact ((lookupSection_merged (fun _ _ _ => rfl) rfl _ _ failures stop).1 _ h).imp_right
    mem_sortBy.mp

theorem exists_finishBgpRoutes {observations : List BgpRouteObservation}
    {observation : BgpRouteObservation} (h : observation ∈ observations) :
    ∃ stored ∈ (report.finishBgpRoutes observations failures stop).bgpRoutes,
      stored.address = observation.address := by
  rw [ScanReport.bgpRoutes, finishBgpRoutes_intelligence]
  exact (lookupSection_merged (fun _ _ _ => rfl) rfl _ _ failures stop).2 _ (mem_sortBy.mpr h)

end Merged

/-- Every state passed by calls of the two lookups still has the evidence that was there before, in
order, with no more than one entry for a check that was skipped unless there were more already, and
with the rest of the report unchanged; and one call of each leaves the same intelligence in either
order. -/
theorem phases_grown (report : ScanReport) :
    (∀ calls : List PhaseCall, ∀ after ∈ trace PhaseCall.finish calls report,
      Grown report after) ∧
    ∀ (registrations : List NetworkRegistrationObservation) (failures : OrdSet String)
      (stop : Option RdapStop) (routes : List BgpRouteObservation) (failures' : OrdSet String)
      (stop' : Option BgpStop),
      ((report.finishNetworkRegistrations registrations failures stop).finishBgpRoutes routes
          failures' stop').intelligence =
        ((report.finishBgpRoutes routes failures' stop').finishNetworkRegistrations registrations
          failures stop).intelligence := by
  constructor
  · intro calls
    exact trace_keeps (fun call middle h => h.trans (call.finish_grown middle)) (.refl report)
  · intro registrations failures stop routes failures' stop'
    rw [finishBgpRoutes_intelligence, finishNetworkRegistrations_intelligence,
      finishNetworkRegistrations_intelligence, finishBgpRoutes_intelligence]
    exact lookupSection_comm ..

def fixtureObservedRoute (asn : Nat) : BgpRouteObservation :=
  ⟨.ofOctets 8 8 8 8, some "8.8.8.0/24", [asn], "bgp", true, []⟩

def fixtureRegistration : NetworkRegistrationObservation where
  address := .ofOctets 8 8 8 8
  source := "rdap"
  registry := "ARIN"
  handle := some "NET-8-8-8-0"
  name := none
  networkType := none
  startAddress := some (.ofOctets 8 8 8 0)
  endAddress := some (.ofOctets 8 8 8 255)
  registrationCountry := none
  statuses := ["active"]

/-- Three lookups of one address: the last one has another route for it and runs into the
deadline. -/
def fixtureCalls : List PhaseCall :=
  [.bgpRoutes [fixtureObservedRoute 15169] .empty none,
    .networkRegistrations [fixtureRegistration] (.ofList ["timeout"]) none,
    .bgpRoutes [fixtureObservedRoute 64500] .empty (some .deadline)]

def fixtureCalled : ScanReport :=
  fixtureCalls.foldl (fun report call => call.finish report) fixtureReport

theorem phases_grown_fixture :
    fixtureCalled.intelligence.map (·.bgpRoutes) = some [fixtureObservedRoute 15169] ∧
      fixtureCalled.skippedChecks.map SkippedCheck.check = ["network_registration", "bgp_origin"] ∧
      Grown fixtureReport fixtureCalled :=
  ⟨by decide +kernel, by decide +kernel,
    (phases_grown fixtureReport).1 fixtureCalls _ (foldl_mem_trace _ _ _)⟩

end Surface

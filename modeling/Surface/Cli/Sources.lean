import Surface.Completed
import Surface.Intelligence.BgpRun
import Surface.Intelligence.Correlation
import Surface.ScanSections

/-!
# Surface.Cli.Sources

What each source of the scan command leaves of the report before it: the observations of the core
stages, and what the sources before it found.

* `collectSupplied_kept`, `RegistersNetworks.kept`, `RoutesBgp.kept`: the sources in their order.
* `storePassive_frame`: both passive sources, and what follows from it for each.
* `finalize_beyond`, `finalize_underway`: what comes after the last source.
-/

namespace Surface

/-! ## The parts of a report -/

namespace ScanReport

/-- What the core stages observed; the sources read it and leave it alone. -/
def observed (report : ScanReport) :
    NormalizedTarget × Option DnsObservation × List HostObservation × List ServiceObservation ×
      List HttpObservation × List TlsObservation :=
  (report.target, report.dns, report.hosts, report.services, report.http, report.tls)

def certificateTransparency (report : ScanReport) : Option CertificateTransparencyObservation :=
  (report.intelligence.map IntelligenceObservation.certificateTransparency).getD none

def relatedDomains (report : ScanReport) : Option RelatedDomainsObservation :=
  (report.intelligence.map IntelligenceObservation.relatedDomains).getD none

/-- What was found in the offline bundle. -/
def correlated (report : ScanReport) : List NetworkMetadata × List CveCandidate :=
  (report.intelligence.map IntelligenceObservation.correlated).getD ([], [])

variable {report after : ScanReport}

theorem publicPrimary_congr (h : after.observed = report.observed) {address : IpAddr} :
    after.PublicPrimary address ↔ report.PublicPrimary address := by
  have hdns : after.dns = report.dns := congrArg (fun observed => observed.2.1) h
  rw [PublicPrimary, PublicPrimary, hdns]

theorem observed_downgrade (report : ScanReport) : report.downgrade.observed = report.observed := by
  obtain ⟨status, message, hframe⟩ := report.downgrade_frame
  rw [hframe]
  rfl

theorem observed_finishLookup {α : Type} (report : ScanReport) (check incomplete : String)
    (store : IntelligenceObservation → List α → IntelligenceObservation) (address : α → IpAddr)
    (observations : List α) (failures : OrdSet String) (stop : Option LookupStop) :
    (report.finishLookup check incomplete store address observations failures stop).observed =
      report.observed := by
  obtain ⟨status, message, skips, heq, -⟩ := report.finishLookup_eq check incomplete store address
    observations failures stop
  rw [heq]
  rfl

/-- A part of the section that a lookup does not store stays as it was. -/
theorem lookupSection_kept {α β : Type} (intelligence : Option IntelligenceObservation)
    {store : IntelligenceObservation → List α → IntelligenceObservation} (observations : List α)
    (failures : OrdSet String) (stop : Option LookupStop)
    {select : IntelligenceObservation → β} {empty : β}
    (hstore : ∀ intelligence observations complete,
      select { store intelligence observations with complete := complete } = select intelligence)
    (hempty : select { complete := true } = empty) :
    ((lookupSection intelligence store observations failures stop).map select).getD empty =
      (intelligence.map select).getD empty := by
  unfold lookupSection
  split
  · cases intelligence with
    | none => exact (hstore _ _ _).trans hempty
    | some intelligence => exact hstore _ _ _
  · rfl

theorem intelligenceOrNew_select {β : Type} (report : ScanReport)
    {select : IntelligenceObservation → β} {empty : β}
    (hempty : select { complete := true } = empty) :
    select report.intelligenceOrNew = (report.intelligence.map select).getD empty := by
  unfold intelligenceOrNew
  cases report.intelligence with
  | none => exact hempty
  | some intelligence => rfl

theorem bare_of_supplied (h : ∀ intelligence, report.intelligence = some intelligence →
    intelligence.SuppliedOnly) :
    report.networkRegistrations = [] ∧ report.bgpRoutes = [] ∧
      report.certificateTransparency = none ∧ report.relatedDomains = none := by
  unfold networkRegistrations bgpRoutes certificateTransparency relatedDomains
  cases hsome : report.intelligence with
  | none => exact ⟨rfl, rfl, rfl, rfl⟩
  | some intelligence =>
    have honly := h intelligence hsome
    exact ⟨honly.networkRegistrations, honly.bgpRoutes, honly.certificateTransparency,
      honly.relatedDomains⟩

end ScanReport

section Kept

variable {report after : ScanReport} {requestTimeout : Nat}

/-! ## The lookups -/

theorem RegistersNetworks.kept {world : RdapWorld} {config : RdapConfig}
    (h : RegistersNetworks world config (PinnedClients.new requestTimeout) report after) :
    after.observed = report.observed ∧ after.correlated = report.correlated ∧
      after.bgpRoutes = report.bgpRoutes ∧
      after.certificateTransparency = report.certificateTransparency ∧
      after.relatedDomains = report.relatedDomains := by
  rcases h.cases with ⟨-, rfl⟩ | ⟨-, gathered, -, rfl⟩
  · exact ⟨rfl, rfl, rfl, rfl, rfl⟩
  · unfold ScanReport.correlated ScanReport.bgpRoutes ScanReport.certificateTransparency
      ScanReport.relatedDomains
    rw [finishNetworkRegistrations_intelligence]
    refine ⟨ScanReport.observed_finishLookup .., ?_, ?_, ?_, ?_⟩ <;>
      exact ScanReport.lookupSection_kept _ _ _ _ (fun _ _ _ => rfl) rfl

theorem RegistersNetworks.underway {world : RdapWorld} {config : RdapConfig}
    (h : RegistersNetworks world config (PinnedClients.new requestTimeout) report after)
    (hstatus : after.status = .completed) : report.status = .completed := by
  rcases h.cases with ⟨-, rfl⟩ | ⟨-, gathered, -, rfl⟩
  · exact hstatus
  · rw [ScanReport.finishNetworkRegistrations, ScanReport.finishLookup_status] at hstatus
    exact (ScanReport.lookupStatus_completed hstatus).1

theorem RoutesBgp.kept {world : BgpWorld} {config : BgpConfig}
    (h : RoutesBgp world config (PinnedClients.new requestTimeout) report after) :
    after.observed = report.observed ∧ after.correlated = report.correlated ∧
      after.networkRegistrations = report.networkRegistrations ∧
      after.certificateTransparency = report.certificateTransparency ∧
      after.relatedDomains = report.relatedDomains := by
  rcases h.cases with ⟨-, rfl⟩ | ⟨-, gathered, -, rfl⟩
  · exact ⟨rfl, rfl, rfl, rfl, rfl⟩
  · unfold ScanReport.correlated ScanReport.networkRegistrations
      ScanReport.certificateTransparency ScanReport.relatedDomains
    rw [finishBgpRoutes_intelligence]
    refine ⟨ScanReport.observed_finishLookup .., ?_, ?_, ?_, ?_⟩ <;>
      exact ScanReport.lookupSection_kept _ _ _ _ (fun _ _ _ => rfl) rfl

theorem RoutesBgp.underway {world : BgpWorld} {config : BgpConfig}
    (h : RoutesBgp world config (PinnedClients.new requestTimeout) report after)
    (hstatus : after.status = .completed) : report.status = .completed := by
  rcases h.cases with ⟨-, rfl⟩ | ⟨-, gathered, -, rfl⟩
  · exact hstatus
  · rw [ScanReport.finishBgpRoutes, ScanReport.finishLookup_status] at hstatus
    exact (ScanReport.lookupStatus_completed hstatus).1

/-! ## The supplied sources -/

/-- The bundle was asked for and read, and it is used as a whole. -/
theorem explicitIntelligence_correlated {env : CliEnv} {arguments : ScanArgs}
    {observation : IntelligenceObservation}
    (h : explicitIntelligence env arguments report = some (.ok observation)) :
    observation.correlated = ([], []) ∨ ∃ path bundle,
      arguments.intelligenceBundle = some path ∧ env.bundle = .ok bundle ∧
        observation.correlated = (bundle.networks, bundle.cveCandidates) := by
  unfold explicitIntelligence at h
  split at h
  · cases h
  · cases h
  · rw [Option.some.injEq] at h
    split at h
    · cases h
    · rename_i supplied hsupplied
      have hcorrelated := analyzeIntelligence_correlated h
      unfold suppliedBundle at hsupplied
      split at hsupplied
      · rename_i path hpath
        cases hbundle : env.bundle with
        | error message =>
          rw [hbundle] at hsupplied
          cases hsupplied
        | ok bundle =>
          rw [hbundle] at hsupplied
          cases hsupplied
          split at hcorrelated
          · exact .inr ⟨path, bundle, hpath, rfl, hcorrelated⟩
          · exact .inl hcorrelated
      · cases hsupplied
        exact .inl (hcorrelated.trans (ite_self _))

/-- A source that was supplied leaves what it found as the whole section, or nothing of it. -/
theorem collectSupplied_kept {env : CliEnv} {arguments : ScanArgs}
    (hnone : report.intelligence = none)
    (h : collectSupplied env arguments report = .ok after) :
    after.observed = report.observed ∧
      (∀ intelligence, after.intelligence = some intelligence → intelligence.SuppliedOnly) ∧
      (after.correlated = ([], []) ∨ ∃ path bundle,
        arguments.intelligenceBundle = some path ∧ env.bundle = .ok bundle ∧
          after.correlated = (bundle.networks, bundle.cveCandidates)) := by
  have hnothing : ∀ intelligence, report.intelligence = some intelligence →
      intelligence.SuppliedOnly := fun intelligence hsome => by
    rw [hnone] at hsome
    cases hsome
  have hempty : report.correlated = ([], []) := by
    rw [ScanReport.correlated, hnone]
    rfl
  unfold collectSupplied at h
  split at h
  · split at h
    · rename_i observation hobservation
      have honly := explicitIntelligence_suppliedOnly hobservation
      have hcorrelated := explicitIntelligence_correlated hobservation
      cases h
      unfold storeSupplied
      refine ⟨?_, fun intelligence hsome => Option.some.inj hsome ▸ honly, hcorrelated⟩
      split
      · rfl
      · exact report.observed_downgrade
    · cases h
    · cases h
      unfold ScanReport.markIntelligenceStopped
      dsimp only
      generalize hchecks : List.foldl _ _ arguments.stoppedChecks = stopped
      obtain ⟨skips, hframe⟩ := ScanReport.foldl_stopped_frame _ _ arguments.stoppedChecks
      rw [← hchecks, hframe]
      exact ⟨rfl, hnothing, .inl hempty⟩
  · cases h
    exact ⟨rfl, hnothing, .inl hempty⟩

/-! ## The passive sources -/

/-- The section after a passive source: with what it found, or only marked. -/
def storeFound {α : Type} (store : IntelligenceObservation → α → IntelligenceObservation)
    (intelligence : IntelligenceObservation) : Except String α → IntelligenceObservation
  | .ok observation => store intelligence observation
  | .error _ => intelligence

theorem storePassive_frame {α : Type} (report : ScanReport) (check : String) (complete : α → Bool)
    (store : IntelligenceObservation → α → IntelligenceObservation) (result : Except String α) :
    ∃ marked errors status message skips,
      storePassive report check complete store result =
        { report with
          intelligence := some (storeFound store
            { report.intelligenceOrNew with complete := marked, errors := errors } result)
          status := status
          message := message
          skippedChecks := skips } := by
  cases result with
  | error reason =>
    unfold storePassive ScanReport.markIntelligenceSourceError ScanReport.markIntelligencePartial
    dsimp only
    generalize hbase : ScanReport.addSkippedCheck _ check reason = base
    obtain ⟨status, message, hdowngrade⟩ := base.downgrade_frame
    obtain ⟨skips, hskips⟩ := ScanReport.addSkippedCheck_frame _ check reason
    rw [hdowngrade, ← hbase, hskips]
    exact ⟨false, _, status, message, _, rfl⟩
  | ok observation =>
    simp only [storePassive]
    split
    · exact ⟨_, _, _, _, _, rfl⟩
    · unfold ScanReport.markIntelligencePartial
      generalize hbase : ({ report with intelligence := _ } : ScanReport) = base
      obtain ⟨status, message, hdowngrade⟩ := base.downgrade_frame
      rw [hdowngrade, ← hbase]
      exact ⟨_, _, status, message, _, rfl⟩

variable {α β : Type} {check : String} {complete : α → Bool}
  {store : IntelligenceObservation → α → IntelligenceObservation} {result : Except String α}

theorem storePassive_observed :
    (storePassive report check complete store result).observed = report.observed := by
  obtain ⟨_, _, _, _, _, hframe⟩ := storePassive_frame report check complete store result
  rw [hframe]
  rfl

/-- A part of the section that the source does not store stays as it was. -/
theorem storePassive_kept {select : IntelligenceObservation → β} {empty : β}
    (hstore : ∀ intelligence observation,
      select (store intelligence observation) = select intelligence)
    (hmarked : ∀ intelligence marked errors,
      select { intelligence with complete := marked, errors := errors } = select intelligence)
    (hempty : select { complete := true } = empty) :
    ((storePassive report check complete store result).intelligence.map select).getD empty =
      (report.intelligence.map select).getD empty := by
  obtain ⟨marked, errors, _, _, _, hframe⟩ := storePassive_frame report check complete store result
  rw [hframe, ← report.intelligenceOrNew_select hempty,
    ← hmarked report.intelligenceOrNew marked errors]
  cases result with
  | ok observation => exact hstore _ observation
  | error reason => rfl

/-- What the source stores is what it found. -/
theorem storePassive_stored {select : IntelligenceObservation → Option α}
    (hstore : ∀ intelligence observation,
      select (store intelligence observation) = some observation)
    (hmarked : ∀ intelligence marked errors,
      select { intelligence with complete := marked, errors := errors } = select intelligence)
    (hempty : select { complete := true } = none) :
    ((storePassive report check complete store result).intelligence.map select).getD none =
      result.toOption.or ((report.intelligence.map select).getD none) := by
  obtain ⟨marked, errors, _, _, _, hframe⟩ := storePassive_frame report check complete store result
  rw [hframe]
  cases result with
  | ok observation => exact hstore _ observation
  | error reason => exact (hmarked _ _ _).trans (report.intelligenceOrNew_select hempty)

theorem storePassive_completed
    (h : (storePassive report check complete store result).status = .completed) :
    report.status = .completed ∧
      ∃ observation, result = .ok observation ∧ complete observation = true := by
  cases result with
  | error reason =>
    simp only [storePassive, ScanReport.markIntelligenceSourceError_status] at h
    split at h
    · cases h
    · rename_i hopen
      exact absurd h hopen
  | ok observation =>
    simp only [storePassive] at h
    split at h
    · rename_i hcomplete
      exact ⟨h, observation, rfl, hcomplete⟩
    · rw [ScanReport.markIntelligencePartial, ScanReport.downgrade_status] at h
      split at h
      · cases h
      · rename_i hopen
        exact absurd h hopen

theorem storeCertificateTransparency_kept (report : ScanReport)
    (result : Except String CertificateTransparencyObservation) :
    let stored := storeCertificateTransparency report result
    stored.observed = report.observed ∧ stored.correlated = report.correlated ∧
      stored.networkRegistrations = report.networkRegistrations ∧
      stored.bgpRoutes = report.bgpRoutes ∧ stored.relatedDomains = report.relatedDomains ∧
      stored.certificateTransparency = result.toOption.or report.certificateTransparency :=
  ⟨storePassive_observed, storePassive_kept (fun _ _ => rfl) (fun _ _ _ => rfl) rfl,
    storePassive_kept (fun _ _ => rfl) (fun _ _ _ => rfl) rfl,
    storePassive_kept (fun _ _ => rfl) (fun _ _ _ => rfl) rfl,
    storePassive_kept (fun _ _ => rfl) (fun _ _ _ => rfl) rfl,
    storePassive_stored (fun _ _ => rfl) (fun _ _ _ => rfl) rfl⟩

theorem storeRelatedDomains_kept (report : ScanReport)
    (result : Except String RelatedDomainsObservation) :
    let stored := storeRelatedDomains report result
    stored.observed = report.observed ∧ stored.correlated = report.correlated ∧
      stored.networkRegistrations = report.networkRegistrations ∧
      stored.bgpRoutes = report.bgpRoutes ∧
      stored.certificateTransparency = report.certificateTransparency ∧
      stored.relatedDomains = result.toOption.or report.relatedDomains :=
  ⟨storePassive_observed, storePassive_kept (fun _ _ => rfl) (fun _ _ _ => rfl) rfl,
    storePassive_kept (fun _ _ => rfl) (fun _ _ _ => rfl) rfl,
    storePassive_kept (fun _ _ => rfl) (fun _ _ _ => rfl) rfl,
    storePassive_kept (fun _ _ => rfl) (fun _ _ _ => rfl) rfl,
    storePassive_stored (fun _ _ => rfl) (fun _ _ _ => rfl) rfl⟩

/-- When the report is completed after the source, the source has found all there is. -/
theorem storeCertificateTransparency_completed {applicable : Bool}
    {result : Except String CertificateTransparencyObservation}
    (h : (if applicable then storeCertificateTransparency report result else report).status =
      .completed) :
    let stored := if applicable then storeCertificateTransparency report result else report
    report.status = .completed ∧ stored.networkRegistrations = report.networkRegistrations ∧
      stored.bgpRoutes = report.bgpRoutes ∧
      (applicable = true → ∃ observation, stored.certificateTransparency = some observation ∧
        observation.complete = true) := by
  cases applicable with
  | false => exact ⟨h, rfl, rfl, nofun⟩
  | true =>
    rw [if_pos rfl, storeCertificateTransparency] at h
    obtain ⟨-, -, hregistrations, hroutes, -, hstored⟩ :=
      storeCertificateTransparency_kept report result
    obtain ⟨hstatus, observation, rfl, hcomplete⟩ := storePassive_completed h
    exact ⟨hstatus, hregistrations, hroutes, fun _ => ⟨observation, hstored, hcomplete⟩⟩

theorem storeRelatedDomains_completed {configured : Bool}
    {result : Except String RelatedDomainsObservation}
    (h : (if configured then storeRelatedDomains report result else report).status = .completed) :
    let stored := if configured then storeRelatedDomains report result else report
    report.status = .completed ∧ stored.networkRegistrations = report.networkRegistrations ∧
      stored.bgpRoutes = report.bgpRoutes ∧
      stored.certificateTransparency = report.certificateTransparency ∧
      (configured = true → ∃ observation, stored.relatedDomains = some observation ∧
        observation.complete = true) := by
  cases configured with
  | false => exact ⟨h, rfl, rfl, rfl, nofun⟩
  | true =>
    rw [if_pos rfl, storeRelatedDomains] at h
    obtain ⟨-, -, hregistrations, hroutes, htransparency, hstored⟩ :=
      storeRelatedDomains_kept report result
    obtain ⟨hstatus, observation, rfl, hcomplete⟩ := storePassive_completed h
    exact ⟨hstatus, hregistrations, hroutes, htransparency,
      fun _ => ⟨observation, hstored, hcomplete⟩⟩

/-! ## Finalization -/

/-- What finalization leaves alone. -/
def Run.beyond (run : Run) := (run.report.observed, run.report.intelligence)

theorem finalize_beyond (generateFindings : FindingGenerator) (clock : FinalizeClock) (run : Run) :
    (finalize generateFindings clock run).beyond = run.beyond :=
  view_finalize generateFindings clock ⟨fun _ _ _ _ _ => rfl, fun _ _ => rfl⟩ (fun _ _ => rfl)
    (fun _ => rfl) (fun _ _ => rfl) (fun _ _ => rfl) run

theorem checkpoint_underway {reading : Reading} {stage : ScanStage} {selection : ScanSelection}
    {interrupted expired : String} {otherwise : ScanReport → ScanReport}
    (h : (report.checkpoint reading stage selection interrupted expired otherwise).status =
      .completed) : (otherwise report).status = .completed := by
  cases hstops : reading.stops with
  | false => rwa [ScanReport.checkpoint_clear hstops] at h
  | true =>
    obtain ⟨kind, message, hterminate⟩ := ScanReport.checkpoint_stops hstops
    rw [hterminate] at h
    exact absurd h (ScanReport.terminate_status ..).1

/-- Finalization completes no report whose sources were not completed. -/
theorem finalize_underway {generateFindings : FindingGenerator} {clock : FinalizeClock} {run : Run}
    (hended : run.report.status ≠ .notStarted)
    (h : (finalize generateFindings clock run).report.status = .completed) :
    run.report.status = .completed := by
  unfold finalize at h
  split at h
  · exact h
  · split at h
    · exact h
    · have hbefore := checkpoint_underway h
      obtain ⟨hopen, -⟩ := run.report.settle_status.mp (checkpoint_underway hbefore)
      exact hopen.resolve_left hended

end Kept

end Surface

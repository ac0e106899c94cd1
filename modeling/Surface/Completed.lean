import Surface.Accounting
import Surface.Cli.Scan

/-!
# Surface.Completed

A completed status never hides missing work.

* `Unhidden`: the invariant of the scan command. A completed report is conclusive, and all of its
  intelligence is complete.
* One lemma for each source shows that it keeps `Unhidden`: it either stores complete evidence or
  takes the completed status away.
* `runScanCommand_completed`: what a completed report of the scan command promises.
-/

namespace Surface

/-- The section itself and each source in it that reports on its own completeness. -/
structure IntelligenceObservation.AllComplete (observation : IntelligenceObservation) : Prop where
  complete : observation.complete = true
  certificateTransparency : ∀ o, observation.certificateTransparency = some o → o.complete = true
  relatedDomains : ∀ o, observation.relatedDomains = some o → o.complete = true
  bgpRoutes : ∀ o ∈ observation.bgpRoutes, o.complete = true

structure Unhidden (report : ScanReport) : Prop where
  ended : report.status ≠ .notStarted
  conclusive : report.status = .completed → report.conclusive = true
  intelligence : report.status = .completed →
    ∀ i, report.intelligence = some i → i.AllComplete

theorem unhidden_of_exited {report : ScanReport} (h : Exited report) : Unhidden report :=
  ⟨h.ended, h.conclusive, fun _ i hi => by rw [h.noIntelligence] at hi; cases hi⟩

/-- A report that does not read completed hides nothing. -/
theorem unhidden_of_ne {report : ScanReport} (hc : report.status ≠ .completed)
    (hn : report.status ≠ .notStarted) : Unhidden report :=
  ⟨hn, fun h => absurd h hc, fun h => absurd h hc⟩

/-- Steps that leave status, errors, DNS and intelligence alone. -/
theorem unhidden_congr {report report' : ScanReport} (h : Unhidden report)
    (hs : report'.status = report.status) (hc : report'.conclusive = report.conclusive)
    (hi : report'.intelligence = report.intelligence) : Unhidden report' :=
  ⟨hs ▸ h.ended, fun hd => hc ▸ h.conclusive (hs ▸ hd),
    fun hd i hsome => h.intelligence (hs ▸ hd) i (hi ▸ hsome)⟩

theorem unhidden_downgrade {report : ScanReport} (h : report.status ≠ .notStarted) :
    Unhidden report.downgrade := by
  have hs := report.downgrade_status
  by_cases hc : report.status = .completed
  · rw [if_pos hc] at hs
    exact unhidden_of_ne (by rw [hs]; decide) (by rw [hs]; decide)
  · rw [if_neg hc] at hs
    exact unhidden_of_ne (by rw [hs]; exact hc) (by rw [hs]; exact h)

theorem allComplete_intelligenceOrNew {report : ScanReport} (h : Unhidden report)
    (hc : report.status = .completed) : report.intelligenceOrNew.AllComplete := by
  unfold ScanReport.intelligenceOrNew
  cases hi : report.intelligence with
  | none => refine ⟨rfl, ?_, ?_, ?_⟩ <;> simp
  | some i => exact h.intelligence hc i hi

/-! ## Supplied intelligence -/

theorem unhidden_storeSupplied {report : ScanReport} (h : Unhidden report)
    {observation : IntelligenceObservation} (ho : observation.SuppliedOnly) :
    Unhidden (storeSupplied report observation) := by
  unfold storeSupplied
  split
  · rename_i hcomplete
    refine ⟨h.ended, h.conclusive, fun _ i hi => ?_⟩
    rw [← Option.some.inj hi]
    refine ⟨hcomplete, fun o hct => ?_, fun o hrel => ?_, fun o hbgp => ?_⟩
    · rw [ho.certificateTransparency] at hct
      cases hct
    · rw [ho.relatedDomains] at hrel
      cases hrel
    · rw [ho.bgpRoutes] at hbgp
      cases hbgp
  · have hd := unhidden_downgrade h.ended
    have hne : report.downgrade.status ≠ .completed := by
      rw [report.downgrade_status]
      split
      · decide
      · assumption
    exact unhidden_of_ne hne hd.ended

theorem unhidden_stopped {report : ScanReport} (cancelled : Bool)
    (checks : List ScanReport.StoppedCheck) :
    Unhidden (report.markIntelligenceStopped cancelled checks) := by
  have hs := report.markIntelligenceStopped_status cancelled checks
  refine unhidden_of_ne ?_ ?_ <;>
  · rw [hs]
    split
    · decide
    · split
      · decide
      · rename_i hi
        rw [not_not.mp hi]
        decide

theorem explicitIntelligence_suppliedOnly {env : CliEnv} {arguments : ScanArgs}
    {report : ScanReport} {observation : IntelligenceObservation}
    (h : explicitIntelligence env arguments report = some (.ok observation)) :
    observation.SuppliedOnly := by
  unfold explicitIntelligence at h
  split at h
  · cases h
  · cases h
  · rw [Option.some.injEq] at h
    split at h
    · cases h
    · exact analyzeIntelligence_sources h

theorem unhidden_collectSupplied {env : CliEnv} {arguments : ScanArgs} {report result : ScanReport}
    (h : Unhidden report) (hr : collectSupplied env arguments report = .ok result) :
    Unhidden result := by
  unfold collectSupplied at hr
  split at hr
  · split at hr
    · rename_i observation hobs
      cases hr
      exact unhidden_storeSupplied h (explicitIntelligence_suppliedOnly hobs)
    · cases hr
    · cases hr
      exact unhidden_stopped _ _
  · cases hr
    exact h

/-! ## Looked-up intelligence -/

/-- A lookup keeps the invariant when its observations are complete unless it failed. -/
theorem unhidden_finishLookup {α : Type} {report : ScanReport} (h : Unhidden report)
    (check incomplete : String)
    {store : IntelligenceObservation → List α → IntelligenceObservation} (address : α → IpAddr)
    {observations : List α} {failures : OrdSet String} (stop : Option LookupStop)
    (hstore : failures.isEmpty = true → report.intelligenceOrNew.AllComplete →
      (store report.intelligenceOrNew (sortBy address observations)).AllComplete) :
    Unhidden (report.finishLookup check incomplete store address observations failures stop) := by
  have hs := report.finishLookup_status check incomplete store address observations failures stop
  by_cases hc : ScanReport.lookupStatus report.status failures stop = .completed
  · obtain ⟨hdone, hclear, rfl⟩ := ScanReport.lookupStatus_completed hc
    rw [report.finishLookup_clear check incomplete store address observations hclear]
    split
    · exact h
    · refine ⟨h.ended, h.conclusive, fun _ i hi => ?_⟩
      rw [← Option.some.inj hi]
      exact hstore hclear (allComplete_intelligenceOrNew h hdone)
  · refine unhidden_of_ne (by rw [hs]; exact hc) ?_
    rw [hs]
    exact ScanReport.lookupStatus_started h.ended

theorem unhidden_sourceSkip {report : ScanReport} (h : Unhidden report) (check reason : String) :
    Unhidden (report.recordSourceSkip check reason) := unhidden_congr h rfl rfl rfl

theorem unhidden_networkRegistrations (env : RdapEnv) {report : ScanReport} (h : Unhidden report) :
    Unhidden (analyzeNetworkRegistrations env report) := by
  unfold analyzeNetworkRegistrations
  simp only
  split
  · exact unhidden_sourceSkip h _ _
  · exact unhidden_finishLookup h _ _ _ _ (fun _ ha => ⟨ha.1, ha.2, ha.3, ha.4⟩)

theorem unhidden_finishBgpRoutes {report : ScanReport} (h : Unhidden report)
    {observations : List BgpRouteObservation} {failures : OrdSet String} (stop : Option BgpStop)
    (hcomplete : failures.isEmpty = true → ∀ o ∈ observations, o.complete = true) :
    Unhidden (report.finishBgpRoutes observations failures stop) := by
  refine unhidden_finishLookup h _ _ _ _ (fun hf ha => ⟨ha.1, ha.2, ha.3, fun o ho => ?_⟩)
  rcases List.mem_append.mp (mem_sortBy.mp (mem_of_mem_dedupBy ho)) with ho | ho
  · exact ha.4 o ho
  · exact hcomplete hf o (mem_sortBy.mp ho)

theorem unhidden_bgpRoutes (env : BgpEnv) {report : ScanReport} (h : Unhidden report) :
    Unhidden (analyzeBgpRoutes env report) := by
  have hnone : ∀ (failures : OrdSet String), failures.isEmpty = true →
      ∀ o ∈ ([] : List BgpRouteObservation), o.complete = true :=
    fun _ _ o ho => absurd ho List.not_mem_nil
  unfold analyzeBgpRoutes
  simp only
  split
  · exact unhidden_sourceSkip h _ _
  · split
    · exact unhidden_finishBgpRoutes h none (hnone _)
    · split
      · refine unhidden_finishBgpRoutes h _ (coherent_collectBgp env.responses ?_)
        exact hnone _
      · exact unhidden_finishBgpRoutes h _ (hnone _)
      · exact unhidden_finishBgpRoutes h _ (hnone _)
      · exact unhidden_finishBgpRoutes h none (hnone _)

/-! ## Passive sources -/

theorem unhidden_storePassive {α : Type} {report : ScanReport} (h : Unhidden report)
    (check : String) {complete : α → Bool}
    {store : IntelligenceObservation → α → IntelligenceObservation} (result : Except String α)
    (hstore : ∀ i o, complete o = true → i.AllComplete → (store i o).AllComplete) :
    Unhidden (storePassive report check complete store result) := by
  cases result with
  | error reason =>
    have hs := report.markIntelligenceSourceError_status check reason
    refine unhidden_of_ne ?_ ?_ <;>
    · simp only [storePassive, hs]
      split
      · decide
      · first
        | assumption
        | exact h.ended
  | ok observation =>
    simp only [storePassive]
    split
    · rename_i hcomplete
      refine ⟨h.ended, h.conclusive, fun hdone i hi => ?_⟩
      have hold := allComplete_intelligenceOrNew h hdone
      rw [← Option.some.inj hi]
      exact hstore _ _ hcomplete ⟨by simp [hold.1, hcomplete], hold.2, hold.3, hold.4⟩
    · exact unhidden_downgrade h.ended

theorem unhidden_collectPassive (env : CliEnv) (arguments : ScanArgs) {report : ScanReport}
    (h : Unhidden report) : Unhidden (collectPassive env arguments report) := by
  have hct : ∀ result, Unhidden (storeCertificateTransparency report result) := fun result =>
    unhidden_storePassive h _ result (fun i o ho hi => ⟨hi.1, fun o' heq => by
      rw [← Option.some.inj heq]; exact ho, hi.3, hi.4⟩)
  have hrelated : ∀ {r : ScanReport}, Unhidden r → ∀ result,
      Unhidden (storeRelatedDomains r result) := fun hr result =>
    unhidden_storePassive hr _ result (fun i o ho hi => ⟨hi.1, hi.2, fun o' heq => by
      rw [← Option.some.inj heq]; exact ho, hi.4⟩)
  unfold collectPassive
  have hfound : Unhidden (if ctApplicable arguments report then
      storeCertificateTransparency report env.certificateTransparency else report) := by
    split
    · exact hct _
    · exact h
  simp only
  split
  · exact hrelated hfound _
  · exact hfound

/-! ## Finalization -/

theorem unhidden_checkpoint {report : ScanReport} (reading : Reading) (stage : ScanStage)
    (selection : ScanSelection) (interrupted expired : String)
    {otherwise : ScanReport → ScanReport} (ho : Unhidden (otherwise report)) :
    Unhidden (report.checkpoint reading stage selection interrupted expired otherwise) := by
  cases hs : reading.stops with
  | false =>
    rw [ScanReport.checkpoint_clear hs]
    exact ho
  | true =>
    obtain ⟨kind, message, heq⟩ := ScanReport.checkpoint_stops hs
    rw [heq]
    exact unhidden_of_ne (ScanReport.terminate_status ..).1 (ScanReport.terminate_status ..).2

/-- Settling again completes only a report that already was. -/
theorem unhidden_settle {report : ScanReport} (h : Unhidden report) : Unhidden report.settle := by
  refine ⟨report.settle_started, fun hc => ?_, fun hc i hi => ?_⟩
  · rw [settle_conclusive]
    exact (report.settle_status.mp hc).2
  · obtain ⟨hopen, _⟩ := report.settle_status.mp hc
    obtain ⟨status, message, hframe⟩ := report.settle_frame
    rw [hframe] at hi
    exact h.intelligence (hopen.resolve_left h.ended) i hi

theorem unhidden_finalize (generateFindings : FindingGenerator) (clock : FinalizeClock) {run : Run}
    (h : Unhidden run.report) : Unhidden (finalize generateFindings clock run).report := by
  by_cases hopen : run.report.completedAt = none
  · by_cases hpre : ∀ error ∈ run.report.errors, error.stage ≠ .preflight
    · rw [finalize_report generateFindings clock hopen hpre]
      have hbefore : Unhidden (beforeFindings clock run.report) :=
        unhidden_checkpoint _ _ _ _ _ (unhidden_settle h)
      have hscored : Unhidden ((beforeFindings clock run.report).withFindings generateFindings
          clock.findingsTime).withExposure := unhidden_congr hbefore rfl rfl rfl
      have hafter : Unhidden (afterFindings clock ((beforeFindings clock run.report).withFindings
          generateFindings clock.findingsTime).withExposure) :=
        unhidden_checkpoint _ _ _ _ _ hscored
      exact unhidden_congr hafter rfl rfl rfl
    · have hany :
          run.report.errors.any (fun error => decide (error.stage = .preflight)) = true := by
        simpa using hpre
      have hkeep : (finalize generateFindings clock run).report =
          run.report.complete clock.completionTime := by
        simp only [finalize, hopen, Option.isSome_none, Bool.false_eq_true, if_false, hany, if_true]
        rfl
      rw [hkeep]
      exact unhidden_congr h rfl rfl rfl
  · have hkeep : finalize generateFindings clock run = run :=
      if_pos (Option.isSome_iff_ne_none.mpr hopen)
    rw [hkeep]
    exact h

/-! ## The scan command -/

/-- The report after the last source. -/
theorem unhidden_sources {env : CliEnv} {arguments : ScanArgs} {target : NormalizedTarget}
    {configuration : ScanConfiguration} {supplied : ScanReport}
    (h : collectSupplied env arguments
      (runScanInner env.core target configuration arguments.selection).report = .ok supplied) :
    Unhidden (collectPassive env arguments (collectLookups env arguments supplied)) := by
  have hsupplied := unhidden_collectSupplied (unhidden_of_exited
    (runScanInner_spec env.core target configuration arguments.selection).1) h
  refine unhidden_collectPassive env arguments ?_
  unfold collectLookups
  split
  · exact unhidden_bgpRoutes env.bgp (unhidden_networkRegistrations env.rdap hsupplied)
  · exact hsupplied

theorem unhidden_runScanCommand {env : CliEnv} {arguments : ScanArgs}
    {generateFindings : FindingGenerator} {target : NormalizedTarget}
    {configuration : ScanConfiguration} {report : ScanReport}
    (hr : runScanCommand env arguments generateFindings target configuration = .ok report) :
    Unhidden report := by
  unfold runScanCommand at hr
  split at hr
  · cases hr
  · split at hr
    · cases hr
    · split at hr
      · cases hr
      · rename_i supplied hsupplied
        cases hr
        have hinterrupt : Unhidden ((collectPassive env arguments
            (collectLookups env arguments supplied)).interrupt env.cancelled) := by
          unfold ScanReport.interrupt
          split
          · exact unhidden_of_ne (by simp) (by simp)
          · exact unhidden_sources hsupplied
        apply unhidden_finalize
        exact unhidden_congr (unhidden_congr hinterrupt rfl rfl rfl) rfl rfl rfl

/-- No DNSSEC, wildcard or dangling-CNAME observation of the section is indeterminate. -/
structure DnsObservation.Determinate (dns : DnsObservation) : Prop where
  dnssec : ∀ o, dns.dnssec = some o → o.status ≠ .indeterminate
  wildcardDns : ∀ o, dns.wildcardDns = some o → o.status ≠ .indeterminate
  danglingCnames : ∀ o ∈ dns.danglingCnames, o.status ≠ .indeterminate

theorem conclusive_iff (report : ScanReport) :
    report.conclusive = true ↔
      report.errors = [] ∧ ∀ dns, report.dns = some dns → dns.Determinate := by
  unfold ScanReport.conclusive ScanReport.dnssecIndeterminate ScanReport.wildcardIndeterminate
    ScanReport.danglingIndeterminate
  cases report.dns with
  | none => simp
  | some dns =>
    simp only [Option.bind_some, Bool.and_eq_true, Bool.not_eq_true', List.isEmpty_iff,
      Option.some.injEq, forall_eq', and_assoc]
    refine and_congr_right fun _ => ?_
    constructor
    · rintro ⟨hdnssec, hwildcard, hdangling⟩
      refine ⟨fun o ho => ?_, fun o ho => ?_, ?_⟩
      · simpa [ho] using hdnssec
      · simpa [ho] using hwildcard
      · simpa using hdangling
    · intro h
      refine ⟨?_, ?_, ?_⟩
      · cases ho : dns.dnssec with
        | none => rfl
        | some o => simpa using h.dnssec o ho
      · cases ho : dns.wildcardDns with
        | none => rfl
        | some o => simpa using h.wildcardDns o ho
      · simpa using h.danglingCnames

/-- What a completed report of the scan command promises: no errors, no indeterminate DNS check,
and intelligence that is complete as a whole and in each of its sources. -/
theorem runScanCommand_completed (env : CliEnv) (arguments : ScanArgs)
    (generateFindings : FindingGenerator) (target : NormalizedTarget)
    (configuration : ScanConfiguration) (report : ScanReport)
    (hr : runScanCommand env arguments generateFindings target configuration = .ok report)
    (hc : report.status = .completed) :
    report.errors = [] ∧ (∀ dns, report.dns = some dns → dns.Determinate) ∧
      (report.intelligence = none ∨ ∃ i, report.intelligence = some i ∧ i.AllComplete) := by
  have h := unhidden_runScanCommand hr
  obtain ⟨herrors, hdns⟩ := (conclusive_iff report).mp (h.conclusive hc)
  refine ⟨herrors, hdns, ?_⟩
  cases hi : report.intelligence with
  | none => exact Or.inl rfl
  | some i => exact Or.inr ⟨i, rfl, h.intelligence hc i hi⟩

/-- A host with one address, scanned undisturbed. -/
def resolvedEnv : CoreEnv :=
  { addresslessEnv with
    baseline := .ready (.ok
      { observation :=
          { queriedName := "example.com"
            records := [.a 0xc0000201]
            cnameChain := []
            danglingCnames := []
            resolvedHosts := [⟨some "example.com", .v4 0xc0000201, .aRecord⟩]
            mail := ⟨false, ⟨[], none⟩, [], [], none, []⟩
            dnssec := none
            authoritativeAxfr := none
            wildcardDns := none
            errors := [] }
        authority := none })
    dnssec := .ready { status := .secure } }

/-- Only DNS and intelligence are selected, and the certificate source answers in full. -/
def intelligenceEnv : CliEnv where
  core := resolvedEnv
  normalizeTarget := fun _ => none
  parseDkim := fun selector records => ⟨selector, records.length, none, none, none, false, false⟩
  supplied := .ready ()
  suppliedCancelled := false
  bundle := .error "no bundle"
  beforeSubdomain := fun _ => ⟨false, false⟩
  subdomain := fun _ => .timedOut
  beforeSelector := fun _ => ⟨false, false⟩
  selector := fun _ => .timedOut
  rdap := ⟨[], .empty, none⟩
  bgp := ⟨fun _ => .ok (), .ok (), []⟩
  reverseNsKey := false
  certificateTransparency := .ok ⟨"certspotter", [], 0, 1, true, []⟩
  relatedDomains := .error "not configured"
  cancelled := false
  clock := ⟨⟨false, false⟩, ⟨10⟩, ⟨false, false⟩, ⟨11⟩⟩

theorem runScanCommand_completed_intelligence :
    ∃ report, runScanCommand intelligenceEnv ⟨[.dns, .intelligence], [], [], none⟩
        (fun _ _ _ _ _ _ _ => []) fixtureTarget fixtureConfiguration = .ok report ∧
      report.status = .completed ∧ report.errors = [] ∧
      (∀ dns, report.dns = some dns → dns.Determinate) ∧
      (report.intelligence = none ∨ ∃ i, report.intelligence = some i ∧ i.AllComplete) := by
  refine ⟨_, rfl, by decide, ?_⟩
  exact runScanCommand_completed intelligenceEnv ⟨[.dns, .intelligence], [], [], none⟩
    (fun _ _ _ _ _ _ _ => []) fixtureTarget fixtureConfiguration _ rfl (by decide)

end Surface

import Surface.DnsPhase

/-!
# Surface.Accounting

Every active check either starts or is listed as skipped, with one exception.

* `CoreEnv.forgets`: the DNS stages complete, they bring no address, the token is not cancelled,
  and active stages were selected.
* `runScanInner_spec`: the core stages leave a well-formed report, and account for every active
  check unless they forget.
* `runScanSelected_accounted_iff`: finalization neither adds nor repairs anything here.
-/

namespace Surface

/-- The exit for a scan without addresses, taken with active stages selected. -/
def CoreEnv.forgets (env : CoreEnv) (target : NormalizedTarget)
    (configuration : ScanConfiguration) (selection : ScanSelection) : Prop :=
  env.dnsCompletes target configuration ∧ env.resolvedHosts = [] ∧ env.finishCancelled = false ∧
    selection.ports = true

section Core

variable (env : CoreEnv) {target : NormalizedTarget} {configuration : ScanConfiguration}
  {selection : ScanSelection} {run : Run}

/-- Without addresses the active checks get entries only from a cancellation. -/
theorem noAddresses_accounted_iff (h : DnsPhase target selection env.observation run) :
    (((run.update ({ · with
        status := .partialScan
        message := "DNS analysis completed, but no primary-host IP addresses were available."
      })).update (·.finishSelectedReport env.finishCancelled selection (some .ports))).accounted
        selection) ↔ ¬ (env.finishCancelled = false ∧ selection.ports = true) := by
  have hbelow : ∀ c ∈ activeChecks selection, stageRank c.stage < stageRank .ports ∨
      c.selected = false → run.accounts c := h.reached.accounted
  cases hcancelled : env.finishCancelled with
  | true =>
    simp only [Bool.true_eq_false, false_and, not_false_eq_true, iff_true]
    exact accounted_terminate (fun hg => by cases hg.1) (fun hg => by cases hg.1) le_rfl hbelow
  | false =>
    simp only [true_and]
    constructor
    · intro hacc hports
      have hmem : (⟨"ports", .ports, selection.ports⟩ : PlannedCheck) ∈ activeChecks selection :=
        List.mem_cons_self
      exact h.silent _ hmem hports (hacc _ hmem)
    · intro hports c hc
      exact hbelow c hc (Or.inr (unselected_of_not_ports (by simpa using hports) hc))

theorem coreStages_spec (h : DnsPhase target selection none run)
    (hconfig : run.report.incompatibleAddressFamily = target.conflicts configuration) :
    Exited ((coreStages env selection).final run).report ∧
      (((coreStages env selection).final run).accounted selection ↔
        ¬ env.forgets target configuration selection) := by
  let R : Run → Prop := fun run' =>
    Exited run'.report ∧ (run'.accounted selection ↔ ¬ env.forgets target configuration selection)
  refine (Flow.final_iff (R := R)).mpr ?_
  unfold coreStages
  refine Flow.holds_seq_of_stop (dnsStages_spec env h hconfig) ?_ ?_
  · rintro run' ⟨hdone, hstopped⟩
    exact ⟨hdone.exited, iff_of_true hdone.accounted (fun hf => hstopped hf.1)⟩
  · rintro _ run' ⟨hphase, hcompletes⟩
    have hempty : run'.report.scanAddresses = [] ↔ env.resolvedHosts = [] := by
      rw [← List.isEmpty_iff, hphase.scanAddresses_isEmpty, List.isEmpty_iff]
      rfl
    simp only [Flow.holds_bind, Flow.holds_read, Flow.holds_ite, List.isEmpty_iff, hempty]
    split
    · rename_i hnone
      refine ⟨exited_finish ?_ ?_ _ _ _, ?_⟩
      · exact hphase.reached.noIntelligence
      · exact hphase.reached.notCompleted
      refine (noAddresses_accounted_iff env hphase).trans (not_congr ?_)
      exact ⟨fun hf => ⟨hcompletes, hnone, hf⟩, fun hf => hf.2.2⟩
    · rename_i hsome
      refine Flow.holds_mono (activeStages_spec env hphase.reached) (fun _ run' hdone => ?_)
        (fun run' hdone => ?_) <;>
      exact ⟨hdone.exited, iff_of_true hdone.accounted (fun hf => hsome hf.2.1)⟩

end Core

section Runs

variable (env : CoreEnv) (generateFindings : FindingGenerator) (clock : FinalizeClock)
  (target : NormalizedTarget) (configuration : ScanConfiguration) (selection : ScanSelection)

/-- What the core stages leave behind, for every target, configuration and selection. -/
theorem runScanInner_spec :
    Exited (runScanInner env target configuration selection).report ∧
      ((runScanInner env target configuration selection).accounted selection ↔
        ¬ env.forgets target configuration selection) := by
  refine coreStages_spec env (dnsPhase_newReport env target configuration selection) ?_
  obtain ⟨skips, hframe⟩ := ScanReport.recordSkips_frame
    (ScanReport.notStarted env.scannerVersion env.scanId env.startedAt target
      { configuration with authorizationAcknowledged := true })
    (activeChecks selection) (fun c => !c.selected) "excluded by --only"
  have hnew : env.newReport target configuration selection = _ := hframe
  rw [hnew]
  rfl

end Runs

/-! ## Finalization -/

theorem checkpoint_hasSkip (report : ScanReport) (reading : Reading) (selection : ScanSelection)
    (interrupted expired check : String) {otherwise : ScanReport → ScanReport}
    (ho : (otherwise report).hasSkip check ↔ report.hasSkip check) :
    (report.checkpoint reading .findings selection interrupted expired otherwise).hasSkip check ↔
      report.hasSkip check := by
  unfold ScanReport.checkpoint
  split
  · exact ScanReport.terminate_findings_hasSkip ..
  · split
    · exact ScanReport.terminate_findings_hasSkip ..
    · exact ho

theorem settle_hasSkip (report : ScanReport) (check : String) :
    report.settle.hasSkip check ↔ report.hasSkip check := by
  obtain ⟨status, message, h⟩ := report.settle_frame
  rw [h]
  exact Iff.rfl

/-- Finalization announces only its own stage and adds no entry for an active check. -/
theorem finalize_accounts (generateFindings : FindingGenerator) (clock : FinalizeClock) (run : Run)
    {selection : ScanSelection} {c : PlannedCheck} (hc : c ∈ activeChecks selection) :
    (finalize generateFindings clock run).accounts c ↔ run.accounts c := by
  have hstage : (.started c.stage : ScanProgress) ≠ .started .findings := by
    simp only [activeChecks, List.mem_cons, List.not_mem_nil, or_false] at hc
    rcases hc with rfl | rfl | rfl | rfl <;> simp
  have hevent : ∀ n, (.started c.stage : ScanProgress) ≠ .completed .findings n := by simp
  unfold finalize Run.accounts
  split
  · exact Iff.rfl
  · split
    · exact Iff.rfl
    · refine or_congr ?_ ?_
      · simp only [Run.update, Run.emit, List.mem_append, List.mem_singleton, hstage, hevent,
          or_false]
      · refine (checkpoint_hasSkip _ _ _ _ _ _ Iff.rfl).trans ?_
        exact checkpoint_hasSkip _ _ _ _ _ _ (settle_hasSkip _ _)

/-- Every active check starts or is listed as skipped, unless the scan found no address, was not
cancelled, and had selected active stages. -/
theorem runScanSelected_accounted_iff (env : CoreEnv) (generateFindings : FindingGenerator)
    (clock : FinalizeClock) (target : NormalizedTarget) (configuration : ScanConfiguration)
    (selection : ScanSelection) :
    (runScanSelected env generateFindings clock target configuration selection).accounted
        selection ↔
      ¬ env.forgets target configuration selection := by
  rw [← (runScanInner_spec env target configuration selection).2]
  exact forall_congr' fun c => forall_congr' fun hc =>
    finalize_accounts generateFindings clock _ hc

/-- A host that exists without any address, scanned undisturbed. -/
def addresslessEnv : CoreEnv where
  scannerVersion := "0.3.0"
  scanId := "00000000-0000-4000-8000-000000000000"
  startedAt := .unixEpoch
  dnsExpired := false
  baseline := .ready (.ok
    { observation :=
        { queriedName := "example.com"
          records := []
          cnameChain := []
          danglingCnames := []
          resolvedHosts := []
          mail := ⟨false, ⟨[], none⟩, [], [], none, []⟩
          dnssec := none
          authoritativeAxfr := none
          wildcardDns := none
          errors := [] }
      authority := none })
  dnssec := .ready { status := .notApplicable }
  axfr := ⟨none, .completed⟩
  wildcard := ⟨{ status := .notDetected }, .completed⟩
  dangling := ⟨[], .completed⟩
  portsExpired := false
  tcpHosts := []
  udpHosts := []
  afterPorts := ⟨false, false⟩
  servicesExpired := false
  services := []
  afterServices := ⟨false, false⟩
  ssh := .completed
  sshServices := []
  httpExpired := false
  http := []
  afterHttp := ⟨false, false⟩
  tlsExpired := false
  tls := []
  afterTls := ⟨false, false⟩
  finishCancelled := false

/-- Neither of the four active checks starts, and none of them is listed. -/
theorem addressless_unaccounted :
    ¬ (runScanSelected addresslessEnv (fun _ _ _ _ _ _ _ => [])
      ⟨⟨false, false⟩, ⟨10⟩, ⟨false, false⟩, ⟨11⟩⟩ fixtureTarget fixtureConfiguration
        .all).accounted .all := by
  decide

end Surface

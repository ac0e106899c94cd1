import Surface.Engine

/-!
# Surface.Stages

What holds of a run that reached a stage, and of a report that left the core stages.

* `Run.accounts`: the stage of a check was announced, or the check has an entry.
* `Reached selection k`: nothing ended the run yet, and the checks below rank `k` as well as those
  that were not selected are accounted for.
* `Exited`: the report that leaves the core stages has a status, reads completed only when it is
  conclusive, and holds no intelligence yet.
* `activeStages_spec`: from the ports on, every exit has all of its checks accounted for.
-/

namespace Surface

/-- The check started, or the report says that it was skipped. -/
def Run.accounts (run : Run) (c : PlannedCheck) : Prop :=
  .started c.stage ∈ run.progress ∨ run.report.hasSkip c.check

instance (run : Run) (c : PlannedCheck) : Decidable (run.accounts c) :=
  inferInstanceAs (Decidable (_ ∨ _))

def Run.accounted (run : Run) (selection : ScanSelection) : Prop :=
  ∀ c ∈ activeChecks selection, run.accounts c

instance (run : Run) (selection : ScanSelection) : Decidable (run.accounted selection) :=
  inferInstanceAs (Decidable (∀ c ∈ _, _))

/-- An update within a stage: it leaves the lifecycle of the report alone. -/
structure Quiet (f : ScanReport → ScanReport) : Prop where
  status : ∀ r, (f r).status = r.status
  intelligence : ∀ r, (f r).intelligence = r.intelligence
  completedAt : ∀ r, (f r).completedAt = r.completedAt
  target : ∀ r, (f r).target = r.target
  skips : ∀ r check, r.hasSkip check → (f r).hasSkip check

theorem quiet_addSkippedCheck (check reason : String) : Quiet (·.addSkippedCheck check reason) := by
  refine ⟨?_, ?_, ?_, ?_, fun r other h => (r.addSkippedCheck_hasSkip check reason other).mpr
    (Or.inl h)⟩ <;>
  · intro r
    obtain ⟨skips, h⟩ := r.addSkippedCheck_frame check reason
    simp only [h]

theorem quiet_addErrors (errors : ScanReport → List ScanError) :
    Quiet (fun r => r.addErrors (errors r)) :=
  ⟨fun _ => rfl, fun _ => rfl, fun _ => rfl, fun _ => rfl, fun _ _ h => h⟩

theorem quiet_modifyDns (f : DnsObservation → DnsObservation) : Quiet (·.modifyDns f) :=
  ⟨fun _ => rfl, fun _ => rfl, fun _ => rfl, fun _ => rfl, fun _ _ h => h⟩

theorem quiet_comp {f g : ScanReport → ScanReport} (hf : Quiet f) (hg : Quiet g) :
    Quiet (fun r => g (f r)) :=
  ⟨fun r => (hg.status _).trans (hf.status r),
    fun r => (hg.intelligence _).trans (hf.intelligence r),
    fun r => (hg.completedAt _).trans (hf.completedAt r),
    fun r => (hg.target _).trans (hf.target r),
    fun r check h => hg.skips _ check (hf.skips r check h)⟩

theorem quiet_truncateEndpoints : Quiet truncateEndpoints := by
  refine ⟨?_, ?_, ?_, ?_, ?_⟩ <;>
  · intro r
    unfold truncateEndpoints
    split <;> simp [ScanReport.addErrors, ScanReport.hasSkip]

/-! ## Reports that left the core stages -/

structure Exited (report : ScanReport) : Prop where
  ended : report.status ≠ .notStarted
  conclusive : report.status = .completed → report.conclusive = true
  noIntelligence : report.intelligence = none
  notCompleted : report.completedAt = none

theorem exited_terminate {report : ScanReport} (hi : report.intelligence = none)
    (hc : report.completedAt = none) (stage : ScanStage) (selection : ScanSelection)
    (kind : ScanErrorKind) (message : String) :
    Exited (report.terminate stage selection kind message) := by
  obtain ⟨hdone, hopen⟩ := report.terminate_status stage selection kind message
  refine ⟨hopen, fun h => absurd h hdone, ?_, ?_⟩ <;>
  · rcases report.terminate_cases stage selection kind message with ⟨_, h⟩ | ⟨_, _, _, _, h⟩ <;>
      rw [h] <;> assumption

theorem settle_conclusive (report : ScanReport) : report.settle.conclusive = report.conclusive := by
  obtain ⟨status, message, h⟩ := report.settle_frame
  rw [h]
  rfl

theorem exited_settle {report : ScanReport} (hi : report.intelligence = none)
    (hc : report.completedAt = none) : Exited report.settle := by
  refine ⟨report.settle_started, fun h => ?_, ?_, ?_⟩
  · rw [settle_conclusive]
    exact (report.settle_status.mp h).2
  · obtain ⟨status, message, h⟩ := report.settle_frame
    rw [h]
    exact hi
  · obtain ⟨status, message, h⟩ := report.settle_frame
    rw [h]
    exact hc

theorem exited_finish {report : ScanReport} (hi : report.intelligence = none)
    (hc : report.completedAt = none) (cancelled : Bool) (selection : ScanSelection)
    (unfinishedStage : Option ScanStage) :
    Exited (report.finishSelectedReport cancelled selection unfinishedStage) := by
  unfold ScanReport.finishSelectedReport
  split
  · exact exited_terminate hi hc _ _ _ _
  · exact exited_settle hi hc

/-! ## Runs that reached a stage -/

/-- The run left the core stages with every active check accounted for. -/
structure Done (selection : ScanSelection) (run : Run) : Prop where
  exited : Exited run.report
  accounted : run.accounted selection

structure Reached (selection : ScanSelection) (k : Nat) (run : Run) : Prop where
  underway : run.report.status = .notStarted
  noIntelligence : run.report.intelligence = none
  notCompleted : run.report.completedAt = none
  accounted : ∀ c ∈ activeChecks selection, stageRank c.stage < k ∨ c.selected = false →
    run.accounts c

theorem accounts_update {run : Run} {f : ScanReport → ScanReport} {c : PlannedCheck}
    (hf : ∀ check, run.report.hasSkip check → (f run.report).hasSkip check)
    (h : run.accounts c) : (run.update f).accounts c :=
  h.imp id (hf c.check)

theorem accounts_emit {run : Run} {event : ScanProgress} {c : PlannedCheck} (h : run.accounts c) :
    (run.emit event).accounts c :=
  h.imp (List.mem_append_left _) id

/-- A termination accounts for the selected checks from its stage on. -/
theorem accounted_terminate {selection : ScanSelection} {k : Nat} {run : Run} {stage : ScanStage}
    {kind : ScanErrorKind} {message : String}
    (h₁ : ¬ (run.report.status = .interrupted ∧ kind = .cancelled))
    (h₂ : ¬ (run.report.status = .failed ∧ kind = .timeout)) (hstage : stageRank stage ≤ k)
    (hbelow : ∀ c ∈ activeChecks selection, stageRank c.stage < k ∨ c.selected = false →
      run.accounts c) :
    (run.update (·.terminate stage selection kind message)).accounted selection := by
  intro c hc
  have hskip := fun other =>
    run.report.terminate_hasSkip stage selection kind message other h₁ h₂
  by_cases hk : stageRank c.stage < k ∨ c.selected = false
  · exact accounts_update (fun check hcheck => (hskip check).mpr (Or.inl hcheck)) (hbelow c hc hk)
  · obtain ⟨hk₁, hk₂⟩ := not_or.mp hk
    refine Or.inr ((hskip c.check).mpr
      (Or.inr ⟨c, List.mem_append_right _ hc, ⟨Bool.not_eq_false _ ▸ hk₂, ?_⟩, rfl⟩))
    omega

namespace Reached

variable {selection : ScanSelection} {k : Nat} {run : Run}

theorem update (h : Reached selection k run) {f : ScanReport → ScanReport} (hf : Quiet f) :
    Reached selection k (run.update f) :=
  ⟨(hf.status _).trans h.underway, (hf.intelligence _).trans h.noIntelligence,
    (hf.completedAt _).trans h.notCompleted,
    fun c hc hlt => accounts_update (hf.skips _) (h.accounted c hc hlt)⟩

theorem emit (h : Reached selection k run) (event : ScanProgress) :
    Reached selection k (run.emit event) :=
  ⟨h.underway, h.noIntelligence, h.notCompleted,
    fun c hc hlt => accounts_emit (h.accounted c hc hlt)⟩

/-- Announcing the stage of rank `k`, or an entry for it, accounts for it. -/
theorem advance (h : Reached selection k run)
    (hk : ∀ c ∈ activeChecks selection, stageRank c.stage = k → run.accounts c) :
    Reached selection (k + 1) run := by
  refine ⟨h.underway, h.noIntelligence, h.notCompleted, fun c hc hlt => ?_⟩
  by_cases hrank : stageRank c.stage = k
  · exact hk c hc hrank
  · exact h.accounted c hc (hlt.imp_left (fun hlt => by omega))

theorem start {stage : ScanStage} (h : Reached selection (stageRank stage) run) :
    Reached selection (stageRank stage + 1) (run.emit (.started stage)) := by
  refine (h.emit _).advance (fun c _ hk => Or.inl ?_)
  rw [stageRank_injective hk]
  exact List.mem_append_right _ (List.mem_singleton.mpr rfl)

/-- A stage that was not selected needs no announcement. -/
theorem pass (h : Reached selection k run)
    (hoff : ∀ c ∈ activeChecks selection, stageRank c.stage = k → c.selected = false) :
    Reached selection (k + 1) run :=
  h.advance (fun c hc hk => h.accounted c hc (Or.inr (hoff c hc hk)))

theorem halt (h : Reached selection k run) {stage : ScanStage} (hstage : stageRank stage ≤ k)
    (kind : ScanErrorKind) (message : String) :
    Done selection (run.update (·.terminate stage selection kind message)) := by
  refine ⟨exited_terminate h.noIntelligence h.notCompleted _ _ _ _, ?_⟩
  refine accounted_terminate (fun hg => ?_) (fun hg => ?_) hstage h.accounted
  · rw [h.underway] at hg
    cases hg.1
  · rw [h.underway] at hg
    cases hg.1

/-- Nothing selected is left: the report can be returned as it is. -/
theorem finish (h : Reached selection k run)
    (hoff : ∀ c ∈ activeChecks selection, k ≤ stageRank c.stage → c.selected = false)
    (cancelled : Bool) :
    Done selection (run.update (·.finishSelectedReport cancelled selection none)) := by
  refine ⟨exited_finish h.noIntelligence h.notCompleted _ _ _, fun c hc => ?_⟩
  have hacc : run.accounts c := by
    by_cases hk : stageRank c.stage < k
    · exact h.accounted c hc (Or.inl hk)
    · exact h.accounted c hc (Or.inr (hoff c hc (by omega)))
  refine accounts_update (fun check hcheck => ?_) hacc
  unfold ScanReport.finishSelectedReport
  split
  · exact (ScanReport.terminate_findings_hasSkip ..).mpr hcheck
  · obtain ⟨status, message, hs⟩ := run.report.settle_frame
    rw [hs]
    exact hcheck

end Reached

/-! ## The checks between stages -/

section Checks

variable {selection : ScanSelection} {k : Nat} {run : Run} {stage : ScanStage}
  {Q : Unit → Run → Prop}

theorem holds_deadlineCheck (h : Reached selection k run) (hstage : stageRank stage ≤ k)
    (expired : Bool) (message : String) (hQ : Q ⟨⟩ run) :
    (deadlineCheck selection stage expired message).holds Q (Done selection) run := by
  unfold deadlineCheck
  split
  · exact h.halt hstage .timeout message
  · exact hQ

theorem holds_stageCheck (h : Reached selection k run) (hstage : stageRank stage ≤ k)
    (reading : Reading) (interrupted expired : String) (hQ : Q ⟨⟩ run) :
    (stageCheck selection stage reading interrupted expired).holds Q (Done selection) run := by
  unfold stageCheck
  split
  · exact h.halt hstage .cancelled interrupted
  · split
    · exact h.halt hstage .timeout expired
    · exact hQ

theorem holds_stateCheck (h : Reached selection k run) (hstage : stageRank stage ≤ k)
    (state : CheckState) (timedOut interrupted : String) (hQ : Q ⟨⟩ run) :
    (stateCheck selection stage state timedOut interrupted).holds Q (Done selection) run := by
  cases state with
  | completed => exact hQ
  | timedOut => exact h.halt hstage .timeout timedOut
  | cancelled => exact h.halt hstage .cancelled interrupted

end Checks

/-! ## The active stages, one by one -/

section Active

variable (env : CoreEnv) {selection : ScanSelection} {run : Run}

theorem portStage_spec (h : Reached selection (stageRank .ports) run) :
    (portStage env selection).holds (fun _ => Reached selection (stageRank .services))
      (Done selection) run := by
  unfold portStage
  split
  · simp only [Flow.holds_bind, holds_emit, holds_update]
    refine holds_deadlineCheck h le_rfl _ _ ?_
    have hrun := (h.start.update (f := ({ · with hosts := mergeHosts env.tcpHosts env.udpHosts }))
      ⟨fun _ => rfl, fun _ => rfl, fun _ => rfl, fun _ => rfl, fun _ _ h => h⟩).emit
      (.completed .ports (mergeHosts env.tcpHosts env.udpHosts).length)
    exact holds_stageCheck hrun (Nat.le_succ _) _ _ _ hrun
  · rename_i hports
    refine h.finish (fun c hc _ => ?_) env.finishCancelled
    exact unselected_of_not_ports (by simpa using hports) hc

theorem serviceStage_spec (h : Reached selection (stageRank .services) run) :
    (serviceStage env selection).holds (fun _ => Reached selection (stageRank .http))
      (Done selection) run := by
  unfold serviceStage
  split
  · simp only [Flow.holds_bind, holds_emit, holds_update]
    refine holds_deadlineCheck h le_rfl _ _ ?_
    have hstart := (h.update quiet_truncateEndpoints).start
    have hprobed := hstart.update (f := ({ · with services := env.services }))
      ⟨fun _ => rfl, fun _ => rfl, fun _ => rfl, fun _ => rfl, fun _ _ h => h⟩
    refine holds_stageCheck hprobed (Nat.le_succ _) _ _ _ ?_
    have hssh := hprobed.update (f := ({ · with services := env.sshServices }))
      ⟨fun _ => rfl, fun _ => rfl, fun _ => rfl, fun _ => rfl, fun _ _ h => h⟩
    exact holds_stateCheck hssh (Nat.le_succ _) _ _ _ (hssh.emit _)
  · rename_i hservices
    refine h.finish (fun c hc hrank => ?_) env.finishCancelled
    exact unselected_of_not_services (by simpa using hservices) hc hrank

theorem httpStage_spec (h : Reached selection (stageRank .http) run) :
    (httpStage env selection).holds (fun _ => Reached selection (stageRank .tls))
      (Done selection) run := by
  unfold httpStage
  split
  · simp only [Flow.holds_bind, holds_emit, holds_update]
    refine holds_deadlineCheck h le_rfl _ _ ?_
    have hrun := (h.start.update (f := ({ · with http := env.http }))
      ⟨fun _ => rfl, fun _ => rfl, fun _ => rfl, fun _ => rfl, fun _ _ h => h⟩).emit
      (.completed .http env.http.length)
    exact holds_stageCheck hrun (Nat.le_succ _) _ _ _ hrun
  · rename_i hhttp
    refine h.pass (fun c hc hk => ?_)
    rw [((activeChecks_of_stage hc).2.2.1 (stageRank_injective hk)).2]
    simpa using hhttp

theorem tlsStage_spec (h : Reached selection (stageRank .tls) run) :
    (tlsStage env selection).holds (fun _ => Reached selection (stageRank .findings))
      (Done selection) run := by
  unfold tlsStage
  simp only [Flow.holds_bind, Flow.holds_read, Flow.holds_ite, holds_emit, holds_update]
  split
  · split
    · refine (h.update (quiet_addSkippedCheck "tls" _)).advance (fun c hc hk => Or.inr ?_)
      rw [((activeChecks_of_stage hc).2.2.2 (stageRank_injective hk)).1]
      exact (run.report.addSkippedCheck_hasSkip _ _ _).mpr (Or.inr rfl)
    · refine holds_deadlineCheck h le_rfl _ _ ?_
      have hrun := (h.start.update (f := ({ · with tls := env.tls }))
        ⟨fun _ => rfl, fun _ => rfl, fun _ => rfl, fun _ => rfl, fun _ _ h => h⟩).emit
        (.completed .tls env.tls.length)
      exact holds_stageCheck hrun (Nat.le_succ _) _ _ _ hrun
  · rename_i htls
    refine h.pass (fun c hc hk => ?_)
    rw [((activeChecks_of_stage hc).2.2.2 (stageRank_injective hk)).2]
    simpa using htls

theorem activeStages_spec (h : Reached selection (stageRank .ports) run) :
    (activeStages env selection).holds (fun _ => Done selection) (Done selection) run := by
  unfold activeStages
  refine Flow.holds_seq (portStage_spec env h) (fun _ run h => ?_)
  refine Flow.holds_seq (serviceStage_spec env h) (fun _ run h => ?_)
  refine Flow.holds_seq (httpStage_spec env h) (fun _ run h => ?_)
  refine Flow.holds_seq (tlsStage_spec env h) (fun _ run h => ?_)
  refine h.finish (fun c hc hrank => ?_) env.finishCancelled
  exact absurd (ScanReport.stageRank_planned (List.mem_append_right _ hc)) (Nat.not_lt.mpr hrank)

end Active

end Surface

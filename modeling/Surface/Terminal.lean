import Surface.Trace
import Surface.Cli.Marks

/-!
# Surface.Terminal

Terminal states under the seven operations that change the status of a report.

`LifecycleOp.reopens` names the two steps that leave a terminal state: a timeout that terminates
an interrupted report with observations, and an expired deadline that stops the supplied
intelligence of a failed report. `terminal_absorbing_iff` shows that there is no other one: a run
stays out of partial and completed exactly when none of its steps is one of the two.
-/

namespace Surface

/-- The error kinds with which stages are terminated. -/
inductive TerminationKind where
  | configuration
  | cancelled
  | timeout
deriving DecidableEq

def TerminationKind.toErrorKind : TerminationKind → ScanErrorKind
  | configuration => .configuration
  | cancelled => .cancelled
  | timeout => .timeout

inductive LifecycleOp where
  | terminate (stage : ScanStage) (selection : ScanSelection) (kind : TerminationKind)
      (message : String)
  | settle
  | finishNetworkRegistrations (observations : List NetworkRegistrationObservation)
      (failures : OrdSet String) (stop : Option RdapStop)
  | finishBgpRoutes (observations : List BgpRouteObservation) (failures : OrdSet String)
      (stop : Option BgpStop)
  | markIntelligencePartial
  | markIntelligenceSourceError (check reason : String)
  | markIntelligenceStopped (cancelled : Bool) (checks : List ScanReport.StoppedCheck)

namespace LifecycleOp

def apply : LifecycleOp → ScanReport → ScanReport
  | terminate stage selection kind message, r =>
    r.terminate stage selection kind.toErrorKind message
  | settle, r => r.settle
  | finishNetworkRegistrations observations failures stop, r =>
    r.finishNetworkRegistrations observations failures stop
  | finishBgpRoutes observations failures stop, r => r.finishBgpRoutes observations failures stop
  | markIntelligencePartial, r => r.markIntelligencePartial
  | markIntelligenceSourceError check reason, r => r.markIntelligenceSourceError check reason
  | markIntelligenceStopped cancelled checks, r => r.markIntelligenceStopped cancelled checks

/-- The step turns this terminal report into a partial one. -/
def reopens (report : ScanReport) : LifecycleOp → Prop
  | terminate _ _ .timeout _ => report.status = .interrupted ∧ report.hasObservations = true
  | markIntelligenceStopped false _ => report.status = .failed
  | _ => False

end LifecycleOp

def ScanStatus.terminal (status : ScanStatus) : Prop := status = .failed ∨ status = .interrupted

theorem downgrade_terminal {report : ScanReport} (h : report.status.terminal) :
    (if report.status = .completed then ScanStatus.partialScan else report.status) =
      report.status := by
  rcases h with h | h <;> rw [h] <;> rfl

theorem lookupStatus_terminal {status : ScanStatus} (h : status.terminal) (failures : OrdSet String)
    (stop : Option LookupStop) : (ScanReport.lookupStatus status failures stop).terminal := by
  have hkeep : status ≠ .completed := by rcases h with h | h <;> rw [h] <;> decide
  rcases stop with _ | stop
  · simp only [ScanReport.lookupStatus, if_neg hkeep, ite_self]
    exact h
  · cases stop with
    | cancelled =>
      simp only [ScanReport.lookupStatus]
      split
      · exact Or.inr rfl
      · exact h
    | deadline => rw [ScanReport.lookupStatus, if_neg hkeep]; exact h

theorem terminate_terminal {report : ScanReport} (h : report.status.terminal) (stage : ScanStage)
    (selection : ScanSelection) (kind : TerminationKind) (message : String) :
    (report.terminate stage selection kind.toErrorKind message).status =
      if kind = .timeout ∧ report.status = .interrupted ∧ report.hasObservations then .partialScan
      else if kind = .configuration then .failed
      else if kind = .cancelled then .interrupted
      else .failed := by
  have hsplit := report.terminate_cases stage selection kind.toErrorKind message
  rcases h with h | h <;> cases kind <;>
    simp only [h, TerminationKind.toErrorKind, reduceCtorEq, and_false, false_and, or_false,
      or_true, and_true, true_and, false_or, not_true_eq_false, not_false_eq_true, if_true,
      if_false] at hsplit ⊢ <;>
    first
    | rw [hsplit, h]
    | obtain ⟨_, _, hreport⟩ := hsplit
      rw [hreport]
      rfl

/-- One step: either it reopens the report, or the report stays terminal. -/
theorem apply_terminal {report : ScanReport} (h : report.status.terminal) (op : LifecycleOp) :
    (¬ op.reopens report → (op.apply report).status.terminal) ∧
      (op.reopens report → (op.apply report).status = .partialScan) := by
  cases op with
  | terminate stage selection kind message =>
    have hstatus := terminate_terminal h stage selection kind message
    cases kind with
    | configuration => exact ⟨fun _ => Or.inl hstatus, fun hr => hr.elim⟩
    | cancelled => exact ⟨fun _ => Or.inr hstatus, fun hr => hr.elim⟩
    | timeout =>
      constructor
      · intro hr
        have hno : ¬ (report.status = .interrupted ∧ report.hasObservations = true) := hr
        simp only [true_and, hno, if_false, reduceCtorEq] at hstatus
        exact Or.inl hstatus
      · intro hr
        have hyes : report.status = .interrupted ∧ report.hasObservations = true := hr
        rw [if_pos ⟨rfl, hyes⟩] at hstatus
        exact hstatus
  | settle =>
    have hstop : report.settle = report :=
      ScanReport.settle_of_terminal (by rcases h with h | h <;> simp [h])
    refine ⟨fun _ => ?_, fun hr => hr.elim⟩
    have hstatus : report.settle.status = report.status := by rw [hstop]
    exact hstatus.symm ▸ h
  | finishNetworkRegistrations observations failures stop =>
    refine ⟨fun _ => ?_, fun hr => hr.elim⟩
    exact (report.finishLookup_status ..).symm ▸ lookupStatus_terminal h failures stop
  | finishBgpRoutes observations failures stop =>
    refine ⟨fun _ => ?_, fun hr => hr.elim⟩
    exact (report.finishLookup_status ..).symm ▸ lookupStatus_terminal h failures stop
  | markIntelligencePartial =>
    refine ⟨fun _ => ?_, fun hr => hr.elim⟩
    exact ((report.downgrade_status).trans (downgrade_terminal h)).symm ▸ h
  | markIntelligenceSourceError check reason =>
    refine ⟨fun _ => ?_, fun hr => hr.elim⟩
    exact ((report.markIntelligenceSourceError_status check reason).trans
      (downgrade_terminal h)).symm ▸ h
  | markIntelligenceStopped cancelled checks =>
    have hstatus := report.markIntelligenceStopped_status cancelled checks
    cases cancelled with
    | true => exact ⟨fun _ => Or.inr hstatus, fun hr => hr.elim⟩
    | false =>
      rcases h with h | h
      · rw [h] at hstatus
        exact ⟨fun hr => absurd h hr, fun _ => hstatus⟩
      · rw [h] at hstatus
        refine ⟨fun _ => Or.inr hstatus, fun hr => ?_⟩
        have hfailed : report.status = .failed := hr
        rw [h] at hfailed
        cases hfailed

/-- A run from a terminal state shows neither partial nor completed exactly when no step of it
reopens the report. -/
theorem terminal_absorbing_iff (report : ScanReport) (h : report.status.terminal)
    (ops : List LifecycleOp) :
    (∀ r ∈ trace LifecycleOp.apply ops report,
        r.status ≠ .partialScan ∧ r.status ≠ .completed) ↔
      allSteps LifecycleOp.apply (fun op r => ¬ op.reopens r) ops report := by
  have hclosed : ∀ r : ScanReport, r.status.terminal →
      r.status ≠ .partialScan ∧ r.status ≠ .completed := by
    intro r hr
    rcases hr with hr | hr <;> rw [hr] <;> exact ⟨by decide, by decide⟩
  have hkeep : ∀ (op : LifecycleOp) (r : ScanReport), r.status.terminal → ¬ op.reopens r →
      (op.apply r).status.terminal := fun op r hr => (apply_terminal hr op).1
  refine trace_iff hclosed hkeep ?_ h
  intro op r hr hopen hout
  exact hout.1 ((apply_terminal hr op).2 (not_not.mp hopen))

/-- The deadline had elapsed before the DNS stage, so there is nothing to report. -/
def failedReport : ScanReport :=
  fixtureReport.terminate .dns .all .timeout "global timeout expired before DNS analysis"

theorem terminal_absorbing_failed :
    failedReport.status = .failed ∧
      ∀ r ∈ trace LifecycleOp.apply [.settle, .markIntelligencePartial] failedReport,
        r.status ≠ .partialScan ∧ r.status ≠ .completed :=
  ⟨by decide, (terminal_absorbing_iff failedReport (Or.inl (by decide))
    [.settle, .markIntelligencePartial]).mpr ⟨id, id, trivial⟩⟩

/-- Supplied intelligence that the same deadline stops turns the failed scan into a partial one. -/
theorem failed_reopened :
    failedReport.status = .failed ∧
      ¬ ∀ r ∈ trace LifecycleOp.apply [.markIntelligenceStopped false [⟨"subdomain_dns", true⟩]]
          failedReport,
        r.status ≠ .partialScan ∧ r.status ≠ .completed := by
  refine ⟨by decide, fun h => ?_⟩
  have hlast := h (failedReport.markIntelligenceStopped false [⟨"subdomain_dns", true⟩])
    (List.mem_cons_of_mem _ (self_mem_trace LifecycleOp.apply [] _))
  exact hlast.1 (by decide)

end Surface

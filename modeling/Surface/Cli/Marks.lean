import Surface.Intelligence.Lookup

/-!
# Surface.Cli.Marks

How the command line records intelligence that is incomplete, failed or stopped.
-/

namespace Surface

namespace ScanReport

def markIntelligencePartial (report : ScanReport) : ScanReport := report.downgrade

def markIntelligenceSourceError (report : ScanReport) (check reason : String) : ScanReport :=
  let intelligence := report.intelligenceOrNew
  let error := check ++ ": " ++ reason
  let errors :=
    if error ∈ intelligence.errors then intelligence.errors else intelligence.errors ++ [error]
  let report :=
    { report with intelligence := some { intelligence with complete := false, errors := errors } }
  (report.addSkippedCheck check reason).markIntelligencePartial

/-- One check of a stopped source and whether it applied to this scan. -/
structure StoppedCheck where
  check : String
  applicable : Bool
deriving DecidableEq

def markIntelligenceStopped (report : ScanReport) (cancelled : Bool) (checks : List StoppedCheck) :
    ScanReport :=
  let reason := if cancelled then "scan interrupted" else "global timeout expired"
  let status :=
    if cancelled then .interrupted
    else if report.status ≠ .interrupted then .partialScan
    else report.status
  checks.foldl (fun r c => if c.applicable then r.addSkippedCheck c.check reason else r)
    { report with status := status, message := reason }

@[simp] theorem addSkippedCheck_status (report : ScanReport) (check reason : String) :
    (report.addSkippedCheck check reason).status = report.status := by
  obtain ⟨skips, h⟩ := addSkippedCheck_frame report check reason
  rw [h]

theorem markIntelligenceSourceError_status (report : ScanReport) (check reason : String) :
    (report.markIntelligenceSourceError check reason).status =
      if report.status = .completed then .partialScan else report.status := by
  unfold markIntelligenceSourceError markIntelligencePartial
  rw [downgrade_status, addSkippedCheck_status]

/-- Stopped checks only add skips. -/
theorem foldl_stopped_frame (report : ScanReport) (reason : String) (checks : List StoppedCheck) :
    ∃ skips, checks.foldl
      (fun r c => if c.applicable then r.addSkippedCheck c.check reason else r) report =
        { report with skippedChecks := report.skippedChecks ++ skips } := by
  induction checks generalizing report with
  | nil => exact ⟨[], by simp⟩
  | cons c checks ih =>
    rw [List.foldl_cons]
    split
    · obtain ⟨s, hs⟩ := addSkippedCheck_frame report c.check reason
      obtain ⟨t, ht⟩ := ih (report.addSkippedCheck c.check reason)
      refine ⟨s ++ t, ?_⟩
      rw [ht, hs, List.append_assoc]
    · exact ih report

theorem markIntelligenceStopped_status (report : ScanReport) (cancelled : Bool)
    (checks : List StoppedCheck) :
    (report.markIntelligenceStopped cancelled checks).status =
      if cancelled then .interrupted
      else if report.status ≠ .interrupted then .partialScan
      else report.status := by
  unfold markIntelligenceStopped
  obtain ⟨skips, h⟩ := foldl_stopped_frame
    { report with
      status := if cancelled then .interrupted
        else if report.status ≠ .interrupted then .partialScan else report.status
      message := if cancelled then "scan interrupted" else "global timeout expired" }
    (if cancelled then "scan interrupted" else "global timeout expired") checks
  exact congrArg ScanReport.status h

end ScanReport

end Surface

import Surface.Model.Report

/-!
# Surface.Exposure

The versioned exposure score of a report.

* `calculateExposure`: one deduction for each distinct pair of finding and target, clamped at zero.
* `calculateExposure_incomplete`, `calculateExposure_limitation`: the incompleteness flag and the
  incompleteness limitation read the status and the skipped checks, and nothing else.
-/

namespace Surface

def exposureModelVersion : String := "1.0"

def severityPoints : Severity → Nat
  | .info => 0
  | .low => 2
  | .medium => 7
  | .high => 20
  | .critical => 35

def classification (value : Nat) : ScoreClassification :=
  if 85 ≤ value ∧ value ≤ 100 then .favorable
  else if 65 ≤ value ∧ value ≤ 84 then .review
  else if 35 ≤ value ∧ value ≤ 64 then .elevated
  else .critical

def Finding.deduction (f : Finding) : ScoreDeduction where
  id := "finding:" ++ f.id ++ ":" ++ f.target
  points := severityPoints f.severity
  reason := f.title
  findingIds := [f.id]
  target := some f.target

/-- The deductions of the findings whose identity and target are not in `seen` yet. -/
def deductionsFrom (seen : OrdSet (String ×ₗ String)) : List Finding → List ScoreDeduction
  | [] => []
  | f :: rest =>
    if toLex (f.id, f.target) ∈ seen then deductionsFrom seen rest
    else
      let others := deductionsFrom (seen.insert (toLex (f.id, f.target))) rest
      if 0 < severityPoints f.severity then f.deduction :: others else others

/-- The sum of the points in 16 bits, saturating, and at most one hundred. -/
def totalPoints (deductions : List ScoreDeduction) : Nat :=
  min (deductions.foldl (fun sum d => min (sum + d.points) (2 ^ 16 - 1)) 0) 100

def baseLimitation : String := "This configuration and exposure score is not proof of security."

def incompleteLimitation : String :=
  "The scan was incomplete; absent observations were not treated as safe."

/-- Whether the report leaves something out. -/
def ScanReport.incomplete (report : ScanReport) : Bool :=
  decide (report.status ≠ .completed) || !report.skippedChecks.isEmpty

def calculateExposure (report : ScanReport) : ExposureScore :=
  let deductions := sortBy ScoreDeduction.id (deductionsFrom .empty report.findings)
  let total := totalPoints deductions
  let value := 100 - (if total < 2 ^ 8 then total else 100)
  { modelVersion := exposureModelVersion
    value := value
    classification := classification value
    deductions := deductions
    incomplete := report.incomplete
    limitations := [baseLimitation] ++ if report.incomplete then [incompleteLimitation] else [] }

@[simp] theorem incomplete_iff (report : ScanReport) :
    report.incomplete = true ↔ report.status ≠ .completed ∨ report.skippedChecks ≠ [] := by
  simp [ScanReport.incomplete]

theorem calculateExposure_incomplete (report : ScanReport) :
    (calculateExposure report).incomplete = report.incomplete := rfl

theorem calculateExposure_limitation (report : ScanReport) :
    incompleteLimitation ∈ (calculateExposure report).limitations ↔
      (calculateExposure report).incomplete = true := by
  have hne : incompleteLimitation ≠ baseLimitation := by decide
  rw [calculateExposure_incomplete]
  simp only [calculateExposure, List.mem_append, List.mem_singleton, hne, false_or]
  cases report.incomplete <;> simp

end Surface

import Surface.Lifecycle

/-!
# Surface.Finalize

Findings, exposure score and completion time of a report, written once at the end of a scan.

`finalize` looks at the token and at the deadline before the findings and again after the score.
A stop that only the second look sees changes the status under a score already computed:
`finalize_scoreAgrees_iff` says when the stored score still describes the returned report.
-/

namespace Surface

/-- A report together with the stage transitions announced so far. -/
structure Run where
  report : ScanReport
  progress : List ScanProgress

namespace Run

def update (run : Run) (f : ScanReport → ScanReport) : Run := { run with report := f run.report }

def emit (run : Run) (event : ScanProgress) : Run :=
  { run with progress := run.progress ++ [event] }

end Run

namespace ScanReport

/-- Terminate on cancellation, else on an elapsed deadline, else go on with `otherwise`. -/
def checkpoint (report : ScanReport) (reading : Reading) (stage : ScanStage)
    (selection : ScanSelection) (interrupted expired : String)
    (otherwise : ScanReport → ScanReport) : ScanReport :=
  if reading.cancelled then report.terminate stage selection .cancelled interrupted
  else if reading.expired then report.terminate stage selection .timeout expired
  else otherwise report

theorem checkpoint_clear {report : ScanReport} {reading : Reading} {stage : ScanStage}
    {selection : ScanSelection} {interrupted expired : String}
    {otherwise : ScanReport → ScanReport} (h : reading.stops = false) :
    report.checkpoint reading stage selection interrupted expired otherwise = otherwise report := by
  obtain ⟨hc, he⟩ := Bool.or_eq_false_iff.mp h
  simp [checkpoint, hc, he]

theorem checkpoint_stops {report : ScanReport} {reading : Reading} {stage : ScanStage}
    {selection : ScanSelection} {interrupted expired : String}
    {otherwise : ScanReport → ScanReport} (h : reading.stops = true) :
    ∃ kind message, report.checkpoint reading stage selection interrupted expired otherwise =
      report.terminate stage selection kind message := by
  unfold checkpoint
  split
  · exact ⟨_, _, rfl⟩
  · rename_i hc
    have he : reading.expired = true := by simpa [Reading.stops, hc] using h
    rw [if_pos he]
    exact ⟨_, _, rfl⟩

end ScanReport

/-- The finding generator: host, DNS, hosts, services, HTTP, TLS and the time of the scan. -/
abbrev FindingGenerator :=
  String → Option DnsObservation → List HostObservation → List ServiceObservation →
    List HttpObservation → List TlsObservation → OffsetDateTime → List Finding

/-- What `finalize` sees of the token and the clock, in the order in which it looks. -/
structure FinalizeClock where
  beforeFindings : Reading
  findingsTime : OffsetDateTime
  afterFindings : Reading
  completionTime : OffsetDateTime

namespace ScanReport

def withFindings (report : ScanReport) (generateFindings : FindingGenerator)
    (now : OffsetDateTime) : ScanReport :=
  { report with
    findings := generateFindings (report.target.hostname.getD report.target.original) report.dns
      report.hosts report.services report.http report.tls now }

def withExposure (report : ScanReport) : ScanReport :=
  { report with exposureScore := some (calculateExposure report) }

def complete (report : ScanReport) (now : OffsetDateTime) : ScanReport :=
  { report with completedAt := some now }

/-- The stored score, its flag and its limitation agree with the report they are stored in. -/
def scoreAgrees (report : ScanReport) : Prop :=
  ∃ score, report.exposureScore = some score ∧
    (score.incomplete = true ↔ report.status ≠ .completed ∨ report.skippedChecks ≠ []) ∧
    (incompleteLimitation ∈ score.limitations ↔ score.incomplete = true)

end ScanReport

def finalize (generateFindings : FindingGenerator) (clock : FinalizeClock) (run : Run) : Run :=
  if run.report.completedAt.isSome then run
  else if run.report.errors.any (fun error => error.stage = .preflight) then
    run.update (·.complete clock.completionTime)
  else
    let run := run.update (·.checkpoint clock.beforeFindings .findings .all
      "scan interrupted during findings finalization"
      "global timeout expired during findings finalization" ScanReport.settle)
    let run := run.emit (.started .findings)
    let run := run.update (·.withFindings generateFindings clock.findingsTime)
    let run := run.update ScanReport.withExposure
    let run := run.emit (.completed .findings run.report.findings.length)
    let run := run.update (·.checkpoint clock.afterFindings .findings .all
      "scan interrupted after findings finalization"
      "global timeout expired after findings finalization" id)
    run.update (·.complete clock.completionTime)

/-! ## The report that leaves `finalize` -/

section Finalize

variable (generateFindings : FindingGenerator) (clock : FinalizeClock)

/-- The report before the findings. -/
def beforeFindings (clock : FinalizeClock) (report : ScanReport) : ScanReport :=
  report.checkpoint clock.beforeFindings .findings .all
    "scan interrupted during findings finalization"
    "global timeout expired during findings finalization" ScanReport.settle

/-- The report after the score, at the second look at the token and the clock. -/
def afterFindings (clock : FinalizeClock) (report : ScanReport) : ScanReport :=
  report.checkpoint clock.afterFindings .findings .all
    "scan interrupted after findings finalization"
    "global timeout expired after findings finalization" id

theorem finalize_report {run : Run} (hopen : run.report.completedAt = none)
    (hpre : ∀ error ∈ run.report.errors, error.stage ≠ .preflight) :
    (finalize generateFindings clock run).report =
      (afterFindings clock ((beforeFindings clock run.report).withFindings generateFindings
        clock.findingsTime).withExposure).complete clock.completionTime := by
  have hany : run.report.errors.any (fun error => decide (error.stage = .preflight)) = false := by
    simpa using hpre
  simp only [finalize, hopen, Option.isSome_none, Bool.false_eq_true, if_false, hany]
  rfl

theorem terminate_exposureScore (report : ScanReport) (stage : ScanStage)
    (selection : ScanSelection) (kind : ScanErrorKind) (message : String) :
    (report.terminate stage selection kind message).exposureScore = report.exposureScore := by
  rcases report.terminate_cases stage selection kind message with ⟨_, h⟩ | ⟨_, _, _, _, h⟩ <;>
    rw [h]

theorem afterFindings_exposureScore (report : ScanReport) :
    (afterFindings clock report).exposureScore = report.exposureScore := by
  cases hs : clock.afterFindings.stops with
  | false => rw [afterFindings, ScanReport.checkpoint_clear hs]; rfl
  | true =>
    obtain ⟨kind, message, h⟩ := ScanReport.checkpoint_stops hs
    rw [afterFindings, h]
    exact terminate_exposureScore ..

/-- A second look that stops makes the report incomplete, whatever it was. -/
theorem afterFindings_incomplete (report : ScanReport) :
    (afterFindings clock report).incomplete = (clock.afterFindings.stops || report.incomplete) := by
  cases hs : clock.afterFindings.stops with
  | false => rw [afterFindings, ScanReport.checkpoint_clear hs]; simp
  | true =>
    obtain ⟨kind, message, h⟩ := ScanReport.checkpoint_stops hs
    rw [afterFindings, h, Bool.true_or, incomplete_iff]
    exact Or.inl (ScanReport.terminate_status ..).1

/-- Only an untouched, conclusive scan without skips is complete before the findings. -/
theorem beforeFindings_incomplete (report : ScanReport) :
    (beforeFindings clock report).incomplete = false ↔
      clock.beforeFindings.stops = false ∧
        (report.status = .notStarted ∨ report.status = .completed) ∧
        report.conclusive = true ∧ report.skippedChecks = [] := by
  rw [Bool.eq_false_iff, ne_eq, incomplete_iff, not_or, not_not, not_not]
  cases hs : clock.beforeFindings.stops with
  | false =>
    obtain ⟨status, message, hframe⟩ := report.settle_frame
    have hskips : report.settle.skippedChecks = report.skippedChecks := by rw [hframe]
    rw [beforeFindings, ScanReport.checkpoint_clear hs, report.settle_status, hskips]
    simp only [true_and, and_assoc]
  | true =>
    obtain ⟨kind, message, h⟩ := ScanReport.checkpoint_stops hs
    rw [beforeFindings, h]
    simp [(ScanReport.terminate_status ..).1]

/-- A score computed earlier agrees exactly when the report is as incomplete as it was then. -/
theorem scoreAgrees_of_score {report scored : ScanReport}
    (h : report.exposureScore = some (calculateExposure scored)) :
    report.scoreAgrees ↔ report.incomplete = scored.incomplete := by
  have hlim := calculateExposure_limitation scored
  simp only [ScanReport.scoreAgrees, h, Option.some.injEq, exists_eq_left', hlim, and_true,
    calculateExposure_incomplete, ← incomplete_iff]
  exact ⟨fun hi => (Bool.eq_iff_iff.mpr hi).symm, fun hi => by rw [hi]⟩

theorem scoreAgrees_afterFindings (report : ScanReport) :
    ((afterFindings clock (report.withFindings generateFindings clock.findingsTime).withExposure
      ).complete clock.completionTime).scoreAgrees ↔
      (clock.afterFindings.stops || report.incomplete) = report.incomplete := by
  have hscore := afterFindings_exposureScore clock
    (report.withFindings generateFindings clock.findingsTime).withExposure
  have hflag := afterFindings_incomplete clock
    (report.withFindings generateFindings clock.findingsTime).withExposure
  refine (scoreAgrees_of_score hscore).trans ?_
  exact iff_of_eq (congrArg (· = report.incomplete) hflag)

/-- The stored score describes the returned report, unless the first look found nothing, the scan
was complete up to there, and the second look stopped it. -/
theorem finalize_scoreAgrees_iff (run : Run) (hopen : run.report.completedAt = none)
    (hpre : ∀ error ∈ run.report.errors, error.stage ≠ .preflight) :
    (finalize generateFindings clock run).report.scoreAgrees ↔
      ¬ (clock.beforeFindings.stops = false ∧ clock.afterFindings.stops = true ∧
        (run.report.status = .notStarted ∨ run.report.status = .completed) ∧
        run.report.conclusive = true ∧ run.report.skippedChecks = []) := by
  rw [finalize_report generateFindings clock hopen hpre, scoreAgrees_afterFindings]
  have h := beforeFindings_incomplete clock run.report
  cases hb : (beforeFindings clock run.report).incomplete with
  | true =>
    rw [hb] at h
    simp only [Bool.or_true, true_iff]
    rintro ⟨h₁, _, h₂⟩
    exact absurd (h.mpr ⟨h₁, h₂⟩) (by decide)
  | false =>
    obtain ⟨h₁, h₂⟩ := h.mp hb
    simp [h₁, h₂]

end Finalize

/-- The token is cancelled while the findings are generated. -/
def cancelledDuringFindings : FinalizeClock where
  beforeFindings := ⟨false, false⟩
  findingsTime := ⟨10⟩
  afterFindings := ⟨true, false⟩
  completionTime := ⟨11⟩

/-- A scan that ran all its stages without errors or skips. -/
def cleanRun : Run where
  report := { fixtureReport with status := .completed }
  progress := []

theorem finalize_scoreAgrees_clean :
    (finalize (fun _ _ _ _ _ _ _ => []) ⟨⟨false, false⟩, ⟨10⟩, ⟨false, false⟩, ⟨11⟩⟩
      cleanRun).report.scoreAgrees :=
  (finalize_scoreAgrees_iff _ _ cleanRun (by decide) (by decide)).mpr (by decide)

/-- The status reads interrupted, the score still says that nothing is missing. -/
theorem finalize_stale_score :
    cancelledDuringFindings.beforeFindings.le cancelledDuringFindings.afterFindings ∧
      cleanRun.report.completedAt = none ∧
      (∀ error ∈ cleanRun.report.errors, error.stage ≠ .preflight) ∧
      ¬ (finalize (fun _ _ _ _ _ _ _ => []) cancelledDuringFindings
        cleanRun).report.scoreAgrees := by
  refine ⟨by decide, by decide, by decide, ?_⟩
  rintro ⟨score, hscore, hflag, _⟩
  have hstored : (finalize (fun _ _ _ _ _ _ _ => []) cancelledDuringFindings
      cleanRun).report.exposureScore.map ExposureScore.incomplete = some false := by decide
  have hstatus : (finalize (fun _ _ _ _ _ _ _ => []) cancelledDuringFindings
      cleanRun).report.status = .interrupted := by decide
  rw [hscore, Option.map_some, Option.some.injEq] at hstored
  rw [hstatus, hstored] at hflag
  simp at hflag

end Surface

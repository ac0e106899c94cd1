import Surface.Exposure

/-!
# Surface.Lifecycle

The operations that move a report through its lifecycle.

* `ScanReport.addSkippedCheck`, `recordSkips`: the accounting of omitted checks. `hasSkip` asks
  whether a check is accounted for, `recordSkips_hasSkip` says which ones become so.
* `ScanReport.terminate`: an early end of a stage. `terminate_cases` says once what it can do.
* `ScanReport.settle`: the status of a scan whose stages all ran. `settle_status` reads it off.
-/

namespace Surface

/-- One check a scan plans, the stage that performs it, and whether it was selected. -/
structure PlannedCheck where
  check : String
  stage : ScanStage
  selected : Bool
deriving DecidableEq

def activeChecks (selection : ScanSelection) : List PlannedCheck :=
  [⟨"ports", .ports, selection.ports⟩, ⟨"services", .services, selection.services⟩,
    ⟨"http", .http, selection.http⟩, ⟨"tls", .tls, selection.tls⟩]

def plannedChecks (selection : ScanSelection) : List PlannedCheck :=
  [⟨"dns", .dns, true⟩, ⟨"dnssec_validation", .dns, true⟩, ⟨"authoritative_axfr", .dns, true⟩,
    ⟨"wildcard_dns", .dns, true⟩, ⟨"dangling_cname", .dns, true⟩] ++ activeChecks selection

def stageRank : ScanStage → Nat
  | .preflight => 0
  | .dns => 1
  | .ports => 2
  | .services => 3
  | .http => 4
  | .tls => 5
  | .findings => 6

theorem unselected_of_not_ports {selection : ScanSelection} {c : PlannedCheck}
    (h : selection.ports = false) (hc : c ∈ activeChecks selection) : c.selected = false := by
  obtain ⟨hs, hh, ht⟩ := selection.not_selected_of_not_ports h
  simp only [activeChecks, List.mem_cons, List.not_mem_nil, or_false] at hc
  rcases hc with rfl | rfl | rfl | rfl <;> assumption

theorem unselected_of_not_services {selection : ScanSelection} {c : PlannedCheck}
    (h : selection.services = false) (hc : c ∈ activeChecks selection)
    (hrank : stageRank .services ≤ stageRank c.stage) : c.selected = false := by
  obtain ⟨hh, ht⟩ := selection.not_selected_of_not_services h
  simp only [activeChecks, List.mem_cons, List.not_mem_nil, or_false] at hc
  rcases hc with rfl | rfl | rfl | rfl
  · exact absurd hrank (by simp [stageRank])
  · exact h
  · exact hh
  · exact ht

/-- The active check of a stage, by name and selection. -/
theorem activeChecks_of_stage {selection : ScanSelection} {c : PlannedCheck}
    (hc : c ∈ activeChecks selection) :
    (c.stage = .ports → c.check = "ports" ∧ c.selected = selection.ports) ∧
      (c.stage = .services → c.check = "services" ∧ c.selected = selection.services) ∧
      (c.stage = .http → c.check = "http" ∧ c.selected = selection.http) ∧
      (c.stage = .tls → c.check = "tls" ∧ c.selected = selection.tls) := by
  simp only [activeChecks, List.mem_cons, List.not_mem_nil, or_false] at hc
  rcases hc with rfl | rfl | rfl | rfl <;> simp

theorem stageRank_injective {a b : ScanStage} (h : stageRank a = stageRank b) : a = b := by
  cases a <;> cases b <;> first | rfl | cases h

namespace ScanReport

/-! ## Skipped checks -/

def hasSkip (report : ScanReport) (check : String) : Prop :=
  check ∈ report.skippedChecks.map SkippedCheck.check

instance (report : ScanReport) (check : String) : Decidable (report.hasSkip check) :=
  inferInstanceAs (Decidable (_ ∈ _))

def addSkippedCheck (report : ScanReport) (check reason : String) : ScanReport :=
  if report.skippedChecks.all (fun skipped => decide (skipped.check ≠ check)) then
    { report with skippedChecks := report.skippedChecks ++ [⟨check, reason⟩] }
  else report

/-- Record every planned check that `omitted` picks, in the order of the plan. -/
def recordSkips (report : ScanReport) (checks : List PlannedCheck) (omitted : PlannedCheck → Bool)
    (reason : String) : ScanReport :=
  checks.foldl (fun r c => if omitted c then r.addSkippedCheck c.check reason else r) report

def recordSelectionSkips (report : ScanReport) (selection : ScanSelection) : ScanReport :=
  report.recordSkips (activeChecks selection) (fun c => !c.selected) "excluded by --only"

def recordUnfinishedChecks (report : ScanReport) (failedStage : ScanStage)
    (selection : ScanSelection) (reason : String) : ScanReport :=
  report.recordSkips (plannedChecks selection)
    (fun c => c.selected && decide (stageRank failedStage ≤ stageRank c.stage)) reason

/-- The check was already accounted for, or is the last one recorded. -/
theorem addSkippedCheck_cases (report : ScanReport) (check reason : String) :
    report.addSkippedCheck check reason = report ∧ report.hasSkip check ∨
      report.addSkippedCheck check reason =
        { report with skippedChecks := report.skippedChecks ++ [⟨check, reason⟩] } ∧
          ¬ report.hasSkip check := by
  unfold addSkippedCheck hasSkip
  by_cases h : check ∈ report.skippedChecks.map SkippedCheck.check
  · refine Or.inl ⟨if_neg ?_, h⟩
    obtain ⟨s, hs, hc⟩ := List.mem_map.mp h
    simpa using ⟨s, hs, hc⟩
  · refine Or.inr ⟨if_pos ?_, h⟩
    simpa using h

theorem addSkippedCheck_hasSkip (report : ScanReport) (check reason other : String) :
    (report.addSkippedCheck check reason).hasSkip other ↔
      report.hasSkip other ∨ other = check := by
  rcases addSkippedCheck_cases report check reason with ⟨h, hc⟩ | ⟨h, _⟩
  · rw [h]
    constructor
    · exact Or.inl
    · rintro (ho | rfl)
      · exact ho
      · exact hc
  · rw [h]
    simp [hasSkip]

theorem addSkippedCheck_frame (report : ScanReport) (check reason : String) :
    ∃ skips, report.addSkippedCheck check reason =
      { report with skippedChecks := report.skippedChecks ++ skips } := by
  rcases addSkippedCheck_cases report check reason with ⟨h, _⟩ | ⟨h, _⟩
  · exact ⟨[], by rw [h, List.append_nil]⟩
  · exact ⟨_, h⟩

/-- Recording skips appends to the skipped checks and touches nothing else. -/
theorem recordSkips_frame (report : ScanReport) (checks : List PlannedCheck)
    (omitted : PlannedCheck → Bool) (reason : String) :
    ∃ skips, report.recordSkips checks omitted reason =
      { report with skippedChecks := report.skippedChecks ++ skips } := by
  induction checks generalizing report with
  | nil => exact ⟨[], by simp [recordSkips]⟩
  | cons c checks ih =>
    simp only [recordSkips, List.foldl_cons]
    split
    · obtain ⟨s, hs⟩ := addSkippedCheck_frame report c.check reason
      obtain ⟨t, ht⟩ := ih (report.addSkippedCheck c.check reason)
      refine ⟨s ++ t, ?_⟩
      rw [recordSkips] at ht
      rw [ht, hs, List.append_assoc]
    · exact ih report

theorem recordSkips_hasSkip (report : ScanReport) (checks : List PlannedCheck)
    (omitted : PlannedCheck → Bool) (reason other : String) :
    (report.recordSkips checks omitted reason).hasSkip other ↔
      report.hasSkip other ∨ ∃ c ∈ checks, omitted c = true ∧ other = c.check := by
  induction checks generalizing report with
  | nil => simp [recordSkips]
  | cons c checks ih =>
    have hstep : (report.recordSkips (c :: checks) omitted reason) =
        ((if omitted c then report.addSkippedCheck c.check reason else report).recordSkips
          checks omitted reason) := rfl
    rw [hstep, ih]
    by_cases hc : omitted c = true
    · rw [if_pos hc, addSkippedCheck_hasSkip]
      simp only [List.mem_cons, exists_eq_or_imp, hc, true_and]
      tauto
    · rw [if_neg hc]
      simp only [List.mem_cons, exists_eq_or_imp, hc, false_and, false_or, Bool.false_eq_true]

/-! ## Terminating and settling -/

def hasObservations (report : ScanReport) : Bool :=
  report.dns.isSome || !report.hosts.isEmpty || !report.services.isEmpty || !report.http.isEmpty ||
    !report.tls.isEmpty

/-- The status in which a stage that ended early leaves the scan. -/
def terminalStatus (report : ScanReport) : ScanErrorKind → ScanStatus
  | .configuration => .failed
  | .cancelled => .interrupted
  | .timeout => if report.hasObservations then .partialScan else .failed
  | _ => .partialScan

def terminate (report : ScanReport) (stage : ScanStage) (selection : ScanSelection)
    (kind : ScanErrorKind) (message : String) : ScanReport :=
  if report.status = .interrupted ∧ kind = .cancelled then report
  else if report.status = .failed ∧ kind = .timeout then report
  else
    let status := report.terminalStatus kind
    let error : ScanError := ⟨stage, report.target.hostname, kind, message, status ≠ .failed⟩
    recordUnfinishedChecks
      { report with status := status, message := message, errors := report.errors ++ [error] }
      stage selection message

def dnssecIndeterminate (report : ScanReport) : Bool :=
  match report.dns.bind DnsObservation.dnssec with
  | some dnssec => dnssec.status = .indeterminate
  | none => false

def wildcardIndeterminate (report : ScanReport) : Bool :=
  match report.dns.bind DnsObservation.wildcardDns with
  | some wildcard => wildcard.status = .indeterminate
  | none => false

def danglingIndeterminate (report : ScanReport) : Bool :=
  match report.dns with
  | some dns => dns.danglingCnames.any (fun observation => observation.status = .indeterminate)
  | none => false

/-- Nothing went wrong and no DNS check was left open. -/
def conclusive (report : ScanReport) : Bool :=
  report.errors.isEmpty && !report.dnssecIndeterminate && !report.wildcardIndeterminate &&
    !report.danglingIndeterminate

def settle (report : ScanReport) : ScanReport :=
  if report.status = .interrupted ∨ report.status = .failed ∨ report.status = .partialScan then
    report
  else
    { report with
      status := if report.conclusive then .completed else .partialScan
      message :=
        "Surface analyzed externally observable services and security-related configuration." }

/-- A guard keeps the report as it is, or status, message, error and skips are all written. -/
theorem terminate_cases (report : ScanReport) (stage : ScanStage) (selection : ScanSelection)
    (kind : ScanErrorKind) (message : String) :
    (report.status = .interrupted ∧ kind = .cancelled ∨ report.status = .failed ∧ kind = .timeout) ∧
        report.terminate stage selection kind message = report ∨
      ¬ (report.status = .interrupted ∧ kind = .cancelled) ∧
        ¬ (report.status = .failed ∧ kind = .timeout) ∧
        ∃ error skips, report.terminate stage selection kind message =
          { report with
            status := report.terminalStatus kind
            message := message
            errors := report.errors ++ [error]
            skippedChecks := report.skippedChecks ++ skips } := by
  unfold terminate
  split
  · rename_i h
    exact Or.inl ⟨Or.inl h, rfl⟩
  · split
    · rename_i _ h
      exact Or.inl ⟨Or.inr h, rfl⟩
    · rename_i h₁ h₂
      refine Or.inr ⟨h₁, h₂, ?_⟩
      obtain ⟨skips, hskips⟩ := recordSkips_frame
        { report with
          status := report.terminalStatus kind
          message := message
          errors := report.errors ++
            [⟨stage, report.target.hostname, kind, message, report.terminalStatus kind ≠ .failed⟩] }
        (plannedChecks selection)
        (fun c => c.selected && decide (stageRank stage ≤ stageRank c.stage)) message
      exact ⟨_, skips, hskips⟩

/-- Unless a guard holds, the selected checks from the failed stage on are accounted for. -/
theorem terminate_hasSkip (report : ScanReport) (stage : ScanStage) (selection : ScanSelection)
    (kind : ScanErrorKind) (message other : String)
    (h₁ : ¬ (report.status = .interrupted ∧ kind = .cancelled))
    (h₂ : ¬ (report.status = .failed ∧ kind = .timeout)) :
    (report.terminate stage selection kind message).hasSkip other ↔
      report.hasSkip other ∨ ∃ c ∈ plannedChecks selection,
        (c.selected = true ∧ stageRank stage ≤ stageRank c.stage) ∧ other = c.check := by
  unfold terminate
  rw [if_neg h₁, if_neg h₂]
  simp only [recordUnfinishedChecks, recordSkips_hasSkip, Bool.and_eq_true, decide_eq_true_eq]
  rfl

theorem stageRank_planned {selection : ScanSelection} {c : PlannedCheck}
    (h : c ∈ plannedChecks selection) : stageRank c.stage < stageRank .findings := by
  simp only [plannedChecks, activeChecks, List.mem_append, List.mem_cons, List.not_mem_nil,
    or_false] at h
  rcases h with (rfl | rfl | rfl | rfl | rfl) | (rfl | rfl | rfl | rfl) <;> simp [stageRank]

/-- After the last stage there is no check left to account for. -/
theorem terminate_findings_hasSkip (report : ScanReport) (selection : ScanSelection)
    (kind : ScanErrorKind) (message other : String) :
    (report.terminate .findings selection kind message).hasSkip other ↔ report.hasSkip other := by
  by_cases h₁ : report.status = .interrupted ∧ kind = .cancelled
  · rw [terminate, if_pos h₁]
  · by_cases h₂ : report.status = .failed ∧ kind = .timeout
    · rw [terminate, if_neg h₁, if_pos h₂]
    · rw [terminate_hasSkip report .findings selection kind message other h₁ h₂]
      constructor
      · rintro (h | ⟨c, hc, ⟨_, hrank⟩, _⟩)
        · exact h
        · exact absurd (stageRank_planned hc) (Nat.not_lt.mpr hrank)
      · exact Or.inl

/-- A terminated report never reads as completed, and never as not started. -/
theorem terminate_status (report : ScanReport) (stage : ScanStage) (selection : ScanSelection)
    (kind : ScanErrorKind) (message : String) :
    (report.terminate stage selection kind message).status ≠ .completed ∧
      (report.terminate stage selection kind message).status ≠ .notStarted := by
  rcases terminate_cases report stage selection kind message with
    ⟨hguard, h⟩ | ⟨_, _, error, skips, h⟩
  · rw [h]
    rcases hguard with ⟨hs, _⟩ | ⟨hs, _⟩ <;> rw [hs] <;> exact ⟨by decide, by decide⟩
  · rw [h]
    simp only [terminalStatus]
    cases kind <;> simp only [ne_eq, reduceCtorEq, not_false_eq_true, and_self]
    split <;> simp

theorem settle_of_terminal {report : ScanReport}
    (h : report.status = .interrupted ∨ report.status = .failed ∨ report.status = .partialScan) :
    report.settle = report := if_pos h

theorem settle_of_open {report : ScanReport}
    (h : report.status = .notStarted ∨ report.status = .completed) :
    report.settle =
      { report with
        status := if report.conclusive then .completed else .partialScan
        message :=
          "Surface analyzed externally observable services and security-related configuration." } := by
  refine if_neg ?_
  rcases h with h | h <;> simp [h]

theorem status_open_or_terminal (report : ScanReport) :
    (report.status = .notStarted ∨ report.status = .completed) ∨
      (report.status = .interrupted ∨ report.status = .failed ∨ report.status = .partialScan) := by
  cases report.status <;> simp

theorem settle_status (report : ScanReport) :
    report.settle.status = .completed ↔
      (report.status = .notStarted ∨ report.status = .completed) ∧ report.conclusive = true := by
  rcases status_open_or_terminal report with h | h
  · rw [settle_of_open h]
    cases report.conclusive <;> simp [h]
  · rw [settle_of_terminal h]
    rcases h with h | h | h <;> simp [h]

theorem settle_started (report : ScanReport) : report.settle.status ≠ .notStarted := by
  rcases status_open_or_terminal report with h | h
  · rw [settle_of_open h]
    simp only
    split <;> simp
  · rw [settle_of_terminal h]
    rcases h with h | h | h <;> simp [h]

theorem settle_frame (report : ScanReport) :
    ∃ status message, report.settle = { report with status := status, message := message } := by
  rcases status_open_or_terminal report with h | h
  · exact ⟨_, _, settle_of_open h⟩
  · exact ⟨report.status, report.message, settle_of_terminal h⟩

end ScanReport

end Surface

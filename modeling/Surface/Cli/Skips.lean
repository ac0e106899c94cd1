import Surface.Completed
import Surface.Intelligence.Phases

/-!
# Surface.Cli.Skips

Every check is listed as skipped at most once, however a scan goes.

* `SkipsWithin`: the invariant: distinct names, all of them from a list.
* `Keeps`: a part of the core stages that keeps it, with one rule for each way to build a part.
* `sourceNames`: the checks a source may list for given arguments, and one lemma for each source.
* `pushed_nodup`: the two writers that do not look at the list only add names that are still free.
* `runScanCommand_skips_nodup`: the names of a report of the scan command are distinct.
-/

namespace Surface

/-- The target is the given one; the names of the skipped checks are distinct and from a list. -/
structure SkipsWithin (target : NormalizedTarget) (names : List String) (report : ScanReport) :
    Prop where
  target_eq : report.target = target
  nodup : (report.skippedChecks.map SkippedCheck.check).Nodup
  within : ∀ check, report.hasSkip check → check ∈ names

namespace SkipsWithin

variable {target : NormalizedTarget} {names : List String} {report : ScanReport}

theorem mono {names' : List String} (h : SkipsWithin target names report)
    (hnames : ∀ check ∈ names, check ∈ names') : SkipsWithin target names' report :=
  ⟨h.target_eq, h.nodup, fun check hcheck => hnames check (h.within check hcheck)⟩

theorem congr {report' : ScanReport} (h : SkipsWithin target names report)
    (htarget : report'.target = report.target)
    (hskips : report'.skippedChecks = report.skippedChecks) : SkipsWithin target names report' := by
  refine ⟨htarget.trans h.target_eq, by rw [hskips]; exact h.nodup, fun check hcheck => ?_⟩
  unfold ScanReport.hasSkip at hcheck
  rw [hskips] at hcheck
  exact h.within check hcheck

/-! ## The writers -/

theorem addSkippedCheck {check : String} (h : SkipsWithin target names report) (reason : String)
    (hcheck : check ∈ names) : SkipsWithin target names (report.addSkippedCheck check reason) := by
  rcases report.addSkippedCheck_cases check reason with ⟨heq, _⟩ | ⟨heq, hnew⟩
  · rw [heq]
    exact h
  · refine ⟨?_, ?_, fun other hother => ?_⟩
    · rw [heq]
      exact h.target_eq
    · rw [heq, List.map_append]
      refine h.nodup.append (List.nodup_singleton check) fun other hother hmem => ?_
      have hsame : other = check := List.mem_singleton.mp hmem
      exact hnew (hsame ▸ hother)
    · rcases (report.addSkippedCheck_hasSkip check reason other).mp hother with hold | rfl
      · exact h.within other hold
      · exact hcheck

theorem recordSkips {checks : List PlannedCheck} {omitted : PlannedCheck → Bool} {reason : String}
    (h : SkipsWithin target names report) (hchecks : ∀ c ∈ checks, c.check ∈ names) :
    SkipsWithin target names (report.recordSkips checks omitted reason) := by
  unfold ScanReport.recordSkips
  induction checks generalizing report with
  | nil => exact h
  | cons c checks ih =>
    obtain ⟨hc, hchecks⟩ := List.forall_mem_cons.mp hchecks
    rw [List.foldl_cons]
    refine ih ?_ hchecks
    split
    · exact h.addSkippedCheck reason hc
    · exact h

theorem terminate {stage : ScanStage} {selection : ScanSelection} {kind : ScanErrorKind}
    {message : String} (h : SkipsWithin target names report)
    (hchecks : ∀ c ∈ plannedChecks selection, c.check ∈ names) :
    SkipsWithin target names (report.terminate stage selection kind message) := by
  unfold ScanReport.terminate
  split
  · exact h
  · split
    · exact h
    · unfold ScanReport.recordUnfinishedChecks
      refine recordSkips ?_ hchecks
      exact h.congr rfl rfl

theorem settle (h : SkipsWithin target names report) : SkipsWithin target names report.settle := by
  obtain ⟨status, message, heq⟩ := report.settle_frame
  rw [heq]
  exact h.congr rfl rfl

theorem downgrade (h : SkipsWithin target names report) :
    SkipsWithin target names report.downgrade := by
  unfold ScanReport.downgrade
  split
  · exact h.congr rfl rfl
  · exact h

theorem names_setSkipReason (check reason : String) (skips : List SkippedCheck) :
    (ScanReport.setSkipReason check reason skips).map SkippedCheck.check =
      if check ∈ skips.map SkippedCheck.check then skips.map SkippedCheck.check
      else skips.map SkippedCheck.check ++ [check] := by
  induction skips with
  | nil => rfl
  | cons skip rest ih =>
    unfold ScanReport.setSkipReason
    by_cases hskip : skip.check = check
    · rw [if_pos hskip, if_pos (by rw [List.map_cons, hskip]; exact List.mem_cons_self)]
      rfl
    · rw [if_neg hskip, List.map_cons, ih, List.map_cons]
      by_cases hrest : check ∈ rest.map SkippedCheck.check
      · rw [if_pos hrest, if_pos (List.mem_cons_of_mem _ hrest)]
      · have hout : check ∉ skip.check :: rest.map SkippedCheck.check := fun hmem =>
          (List.mem_cons.mp hmem).elim (fun heq => hskip heq.symm) hrest
        rw [if_neg hrest, if_neg hout]
        rfl

theorem recordSourceSkip {check : String} (h : SkipsWithin target names report) (reason : String)
    (hcheck : check ∈ names) : SkipsWithin target names (report.recordSourceSkip check reason) := by
  have hnames := names_setSkipReason check reason report.skippedChecks
  have hmap : (report.recordSourceSkip check reason).skippedChecks.map SkippedCheck.check = _ :=
    hnames
  by_cases hold : check ∈ report.skippedChecks.map SkippedCheck.check
  · rw [if_pos hold] at hmap
    refine ⟨h.target_eq, by rw [hmap]; exact h.nodup, fun other hother => h.within other ?_⟩
    unfold ScanReport.hasSkip at hother ⊢
    rwa [hmap] at hother
  · rw [if_neg hold] at hmap
    refine ⟨h.target_eq, ?_, fun other hother => ?_⟩
    · rw [hmap]
      exact h.nodup.append (List.nodup_singleton check) fun other hother hmem =>
        hold (List.mem_singleton.mp hmem ▸ hother)
    · unfold ScanReport.hasSkip at hother
      rw [hmap] at hother
      rcases List.mem_append.mp hother with hother | hother
      · exact h.within other hother
      · rw [List.mem_singleton.mp hother]
        exact hcheck

/-- Entries pushed without a look at the list keep it distinct when their names are new. -/
theorem pushSkips {skips : List SkippedCheck} (h : SkipsWithin target names report)
    (hnodup : (names ++ skips.map SkippedCheck.check).Nodup) :
    SkipsWithin target (names ++ skips.map SkippedCheck.check) (report.pushSkips skips) := by
  rw [List.nodup_append] at hnodup
  obtain ⟨_, hskips, hnew⟩ := hnodup
  refine ⟨h.target_eq, ?_, fun check hcheck => ?_⟩
  · show ((report.skippedChecks ++ skips).map SkippedCheck.check).Nodup
    rw [List.map_append]
    refine h.nodup.append hskips fun check hold hadded => ?_
    exact hnew check (h.within check hold) check hadded rfl
  · unfold ScanReport.hasSkip ScanReport.pushSkips at hcheck
    rw [List.map_append] at hcheck
    rcases List.mem_append.mp hcheck with hcheck | hcheck
    · exact List.mem_append_left _ (h.within check hcheck)
    · exact List.mem_append_right _ hcheck

end SkipsWithin

/-! ## The core stages -/

/-- The checks of the core stages. -/
def coreNames : List String := (plannedChecks .all).map PlannedCheck.check

theorem planned_mem_coreNames (selection : ScanSelection) :
    ∀ c ∈ plannedChecks selection, c.check ∈ coreNames := by
  intro c hc
  have hnames : (plannedChecks selection).map PlannedCheck.check = coreNames := rfl
  rw [← hnames]
  exact List.mem_map_of_mem hc

/-- A part of the core stages that keeps the invariant, at its end and at every early one. -/
def Keeps {α : Type} (target : NormalizedTarget) (f : Flow Run α) : Prop :=
  ∀ run : Run, SkipsWithin target coreNames run.report →
    f.holds (fun _ next => SkipsWithin target coreNames next.report)
      (fun next => SkipsWithin target coreNames next.report) run

section Keeps

variable {α β : Type} {target : NormalizedTarget}

theorem keeps_pure (a : α) : Keeps target (pure a : Flow Run α) := fun _ h => h

theorem Keeps.bind {f : Flow Run α} {g : α → Flow Run β} (hf : Keeps target f)
    (hg : ∀ a, Keeps target (g a)) : Keeps target (f >>= g) := fun run h =>
  Flow.holds_seq (hf run h) fun a next hnext => hg a next hnext

/-- What a part reads of the run does not matter. -/
theorem keeps_read {f : Run → Flow Run α} (hf : ∀ run, Keeps target (f run)) :
    Keeps target (Flow.read >>= f) := fun run h =>
  Flow.holds_bind.mpr (Flow.holds_read.mpr (hf run run h))

theorem keeps_ite {c : Prop} [Decidable c] {f g : Flow Run α} (hf : Keeps target f)
    (hg : Keeps target g) : Keeps target (if c then f else g) := by
  split
  · exact hf
  · exact hg

theorem keeps_update {f : ScanReport → ScanReport}
    (hf : ∀ report, SkipsWithin target coreNames report → SkipsWithin target coreNames (f report)) :
    Keeps target (update f) := fun run h => holds_update.mpr (hf run.report h)

theorem keeps_emit (event : ScanProgress) : Keeps target (emit event) := fun _ h => h

/-- An update of anything but the target and the skipped checks. -/
theorem keeps_frame {f : ScanReport → ScanReport} (htarget : ∀ report, (f report).target = report.target)
    (hskips : ∀ report, (f report).skippedChecks = report.skippedChecks) : Keeps target (update f) :=
  keeps_update fun report h => h.congr (htarget report) (hskips report)

theorem keeps_skip {check : String} (reason : String) (hcheck : check ∈ coreNames) :
    Keeps target (update (·.addSkippedCheck check reason)) :=
  keeps_update fun _ h => h.addSkippedCheck reason hcheck

theorem keeps_halt {selection : ScanSelection} {stage : ScanStage} {kind : ScanErrorKind}
    {message : String} : Keeps target (halt selection stage kind message : Flow Run α) :=
  fun _ h => holds_halt.mpr (h.terminate (planned_mem_coreNames selection))

theorem keeps_deadlineCheck {selection : ScanSelection} {stage : ScanStage} {expired : Bool}
    {message : String} : Keeps target (deadlineCheck selection stage expired message) :=
  keeps_ite (keeps_halt) (keeps_pure _)

theorem keeps_stageCheck {selection : ScanSelection} {stage : ScanStage} {reading : Reading}
    {interrupted expired : String} :
    Keeps target (stageCheck selection stage reading interrupted expired) :=
  keeps_ite (keeps_halt) (keeps_ite (keeps_halt) (keeps_pure _))

theorem keeps_stateCheck {selection : ScanSelection} {stage : ScanStage} {state : CheckState}
    {timedOut interrupted : String} :
    Keeps target (stateCheck selection stage state timedOut interrupted) := by
  cases state with
  | completed => exact keeps_pure _
  | timedOut => exact keeps_halt
  | cancelled => exact keeps_halt

theorem keeps_finish {env : CoreEnv} {selection : ScanSelection}
    {unfinishedStage : Option ScanStage} :
    Keeps target (finish env selection unfinishedStage : Flow Run α) := by
  intro run h
  show SkipsWithin target coreNames (run.report.finishSelectedReport _ _ _)
  unfold ScanReport.finishSelectedReport
  split
  · exact h.terminate (planned_mem_coreNames selection)
  · exact h.settle

end Keeps

section Stages

variable {target : NormalizedTarget} (env : CoreEnv) (selection : ScanSelection)

theorem keeps_preflight : Keeps target (preflight env selection) := by
  refine keeps_read fun run => keeps_ite keeps_halt ?_
  exact .bind (keeps_frame (fun _ => rfl) fun _ => rfl) fun _ => keeps_deadlineCheck

theorem keeps_dnsBaseline : Keeps target (dnsBaseline env selection) := by
  refine .bind (keeps_emit _) fun _ => ?_
  cases env.baseline with
  | cancelled => exact keeps_halt
  | timedOut => exact keeps_halt
  | ready result =>
    cases result with
    | ok baseline => exact .bind (keeps_frame (fun _ => rfl) fun _ => rfl) fun _ => keeps_pure _
    | error message => exact .bind (keeps_frame (fun _ => rfl) fun _ => rfl) fun _ => keeps_pure _

theorem keeps_dnssecValidation : Keeps target (dnssecValidation env selection) := by
  refine keeps_read fun run => keeps_ite (keeps_skip _ (by decide)) ?_
  cases env.dnssec with
  | cancelled => exact .bind (keeps_frame (fun _ => rfl) fun _ => rfl) fun _ => keeps_halt
  | timedOut => exact .bind (keeps_frame (fun _ => rfl) fun _ => rfl) fun _ => keeps_halt
  | ready observation =>
    have hstore : Keeps target (update (·.modifyDns fun dns =>
        { dns with dnssec := some observation })) := keeps_frame (fun _ => rfl) fun _ => rfl
    refine keeps_ite ?_ (keeps_ite ?_ hstore)
    · exact .bind (keeps_skip _ (by decide)) fun _ => hstore
    · exact .bind (keeps_skip _ (by decide)) fun _ => hstore

theorem keeps_recordAxfr (check : AxfrCheck) : Keeps target (update (recordAxfr check)) := by
  refine keeps_frame (fun report => ?_) fun report => ?_
  · unfold recordAxfr
    cases check.observation with
    | none => rfl
    | some observation => dsimp only; split <;> rfl
  · unfold recordAxfr
    cases check.observation with
    | none => rfl
    | some observation => dsimp only; split <;> rfl

theorem keeps_authoritativeAxfr (authority : Option AuthoritativeEvidence) :
    Keeps target (authoritativeAxfr env selection authority) := by
  refine keeps_read fun run => keeps_ite (keeps_skip _ (by decide)) (keeps_ite ?_
    (keeps_skip _ (by decide)))
  refine (keeps_recordAxfr env.axfr).bind fun _ => ?_
  cases env.axfr.state with
  | completed => exact keeps_pure _
  | skipped reason => exact keeps_skip _ (by decide)
  | timedOut => exact keeps_halt
  | cancelled => exact keeps_halt

theorem keeps_wildcardDns : Keeps target (wildcardDns env selection) := by
  refine keeps_read fun run => keeps_ite (keeps_skip _ (by decide))
    (keeps_ite (keeps_skip _ (by decide)) ?_)
  refine .bind (keeps_frame (fun _ => rfl) fun _ => rfl) fun _ => .bind keeps_stateCheck fun _ => ?_
  exact keeps_ite (keeps_skip _ (by decide)) (keeps_pure _)

theorem keeps_danglingCname : Keeps target (danglingCname env selection) := by
  refine keeps_read fun run => keeps_ite (keeps_skip _ (by decide))
    (keeps_ite (keeps_skip _ (by decide)) ?_)
  refine .bind (keeps_frame (fun _ => rfl) fun _ => rfl) fun _ => .bind keeps_stateCheck fun _ => ?_
  exact keeps_ite (keeps_skip _ (by decide)) (keeps_pure _)

theorem keeps_dnsStages : Keeps target (dnsStages env selection) :=
  (keeps_preflight env selection).bind fun _ => (keeps_dnsBaseline env selection).bind fun authority =>
    (keeps_dnssecValidation env selection).bind fun _ =>
      (keeps_authoritativeAxfr env selection authority).bind fun _ =>
        (keeps_wildcardDns env selection).bind fun _ =>
          (keeps_danglingCname env selection).bind fun _ => keeps_read fun _ => keeps_emit _

theorem keeps_portStage : Keeps target (portStage env selection) := by
  refine keeps_ite ?_ keeps_finish
  exact .bind keeps_deadlineCheck fun _ => .bind (keeps_emit _) fun _ =>
    .bind (keeps_frame (fun _ => rfl) fun _ => rfl) fun _ => .bind (keeps_emit _) fun _ =>
      keeps_stageCheck

theorem keeps_truncateEndpoints : Keeps target (update truncateEndpoints) := by
  refine keeps_frame (fun report => ?_) fun report => ?_
  · unfold truncateEndpoints
    split <;> rfl
  · unfold truncateEndpoints
    split <;> rfl

theorem keeps_serviceStage : Keeps target (serviceStage env selection) := by
  refine keeps_ite ?_ keeps_finish
  exact .bind keeps_deadlineCheck fun _ => .bind keeps_truncateEndpoints fun _ =>
    .bind (keeps_emit _) fun _ => .bind (keeps_frame (fun _ => rfl) fun _ => rfl) fun _ =>
      .bind keeps_stageCheck fun _ => .bind (keeps_frame (fun _ => rfl) fun _ => rfl) fun _ =>
        .bind keeps_stateCheck fun _ => keeps_emit _

theorem keeps_httpStage : Keeps target (httpStage env selection) := by
  refine keeps_ite ?_ (keeps_pure _)
  exact .bind keeps_deadlineCheck fun _ => .bind (keeps_emit _) fun _ =>
    .bind (keeps_frame (fun _ => rfl) fun _ => rfl) fun _ => .bind (keeps_emit _) fun _ =>
      keeps_stageCheck

theorem keeps_tlsStage : Keeps target (tlsStage env selection) := by
  refine keeps_read fun run => keeps_ite (keeps_ite (keeps_skip _ (by decide)) ?_) (keeps_pure _)
  exact .bind keeps_deadlineCheck fun _ => .bind (keeps_emit _) fun _ =>
    .bind (keeps_frame (fun _ => rfl) fun _ => rfl) fun _ => .bind (keeps_emit _) fun _ =>
      keeps_stageCheck

theorem keeps_coreStages : Keeps target (coreStages env selection) := by
  refine (keeps_dnsStages env selection).bind fun _ => keeps_read fun run => keeps_ite ?_ ?_
  · exact .bind (keeps_frame (fun _ => rfl) fun _ => rfl) fun _ => keeps_finish
  · exact (keeps_portStage env selection).bind fun _ => (keeps_serviceStage env selection).bind
      fun _ => (keeps_httpStage env selection).bind fun _ => (keeps_tlsStage env selection).bind
        fun _ => keeps_finish

end Stages

theorem skipsWithin_runScanInner (env : CoreEnv) (target : NormalizedTarget)
    (configuration : ScanConfiguration) (selection : ScanSelection) :
    SkipsWithin target coreNames (runScanInner env target configuration selection).report := by
  refine (Flow.final_iff (R := fun run : Run => SkipsWithin target coreNames run.report)).mpr
    (keeps_coreStages env selection _ ?_)
  have hstart : SkipsWithin target coreNames (ScanReport.notStarted env.scannerVersion env.scanId
      env.startedAt target { configuration with authorizationAcknowledged := true }) :=
    ⟨rfl, List.nodup_nil, nofun⟩
  exact hstart.recordSkips fun c hc =>
    planned_mem_coreNames selection c (List.mem_append_right _ hc)

/-! ## The sources -/

/-- The checks that a source may list for given arguments, before the last two writers. -/
def sourceNames (env : CliEnv) (arguments : ScanArgs) (target : NormalizedTarget) : List String :=
  if arguments.intelligenceSelected then
    (arguments.stoppedChecks.filter ScanReport.StoppedCheck.applicable).map
        ScanReport.StoppedCheck.check ++
      ["network_registration", "bgp_origin"] ++
      (if target.hostname.isSome then ["certificate_transparency"] else []) ++
      (if env.reverseNsKey then ["related_domains"] else [])
  else []

section Sources

variable {target : NormalizedTarget} {names : List String} {report : ScanReport}

theorem skipsWithin_stoppedChecks (reason : String) {checks : List ScanReport.StoppedCheck}
    (h : SkipsWithin target names report)
    (hchecks : ∀ c ∈ checks, c.applicable = true → c.check ∈ names) :
    SkipsWithin target names (checks.foldl
      (fun r c => if c.applicable then r.addSkippedCheck c.check reason else r) report) := by
  induction checks generalizing report with
  | nil => exact h
  | cons c checks ih =>
    obtain ⟨hc, hchecks⟩ := List.forall_mem_cons.mp hchecks
    rw [List.foldl_cons]
    refine ih ?_ hchecks
    split
    · rename_i happlicable
      exact h.addSkippedCheck reason (hc happlicable)
    · exact h

theorem skipsWithin_markIntelligenceStopped (cancelled : Bool)
    {checks : List ScanReport.StoppedCheck} (h : SkipsWithin target names report)
    (hchecks : ∀ c ∈ checks, c.applicable = true → c.check ∈ names) :
    SkipsWithin target names (report.markIntelligenceStopped cancelled checks) :=
  skipsWithin_stoppedChecks _ (h.congr rfl rfl) hchecks

theorem skipsWithin_collectSupplied {env : CliEnv} {arguments : ScanArgs} {result : ScanReport}
    (h : SkipsWithin target names report)
    (hnames : arguments.intelligenceSelected = true → ∀ c ∈ arguments.stoppedChecks,
      c.applicable = true → c.check ∈ names)
    (hresult : collectSupplied env arguments report = .ok result) :
    SkipsWithin target names result := by
  unfold collectSupplied at hresult
  split at hresult
  · rename_i hsupplies
    split at hresult
    · cases hresult
      unfold storeSupplied
      split
      · exact h.congr rfl rfl
      · exact h.downgrade.congr rfl rfl
    · cases hresult
    · cases hresult
      have hselected := (Bool.and_eq_true_iff.mp hsupplies).1
      exact skipsWithin_markIntelligenceStopped _ h (hnames hselected)
  · cases hresult
    exact h

theorem skipsWithin_finishLookup {α : Type} {check : String} (incomplete : String)
    (store : IntelligenceObservation → List α → IntelligenceObservation) (address : α → IpAddr)
    (observations : List α) (failures : OrdSet String) (stop : Option LookupStop)
    (h : SkipsWithin target names report) (hcheck : check ∈ names) :
    SkipsWithin target names
      (report.finishLookup check incomplete store address observations failures stop) := by
  obtain ⟨status, message, skips, heq, hskips⟩ := report.finishLookup_eq check incomplete store
    address observations failures stop
  rw [heq]
  rcases hskips with rfl | ⟨reason, rfl⟩
  · exact h.congr rfl rfl
  · exact (h.recordSourceSkip reason hcheck).congr rfl rfl

theorem skipsWithin_networkRegistrations (env : RdapEnv) (h : SkipsWithin target names report)
    (hcheck : "network_registration" ∈ names) :
    SkipsWithin target names (analyzeNetworkRegistrations env report) := by
  unfold analyzeNetworkRegistrations
  dsimp only
  split
  · exact h.recordSourceSkip _ hcheck
  · exact skipsWithin_finishLookup _ _ _ _ _ _ h hcheck

theorem skipsWithin_bgpRoutes (env : BgpEnv) (h : SkipsWithin target names report)
    (hcheck : "bgp_origin" ∈ names) : SkipsWithin target names (analyzeBgpRoutes env report) := by
  have hfinish : ∀ observations failures stop, SkipsWithin target names
      (report.finishBgpRoutes observations failures stop) := fun observations failures stop =>
    skipsWithin_finishLookup _ _ _ _ _ _ h hcheck
  unfold analyzeBgpRoutes
  dsimp only
  split
  · exact h.recordSourceSkip _ hcheck
  · split
    · exact hfinish _ _ _
    · split
      · exact hfinish _ _ _
      · exact hfinish _ _ _
      · exact hfinish _ _ _
      · exact hfinish _ _ _

theorem skipsWithin_collectLookups (env : CliEnv) {arguments : ScanArgs}
    (h : SkipsWithin target names report)
    (hnames : arguments.intelligenceSelected = true →
      "network_registration" ∈ names ∧ "bgp_origin" ∈ names) :
    SkipsWithin target names (collectLookups env arguments report) := by
  unfold collectLookups
  split
  · rename_i hselected
    obtain ⟨hregistration, horigin⟩ := hnames hselected
    exact skipsWithin_bgpRoutes env.bgp
      (skipsWithin_networkRegistrations env.rdap h hregistration) horigin
  · exact h

theorem skipsWithin_storePassive {α : Type} {check : String} (complete : α → Bool)
    (store : IntelligenceObservation → α → IntelligenceObservation) (result : Except String α)
    (h : SkipsWithin target names report) (hcheck : check ∈ names) :
    SkipsWithin target names (storePassive report check complete store result) := by
  cases result with
  | error reason =>
    refine SkipsWithin.downgrade (SkipsWithin.addSkippedCheck ?_ reason hcheck)
    exact h.congr rfl rfl
  | ok observation =>
    simp only [storePassive]
    split
    · exact h.congr rfl rfl
    · refine SkipsWithin.downgrade ?_
      exact h.congr rfl rfl

theorem skipsWithin_collectPassive (env : CliEnv) {arguments : ScanArgs}
    (h : SkipsWithin target names report)
    (hcertificates : arguments.intelligenceSelected = true → target.hostname.isSome = true →
      "certificate_transparency" ∈ names)
    (hrelated : arguments.intelligenceSelected = true → env.reverseNsKey = true →
      "related_domains" ∈ names) :
    SkipsWithin target names (collectPassive env arguments report) := by
  have hfound : SkipsWithin target names (if ctApplicable arguments report then
      storeCertificateTransparency report env.certificateTransparency else report) := by
    split
    · rename_i happlicable
      obtain ⟨hselected, hhostname⟩ := Bool.and_eq_true_iff.mp happlicable
      rw [h.target_eq] at hhostname
      exact skipsWithin_storePassive _ _ _ h (hcertificates hselected hhostname)
    · exact h
  unfold collectPassive
  dsimp only
  split
  · rename_i hconfigured
    obtain ⟨hselected, hkey⟩ := Bool.and_eq_true_iff.mp hconfigured
    exact skipsWithin_storePassive _ _ _ hfound (hrelated hselected hkey)
  · exact hfound

theorem skipsWithin_finalize (generateFindings : FindingGenerator) (clock : FinalizeClock)
    {run : Run} (h : SkipsWithin target names run.report)
    (hnames : ∀ check ∈ coreNames, check ∈ names) :
    SkipsWithin target names (finalize generateFindings clock run).report := by
  have hplanned : ∀ c ∈ plannedChecks .all, c.check ∈ names := fun c hc =>
    hnames c.check (planned_mem_coreNames .all c hc)
  have hcheckpoint : ∀ {report : ScanReport} (reading : Reading) (interrupted expired : String)
      {otherwise : ScanReport → ScanReport}, SkipsWithin target names report →
      SkipsWithin target names (otherwise report) →
      SkipsWithin target names
        (report.checkpoint reading .findings .all interrupted expired otherwise) := by
    intro report reading interrupted expired otherwise hreport hother
    unfold ScanReport.checkpoint
    split
    · exact hreport.terminate hplanned
    · split
      · exact hreport.terminate hplanned
      · exact hother
  unfold finalize
  split
  · exact h
  · split
    · exact h.congr rfl rfl
    · have hbefore := hcheckpoint clock.beforeFindings
        "scan interrupted during findings finalization"
        "global timeout expired during findings finalization" h h.settle
      refine SkipsWithin.congr (hcheckpoint clock.afterFindings _ _ ?_ ?_) rfl rfl
      · exact hbefore.congr rfl rfl
      · exact hbefore.congr rfl rfl

end Sources

/-! ## The command -/

section Command

variable (env : CliEnv) (arguments : ScanArgs)

theorem stopped_mem_sourceNames (target : NormalizedTarget)
    (hselected : arguments.intelligenceSelected = true) :
    ∀ c ∈ arguments.stoppedChecks, c.applicable = true →
      c.check ∈ coreNames ++ sourceNames env arguments target := by
  intro c hc happlicable
  have hfilter : c ∈ arguments.stoppedChecks.filter ScanReport.StoppedCheck.applicable :=
    List.mem_filter.mpr ⟨hc, happlicable⟩
  have hmem := List.mem_map_of_mem (f := ScanReport.StoppedCheck.check) hfilter
  unfold sourceNames
  rw [if_pos hselected]
  refine List.mem_append_right _ (List.mem_append_left _ (List.mem_append_left _ ?_))
  exact List.mem_append_left _ hmem

theorem lookups_mem_sourceNames (target : NormalizedTarget)
    (hselected : arguments.intelligenceSelected = true) :
    "network_registration" ∈ coreNames ++ sourceNames env arguments target ∧
      "bgp_origin" ∈ coreNames ++ sourceNames env arguments target := by
  unfold sourceNames
  rw [if_pos hselected]
  simp

theorem certificates_mem_sourceNames (target : NormalizedTarget)
    (hselected : arguments.intelligenceSelected = true) (hhostname : target.hostname.isSome = true) :
    "certificate_transparency" ∈ coreNames ++ sourceNames env arguments target := by
  unfold sourceNames
  rw [if_pos hselected, if_pos hhostname]
  simp

theorem related_mem_sourceNames (target : NormalizedTarget)
    (hselected : arguments.intelligenceSelected = true) (hkey : env.reverseNsKey = true) :
    "related_domains" ∈ coreNames ++ sourceNames env arguments target := by
  unfold sourceNames
  rw [if_pos hselected, if_pos hkey]
  simp

/-- The last two writers do not look at the list: what they add is what no source could have. -/
theorem pushed_nodup {target : NormalizedTarget} {report : ScanReport}
    (htarget : report.target = target) :
    (coreNames ++ sourceNames env arguments target ++
        (certificateTransparencySkips arguments report).map SkippedCheck.check ++
        (intelligenceSkips env arguments).map SkippedCheck.check).Nodup := by
  unfold sourceNames certificateTransparencySkips ctApplicable intelligenceSkips relatedConfigured
    ScanArgs.stoppedChecks
  rw [htarget, ← Option.not_isSome]
  cases arguments.intelligenceSelected with
  | false =>
    simp only [Bool.false_and, Bool.false_eq_true, if_false, Bool.not_false, if_true]
    decide
  | true =>
    cases target.hostname.isSome <;> cases env.reverseNsKey <;>
      cases arguments.subdomains.isEmpty <;> cases arguments.dkimSelectors.isEmpty <;>
        cases arguments.intelligenceBundle.isSome <;> decide

/-- However a scan of the command goes, no check is listed as skipped twice. -/
theorem runScanCommand_skips_nodup (generateFindings : FindingGenerator)
    (target : NormalizedTarget) (configuration : ScanConfiguration) (report : ScanReport)
    (hreport : runScanCommand env arguments generateFindings target configuration = .ok report) :
    (report.skippedChecks.map SkippedCheck.check).Nodup := by
  unfold runScanCommand at hreport
  split at hreport
  · cases hreport
  · split at hreport
    · cases hreport
    · have hcore : SkipsWithin target (coreNames ++ sourceNames env arguments target)
          (runScanInner env.core target configuration arguments.selection).report :=
        (skipsWithin_runScanInner ..).mono fun _ hcheck => List.mem_append_left _ hcheck
      split at hreport
      · cases hreport
      · rename_i supplied hsupplied
        cases hreport
        have hstored := skipsWithin_collectSupplied hcore
          (stopped_mem_sourceNames env arguments target) hsupplied
        have hlookups := skipsWithin_collectLookups env hstored
          (lookups_mem_sourceNames env arguments target)
        have hpassive := skipsWithin_collectPassive env hlookups
          (certificates_mem_sourceNames env arguments target)
          (related_mem_sourceNames env arguments target)
        have hinterrupt : SkipsWithin target (coreNames ++ sourceNames env arguments target)
            ((collectPassive env arguments
              (collectLookups env arguments supplied)).interrupt env.cancelled) := by
          unfold ScanReport.interrupt
          split
          · exact hpassive.congr rfl rfl
          · exact hpassive
        have hpushed := pushed_nodup env arguments hinterrupt.target_eq
        have hcertificates := hinterrupt.pushSkips (List.nodup_append.mp hpushed).1
        refine (skipsWithin_finalize generateFindings env.clock (hcertificates.pushSkips hpushed)
          fun check hcheck => ?_).nodup
        exact List.mem_append_left _ (List.mem_append_left _ (List.mem_append_left _ hcheck))

end Command

/-- The supplied intelligence is stopped, and the related domains end with an error. -/
def stoppedEnv : CliEnv :=
  { intelligenceEnv with supplied := .timedOut, reverseNsKey := true }

theorem runScanCommand_skips_nodup_stopped :
    ∃ report, runScanCommand stoppedEnv ⟨[.dns, .intelligence], ["a.example.com"], [], none⟩
        (fun _ _ _ _ _ _ _ => []) fixtureTarget fixtureConfiguration = .ok report ∧
      (report.skippedChecks.map SkippedCheck.check).Nodup := by
  refine ⟨_, rfl, ?_⟩
  exact runScanCommand_skips_nodup stoppedEnv ⟨[.dns, .intelligence], ["a.example.com"], [], none⟩
    (fun _ _ _ _ _ _ _ => []) fixtureTarget fixtureConfiguration _ rfl

end Surface

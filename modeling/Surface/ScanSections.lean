import Surface.ActiveScan

/-!
# Surface.ScanSections

What the active stages leave in a report, how far they came, and what is announced of them.

* `Sections`: the sections of the active stages, with the completions announced.
* `IgnoresLifecycle`: a view of the run that no termination changes.
* `Covers`: how far the active stages came.
* `runScanInner_covers`: every run came that far.
* `runScanSelected_announcements`: every completion announced counts what the final report has.
-/

namespace Surface

structure Sections where
  hosts : List HostObservation
  services : List ServiceObservation
  http : List HttpObservation
  tls : List TlsObservation
  completions : List (ScanStage × Nat)

def completion? : ScanProgress → Option (ScanStage × Nat)
  | .started _ => none
  | .completed stage observations => some (stage, observations)

def Run.completions (run : Run) : List (ScanStage × Nat) := run.progress.filterMap completion?

def Run.sections (run : Run) : Sections :=
  ⟨run.report.hosts, run.report.services, run.report.http, run.report.tls, run.completions⟩

/-- What the active stages build on. -/
def Run.basis (run : Run) : NormalizedTarget × Option DnsObservation :=
  (run.report.target, run.report.dns)

/-! ## What the lifecycle leaves alone -/

/-- The view sees neither the status of the report, nor its errors and skips, nor the start of a
stage. -/
structure IgnoresLifecycle {τ : Type*} (view : Run → τ) : Prop where
  report : ∀ run status message errors skips, view { run with
    report := { run.report with
      status := status
      message := message
      errors := errors
      skippedChecks := skips } } = view run
  started : ∀ run stage, view (run.emit (.started stage)) = view run

theorem completions_started (run : Run) (stage : ScanStage) :
    (run.emit (.started stage)).completions = run.completions := by
  simp [Run.completions, Run.emit, completion?]

theorem completions_completed (run : Run) (stage : ScanStage) (observations : Nat) :
    (run.emit (.completed stage observations)).completions =
      run.completions ++ [(stage, observations)] := by
  simp [Run.completions, Run.emit, completion?]

theorem sections_ignoresLifecycle : IgnoresLifecycle Run.sections where
  report _ _ _ _ _ := rfl
  started run stage := by
    unfold Run.sections
    rw [completions_started]
    rfl

theorem basis_ignoresLifecycle : IgnoresLifecycle Run.basis :=
  ⟨fun _ _ _ _ _ => rfl, fun _ _ => rfl⟩

theorem update_preserves {τ : Type*} {view : Run → τ} {f : ScanReport → ScanReport}
    (h : ∀ run : Run, view (run.update f) = view run) : (update f).Preserves view :=
  Flow.preserves_modify h

section Lifecycle

variable {τ : Type*} {view : Run → τ} (h : IgnoresLifecycle view)
include h

theorem view_terminate (run : Run) (stage : ScanStage) (selection : ScanSelection)
    (kind : ScanErrorKind) (message : String) :
    view (run.update (·.terminate stage selection kind message)) = view run := by
  rcases run.report.terminate_cases stage selection kind message with
    ⟨_, hsame⟩ | ⟨_, _, _, _, hend⟩
  · exact congrArg (fun report => view { run with report := report }) hsame
  · exact (congrArg (fun report => view { run with report := report }) hend).trans (h.report ..)

theorem view_settle (run : Run) : view (run.update ScanReport.settle) = view run := by
  obtain ⟨status, message, hsettle⟩ := run.report.settle_frame
  exact (congrArg (fun report => view { run with report := report }) hsettle).trans
    (h.report run status message run.report.errors run.report.skippedChecks)

theorem view_addSkippedCheck (run : Run) (check reason : String) :
    view (run.update (·.addSkippedCheck check reason)) = view run := by
  obtain ⟨skips, hskips⟩ := run.report.addSkippedCheck_frame check reason
  exact (congrArg (fun report => view { run with report := report }) hskips).trans
    (h.report run run.report.status run.report.message run.report.errors
      (run.report.skippedChecks ++ skips))

theorem view_addErrors (run : Run) (errors : List ScanError) :
    view (run.update (·.addErrors errors)) = view run :=
  h.report run run.report.status run.report.message (run.report.errors ++ errors)
    run.report.skippedChecks

theorem view_finish (run : Run) (cancelled : Bool) (selection : ScanSelection)
    (unfinishedStage : Option ScanStage) :
    view (run.update (·.finishSelectedReport cancelled selection unfinishedStage)) = view run := by
  cases cancelled with
  | true => exact view_terminate h run _ _ _ _
  | false => exact view_settle h run

theorem view_truncateEndpoints (run : Run) : view (run.update truncateEndpoints) = view run := by
  by_cases hlimit : maxActiveEndpoints < run.report.openEndpointCount
  · have hsame : run.update truncateEndpoints = run.update (·.addErrors _) :=
      congrArg (fun report => { run with report := report }) (if_pos hlimit)
    rw [hsame]
    exact view_addErrors h run _
  · have hsame : run.update truncateEndpoints = run :=
      congrArg (fun report => { run with report := report }) (if_neg hlimit)
    rw [hsame]

/-! ### Steps -/

theorem halt_preserves {α : Type} (selection : ScanSelection) (stage : ScanStage)
    (kind : ScanErrorKind) (message : String) :
    (halt selection stage kind message : Flow Run α).Preserves view :=
  Flow.preserves_stop fun run => view_terminate h run stage selection kind message

theorem deadlineCheck_preserves (selection : ScanSelection) (stage : ScanStage) (expired : Bool)
    (message : String) : (deadlineCheck selection stage expired message).Preserves view :=
  .ite (halt_preserves h _ _ _ _) (Flow.preserves_pure _)

theorem stageCheck_preserves (selection : ScanSelection) (stage : ScanStage) (reading : Reading)
    (interrupted expired : String) :
    (stageCheck selection stage reading interrupted expired).Preserves view :=
  .ite (halt_preserves h _ _ _ _) (.ite (halt_preserves h _ _ _ _) (Flow.preserves_pure _))

theorem stateCheck_preserves (selection : ScanSelection) (stage : ScanStage) (state : CheckState)
    (timedOut interrupted : String) :
    (stateCheck selection stage state timedOut interrupted).Preserves view := by
  cases state with
  | completed => exact Flow.preserves_pure _
  | timedOut => exact halt_preserves h _ _ _ _
  | cancelled => exact halt_preserves h _ _ _ _

theorem finish_preserves {α : Type} (env : CoreEnv) (selection : ScanSelection)
    (unfinishedStage : Option ScanStage) :
    (finish env selection unfinishedStage : Flow Run α).Preserves view :=
  Flow.preserves_stop fun run => view_finish h run ..

theorem skip_preserves (check reason : String) :
    (update (·.addSkippedCheck check reason)).Preserves view :=
  update_preserves fun run => view_addSkippedCheck h run check reason

theorem started_preserves (stage : ScanStage) : (emit (.started stage)).Preserves view :=
  Flow.preserves_modify fun run => h.started run stage

end Lifecycle

/-! ## DNS -/

section Dns

variable (env : CoreEnv) (selection : ScanSelection)

theorem modifyDns_preserves (f : DnsObservation → DnsObservation) :
    (update (·.modifyDns f)).Preserves Run.sections := update_preserves fun _ => rfl

theorem recordAxfr_sections (check : AxfrCheck) (run : Run) :
    (run.update (recordAxfr check)).sections = run.sections := by
  unfold recordAxfr
  cases check.observation with
  | none => rfl
  | some observation =>
    dsimp only [Run.update]
    split <;> rfl

theorem preflight_preserves : (preflight env selection).Preserves Run.sections := by
  refine Flow.preserves_read.bind fun run => ?_
  refine .ite (halt_preserves sections_ignoresLifecycle _ _ _ _) ?_
  refine .bind (update_preserves fun _ => rfl) fun _ => ?_
  exact deadlineCheck_preserves sections_ignoresLifecycle _ _ _ _

theorem dnsBaseline_preserves : (dnsBaseline env selection).Preserves Run.sections := by
  refine (started_preserves sections_ignoresLifecycle _).bind fun _ => ?_
  cases env.baseline with
  | cancelled => exact halt_preserves sections_ignoresLifecycle _ _ _ _
  | timedOut => exact halt_preserves sections_ignoresLifecycle _ _ _ _
  | ready result =>
    cases result with
    | error message => exact .bind (update_preserves fun _ => rfl) fun _ => Flow.preserves_pure _
    | ok baseline => exact .bind (update_preserves fun _ => rfl) fun _ => Flow.preserves_pure _

theorem dnssecValidation_preserves : (dnssecValidation env selection).Preserves Run.sections := by
  have hskip := fun reason =>
    skip_preserves sections_ignoresLifecycle "dnssec_validation" reason
  refine Flow.preserves_read.bind fun run => .ite (hskip _) ?_
  cases env.dnssec with
  | cancelled =>
    exact (modifyDns_preserves _).bind fun _ => halt_preserves sections_ignoresLifecycle _ _ _ _
  | timedOut =>
    exact (modifyDns_preserves _).bind fun _ => halt_preserves sections_ignoresLifecycle _ _ _ _
  | ready observation =>
    refine .ite ((hskip _).bind fun _ => modifyDns_preserves _) ?_
    exact .ite ((hskip _).bind fun _ => modifyDns_preserves _) (modifyDns_preserves _)

theorem authoritativeAxfr_preserves (authority : Option AuthoritativeEvidence) :
    (authoritativeAxfr env selection authority).Preserves Run.sections := by
  have hskip := fun reason =>
    skip_preserves sections_ignoresLifecycle "authoritative_axfr" reason
  refine Flow.preserves_read.bind fun run => .ite (hskip _) (.ite ?_ (hskip _))
  refine .bind (update_preserves fun run => recordAxfr_sections env.axfr run) fun _ => ?_
  cases env.axfr.state with
  | completed => exact Flow.preserves_pure _
  | skipped reason => exact hskip _
  | timedOut => exact halt_preserves sections_ignoresLifecycle _ _ _ _
  | cancelled => exact halt_preserves sections_ignoresLifecycle _ _ _ _

theorem wildcardDns_preserves : (wildcardDns env selection).Preserves Run.sections := by
  have hskip := fun reason => skip_preserves sections_ignoresLifecycle "wildcard_dns" reason
  refine Flow.preserves_read.bind fun run => .ite (hskip _) (.ite (hskip _) ?_)
  refine (modifyDns_preserves _).bind fun _ => ?_
  refine (stateCheck_preserves sections_ignoresLifecycle _ _ _ _ _).bind fun _ => ?_
  exact .ite (hskip _) (Flow.preserves_pure _)

theorem danglingCname_preserves : (danglingCname env selection).Preserves Run.sections := by
  have hskip := fun reason => skip_preserves sections_ignoresLifecycle "dangling_cname" reason
  refine Flow.preserves_read.bind fun run => .ite (hskip _) (.ite (hskip _) ?_)
  refine (modifyDns_preserves _).bind fun _ => ?_
  refine (stateCheck_preserves sections_ignoresLifecycle _ _ _ _ _).bind fun _ => ?_
  exact .ite (hskip _) (Flow.preserves_pure _)

theorem sections_completed (run : Run) (stage : ScanStage) (observations : Nat) :
    (run.emit (.completed stage observations)).sections = { run.sections with
      completions := run.sections.completions ++ [(stage, observations)] } := by
  unfold Run.sections
  rw [completions_completed]
  rfl

def Sections.empty : Sections := ⟨[], [], [], [], []⟩

/-- Only the end of the DNS stages is announced. -/
theorem dnsStages_sections {run : Run} (h : run.sections = .empty) :
    (dnsStages env selection).holds
      (fun _ run' => run'.sections =
        { Sections.empty with completions := [(.dns, run'.report.scanAddresses.length)] })
      (fun run' => run'.sections = .empty) run := by
  have hstep : ∀ {α : Type} {f : Flow Run α} {run : Run}, f.Preserves Run.sections →
      run.sections = .empty →
      f.holds (fun _ run' => run'.sections = .empty) (fun run' => run'.sections = .empty) run :=
    fun hf h => Flow.holds_mono (hf _) (fun _ _ h' => h'.trans h) (fun _ h' => h'.trans h)
  unfold dnsStages
  refine Flow.holds_seq (hstep (preflight_preserves env selection) h) fun _ run h => ?_
  refine Flow.holds_seq (hstep (dnsBaseline_preserves env selection) h) fun _ run h => ?_
  refine Flow.holds_seq (hstep (dnssecValidation_preserves env selection) h) fun _ run h => ?_
  refine Flow.holds_seq (hstep (authoritativeAxfr_preserves env selection _) h) fun _ run h => ?_
  refine Flow.holds_seq (hstep (wildcardDns_preserves env selection) h) fun _ run h => ?_
  refine Flow.holds_seq (hstep (danglingCname_preserves env selection) h) fun _ run h => ?_
  show (run.emit _).sections = _
  rw [sections_completed, h]
  rfl

end Dns

/-! ## The active stages -/

/-- A section and its announcement: neither of them, or both and the count is right. -/
inductive Announced {α : Type*} (stage : ScanStage) (values : List α) :
    List α → List (ScanStage × Nat) → Prop where
  | omitted : Announced stage values [] []
  | listed : Announced stage values values [(stage, values.length)]

section Active

variable (env : CoreEnv) (target : NormalizedTarget)

def CoreEnv.hosts : List HostObservation := mergeHosts env.tcpHosts env.udpHosts

/-- How far the active stages came. -/
inductive Covers : Sections → Prop where
  | untouched : Covers ⟨[], [], [], [], [(.dns, env.addresses.length)]⟩
  | scanned : Covers ⟨env.hosts, [], [], [],
      [(.dns, env.addresses.length), (.ports, env.hosts.length)]⟩
  | detected : Covers ⟨env.hosts, env.services, [], [],
      [(.dns, env.addresses.length), (.ports, env.hosts.length)]⟩
  | enriched : Covers ⟨env.hosts, env.sshServices, [], [],
      [(.dns, env.addresses.length), (.ports, env.hosts.length)]⟩
  | analyzed {http : List HttpObservation} {tls : List TlsObservation}
      {httpEnd tlsEnd : List (ScanStage × Nat)} (hhttp : Announced .http env.http http httpEnd)
      (htls : Announced .tls env.tls tls tlsEnd) (hhost : tls ≠ [] → target.hostless = false) :
      Covers ⟨env.hosts, env.sshServices, http, tls,
        [(.dns, env.addresses.length), (.ports, env.hosts.length),
          (.services, env.sshServices.length)] ++ httpEnd ++ tlsEnd⟩

variable {env target} {selection : ScanSelection}

/-- A step that keeps the sections keeps what they cover. -/
theorem holds_of_preserves {α : Type} {f : Flow Run α} {run : Run} {view : Sections}
    (hf : f.Preserves Run.sections) (h : run.sections = view) (hcovers : Covers env target view) :
    f.holds (fun _ run' => run'.sections = view) (fun run' => Covers env target run'.sections)
      run :=
  Flow.holds_mono (hf run) (fun _ _ h' => h'.trans h) fun _ h' => (h'.trans h).symm ▸ hcovers

theorem holds_finish {run : Run} {view : Sections} (unfinishedStage : Option ScanStage)
    (h : run.sections = view) (hcovers : Covers env target view) {Q : Unit → Run → Prop} :
    (finish env selection unfinishedStage : Flow Run Unit).holds Q
      (fun run' => Covers env target run'.sections) run := by
  show Covers env target (run.update _).sections
  rw [view_finish sections_ignoresLifecycle, h]
  exact hcovers

theorem portStage_sections {run : Run}
    (h : run.sections = ⟨[], [], [], [], [(.dns, env.addresses.length)]⟩) :
    (portStage env selection).holds
      (fun _ run' => run'.sections = ⟨env.hosts, [], [], [],
        [(.dns, env.addresses.length), (.ports, env.hosts.length)]⟩)
      (fun run' => Covers env target run'.sections) run := by
  unfold portStage
  split
  · refine Flow.holds_seq (holds_of_preserves
      (deadlineCheck_preserves sections_ignoresLifecycle _ _ _ _) h .untouched) fun _ run h => ?_
    simp only [Flow.holds_bind, holds_emit, holds_update]
    refine holds_of_preserves (stageCheck_preserves sections_ignoresLifecycle _ _ _ _ _) ?_ .scanned
    have hstart := (sections_ignoresLifecycle.started run .ports).trans h
    have hhosts : ((run.emit (.started .ports)).update
        ({ · with hosts := mergeHosts env.tcpHosts env.udpHosts })).sections =
          { (run.emit (.started .ports)).sections with hosts := env.hosts } := rfl
    rw [sections_completed, hhosts, hstart]
    rfl
  · exact holds_finish none h .untouched

theorem serviceStage_sections {run : Run}
    (h : run.sections = ⟨env.hosts, [], [], [],
      [(.dns, env.addresses.length), (.ports, env.hosts.length)]⟩) :
    (serviceStage env selection).holds
      (fun _ run' => run'.sections = ⟨env.hosts, env.sshServices, [], [],
        [(.dns, env.addresses.length), (.ports, env.hosts.length),
          (.services, env.sshServices.length)]⟩)
      (fun run' => Covers env target run'.sections) run := by
  unfold serviceStage
  split
  · refine Flow.holds_seq (holds_of_preserves
      (deadlineCheck_preserves sections_ignoresLifecycle _ _ _ _) h .scanned) fun _ run h => ?_
    simp only [Flow.holds_bind, holds_emit, holds_update]
    have hstart : ((run.update truncateEndpoints).emit (.started .services)).sections =
        run.sections := (sections_ignoresLifecycle.started _ .services).trans
      (view_truncateEndpoints sections_ignoresLifecycle run)
    rw [h] at hstart
    generalize (run.update truncateEndpoints).emit (.started .services) = run at hstart
    have hdetected : (run.update ({ · with services := env.services })).sections =
        { run.sections with services := env.services } := rfl
    rw [hstart] at hdetected
    refine Flow.holds_mono (holds_of_preserves
      (stageCheck_preserves sections_ignoresLifecycle _ _ _ _ _) hdetected .detected)
      (fun _ run h => ?_) fun _ h => h
    have henriched : (run.update ({ · with services := env.sshServices })).sections =
        { run.sections with services := env.sshServices } := rfl
    rw [h] at henriched
    refine Flow.holds_mono (holds_of_preserves
      (stateCheck_preserves sections_ignoresLifecycle _ _ _ _ _) henriched .enriched)
      (fun _ run h => ?_) fun _ h => h
    rw [sections_completed, h]
    rfl
  · exact holds_finish none h .scanned

/-- The sections behind the services, with what HTTP and TLS left. -/
def CoreEnv.analyzedSections (env : CoreEnv) (http : List HttpObservation)
    (tls : List TlsObservation) (httpEnd tlsEnd : List (ScanStage × Nat)) : Sections :=
  ⟨env.hosts, env.sshServices, http, tls, [(.dns, env.addresses.length),
    (.ports, env.hosts.length), (.services, env.sshServices.length)] ++ httpEnd ++ tlsEnd⟩

theorem covers_http {http : List HttpObservation} {httpEnd : List (ScanStage × Nat)}
    (h : Announced .http env.http http httpEnd) :
    Covers env target (env.analyzedSections http [] httpEnd []) :=
  .analyzed h .omitted fun hne => absurd rfl hne

theorem httpStage_sections {run : Run} (h : run.sections = env.analyzedSections [] [] [] []) :
    (httpStage env selection).holds
      (fun _ run' => ∃ http httpEnd, Announced .http env.http http httpEnd ∧
        run'.sections = env.analyzedSections http [] httpEnd [])
      (fun run' => Covers env target run'.sections) run := by
  unfold httpStage
  split
  · refine Flow.holds_seq (holds_of_preserves
      (deadlineCheck_preserves sections_ignoresLifecycle _ _ _ _) h (covers_http .omitted))
      fun _ run h => ?_
    simp only [Flow.holds_bind, holds_emit, holds_update]
    have hstart := (sections_ignoresLifecycle.started run .http).trans h
    have hhttp : ((run.emit (.started .http)).update ({ · with http := env.http })).sections =
        { (run.emit (.started .http)).sections with http := env.http } := rfl
    refine Flow.holds_mono (holds_of_preserves (stageCheck_preserves sections_ignoresLifecycle
      _ _ _ _ _) ?_ (covers_http .listed)) (fun _ run h => ⟨_, _, .listed, h⟩) fun _ h => h
    rw [sections_completed, hhttp, hstart]
    rfl
  · exact ⟨_, _, .omitted, h⟩

theorem tlsStage_sections {run : Run} {http : List HttpObservation}
    {httpEnd : List (ScanStage × Nat)} (hhttp : Announced .http env.http http httpEnd)
    (htarget : run.report.target = target)
    (h : run.sections = env.analyzedSections http [] httpEnd []) :
    (tlsStage env selection).holds (fun _ run' => Covers env target run'.sections)
      (fun run' => Covers env target run'.sections) run := by
  have hcovers : ∀ {run : Run}, run.sections = env.analyzedSections http [] httpEnd [] →
      Covers env target run.sections := fun h => h.symm ▸ covers_http hhttp
  unfold tlsStage
  simp only [Flow.holds_bind, Flow.holds_read, Flow.holds_ite, holds_update, htarget]
  split
  · split
    · exact hcovers ((view_addSkippedCheck sections_ignoresLifecycle run _ _).trans h)
    · rename_i hhost
      refine Flow.holds_mono (holds_of_preserves (deadlineCheck_preserves
        sections_ignoresLifecycle _ _ _ _) h (covers_http hhttp)) (fun _ run h => ?_) fun _ h => h
      simp only [holds_emit]
      have hstart := (sections_ignoresLifecycle.started run .tls).trans h
      have htls : ((run.emit (.started .tls)).update ({ · with tls := env.tls })).sections =
          { (run.emit (.started .tls)).sections with tls := env.tls } := rfl
      have hanalyzed : Covers env target
          (env.analyzedSections http env.tls httpEnd [(.tls, env.tls.length)]) :=
        .analyzed hhttp .listed fun _ => Bool.not_eq_true _ ▸ hhost
      refine Flow.holds_mono (holds_of_preserves (stageCheck_preserves sections_ignoresLifecycle
        _ _ _ _ _) ?_ hanalyzed) (fun _ run h => h.symm ▸ hanalyzed) fun _ h => h
      rw [sections_completed, htls, hstart]
      simp [CoreEnv.analyzedSections]
  · exact hcovers h

/-! ### What the active stages leave alone -/

section Basis

variable (env selection)

theorem report_preserves {f : ScanReport → ScanReport}
    (htarget : ∀ report, (f report).target = report.target)
    (hdns : ∀ report, (f report).dns = report.dns) : (update f).Preserves Run.basis :=
  update_preserves fun run => Prod.ext (htarget run.report) (hdns run.report)

theorem emit_basis (event : ScanProgress) : (emit event).Preserves Run.basis :=
  Flow.preserves_modify fun _ => rfl

theorem portStage_basis : (portStage env selection).Preserves Run.basis := by
  refine .ite ?_ (finish_preserves basis_ignoresLifecycle _ _ _)
  refine (deadlineCheck_preserves basis_ignoresLifecycle _ _ _ _).bind fun _ => ?_
  refine (emit_basis _).bind fun _ => ?_
  refine .bind (report_preserves (fun _ => rfl) fun _ => rfl) fun _ => ?_
  refine (emit_basis _).bind fun _ => ?_
  exact stageCheck_preserves basis_ignoresLifecycle _ _ _ _ _

theorem serviceStage_basis : (serviceStage env selection).Preserves Run.basis := by
  refine .ite ?_ (finish_preserves basis_ignoresLifecycle _ _ _)
  refine (deadlineCheck_preserves basis_ignoresLifecycle _ _ _ _).bind fun _ => ?_
  refine .bind (update_preserves fun run => view_truncateEndpoints basis_ignoresLifecycle run)
    fun _ => ?_
  refine (emit_basis _).bind fun _ => ?_
  refine .bind (report_preserves (fun _ => rfl) fun _ => rfl) fun _ => ?_
  refine (stageCheck_preserves basis_ignoresLifecycle _ _ _ _ _).bind fun _ => ?_
  refine .bind (report_preserves (fun _ => rfl) fun _ => rfl) fun _ => ?_
  refine (stateCheck_preserves basis_ignoresLifecycle _ _ _ _ _).bind fun _ => ?_
  exact emit_basis _

theorem httpStage_basis : (httpStage env selection).Preserves Run.basis := by
  refine .ite ?_ (Flow.preserves_pure _)
  refine (deadlineCheck_preserves basis_ignoresLifecycle _ _ _ _).bind fun _ => ?_
  refine (emit_basis _).bind fun _ => ?_
  refine .bind (report_preserves (fun _ => rfl) fun _ => rfl) fun _ => ?_
  refine (emit_basis _).bind fun _ => ?_
  exact stageCheck_preserves basis_ignoresLifecycle _ _ _ _ _

theorem tlsStage_basis : (tlsStage env selection).Preserves Run.basis := by
  refine Flow.preserves_read.bind fun run => .ite (.ite ?_ ?_) (Flow.preserves_pure _)
  · exact skip_preserves basis_ignoresLifecycle _ _
  · refine (deadlineCheck_preserves basis_ignoresLifecycle _ _ _ _).bind fun _ => ?_
    refine (emit_basis _).bind fun _ => ?_
    refine .bind (report_preserves (fun _ => rfl) fun _ => rfl) fun _ => ?_
    refine (emit_basis _).bind fun _ => ?_
    exact stageCheck_preserves basis_ignoresLifecycle _ _ _ _ _

end Basis

theorem activeStages_sections {run : Run} (htarget : run.report.target = target)
    (h : run.sections = ⟨[], [], [], [], [(.dns, env.addresses.length)]⟩) :
    (activeStages env selection).holds
      (fun _ run' => Covers env target run'.sections ∧ run'.basis = run.basis)
      (fun run' => Covers env target run'.sections ∧ run'.basis = run.basis) run := by
  have hbasis : (activeStages env selection).Preserves Run.basis := by
    refine (portStage_basis env selection).bind fun _ => ?_
    refine (serviceStage_basis env selection).bind fun _ => ?_
    refine (httpStage_basis env selection).bind fun _ => ?_
    refine (tlsStage_basis env selection).bind fun _ => ?_
    exact finish_preserves basis_ignoresLifecycle _ _ _
  refine Flow.holds_and ?_ (hbasis run)
  unfold activeStages
  refine Flow.holds_seq_of_stop (Flow.holds_and (portStage_sections h)
    (portStage_basis env selection run)) (fun _ h => h.1) ?_
  rintro _ run₁ ⟨h₁, hbasis₁⟩
  refine Flow.holds_seq_of_stop (Flow.holds_and (serviceStage_sections h₁)
    (serviceStage_basis env selection run₁)) (fun _ h => h.1) ?_
  rintro _ run₂ ⟨h₂, hbasis₂⟩
  refine Flow.holds_seq_of_stop (Flow.holds_and (httpStage_sections h₂)
    (httpStage_basis env selection run₂)) (fun _ h => h.1) ?_
  rintro _ run₃ ⟨⟨http, httpEnd, hhttp, h₃⟩, hbasis₃⟩
  have htarget₃ : run₃.report.target = target :=
    (congrArg Prod.fst (hbasis₃.trans (hbasis₂.trans hbasis₁))).trans htarget
  refine Flow.holds_seq (tlsStage_sections hhttp htarget₃ h₃) fun _ run₄ h₄ => ?_
  exact holds_finish none rfl h₄

/-! ### A whole run -/

theorem scanAddresses_of_basis {run run' : Run} (h : run'.basis = run.basis) :
    run'.report.scanAddresses = run.report.scanAddresses := by
  have hdns : run'.report.dns = run.report.dns := congrArg Prod.snd h
  rw [ScanReport.scanAddresses, ScanReport.scanAddresses, hdns]

theorem DnsPhase.scanAddresses {run : Run} (h : DnsPhase target selection env.observation run) :
    run.report.scanAddresses = env.addresses := by
  have hresolved := congrArg (fun found => (found.map Prod.fst).getD []) h.found
  simp only [Option.map_map] at hresolved
  have hhosts : (run.report.dns.map DnsObservation.resolvedHosts).getD [] = env.resolvedHosts :=
    hresolved
  rw [CoreEnv.addresses, ← hhosts]
  unfold ScanReport.scanAddresses
  cases run.report.dns <;> rfl

/-- Either the run ended before the active stages, or it came to them with the addresses that DNS
resolved. -/
def RunCovers (env : CoreEnv) (target : NormalizedTarget) (run : Run) : Prop :=
  run.sections = .empty ∨ run.report.scanAddresses = env.addresses ∧ Covers env target run.sections

theorem coreStages_covers {configuration : ScanConfiguration} {run : Run}
    (hphase : DnsPhase target selection none run)
    (hconfig : run.report.incompatibleAddressFamily = target.conflicts configuration)
    (h : run.sections = .empty) : RunCovers env target ((coreStages env selection).final run) := by
  refine Flow.final_iff.mpr ?_
  unfold coreStages
  refine Flow.holds_seq_of_stop (Flow.holds_and (dnsStages_sections env selection h)
    (dnsStages_spec env hphase hconfig)) (fun _ h => .inl h.1) ?_
  rintro _ run ⟨hsections, hphase, -⟩
  have haddresses := hphase.scanAddresses
  rw [haddresses] at hsections
  simp only [Flow.holds_bind, Flow.holds_read, Flow.holds_ite]
  split
  · have hstart : (run.update ({ · with
        status := .partialScan
        message := "DNS analysis completed, but no primary-host IP addresses were available."
        })).sections = run.sections := rfl
    refine .inr ⟨?_, ?_⟩
    · exact (scanAddresses_of_basis (view_finish basis_ignoresLifecycle _ _ _ _)).trans haddresses
    · show Covers env target (Run.sections (Run.update _ _))
      rw [view_finish sections_ignoresLifecycle, hstart, hsections]
      exact .untouched
  · exact Flow.holds_mono (activeStages_sections hphase.target hsections)
      (fun _ _ h => .inr ⟨(scanAddresses_of_basis h.2).trans haddresses, h.1⟩)
      fun _ h => .inr ⟨(scanAddresses_of_basis h.2).trans haddresses, h.1⟩

theorem runScanInner_covers (env : CoreEnv) (target : NormalizedTarget)
    (configuration : ScanConfiguration) (selection : ScanSelection) :
    RunCovers env target (runScanInner env target configuration selection) := by
  obtain ⟨skips, hframe⟩ := ScanReport.recordSkips_frame
    (ScanReport.notStarted env.scannerVersion env.scanId env.startedAt target
      { configuration with authorizationAcknowledged := true })
    (activeChecks selection) (fun c => !c.selected) "excluded by --only"
  have hnew : env.newReport target configuration selection = _ := hframe
  refine coreStages_covers (dnsPhase_newReport env target configuration selection)
    (?_ : _ = target.conflicts configuration) ?_
  · rw [hnew]
    rfl
  · rw [hnew]
    rfl

/-! ### Finalization -/

section Finalize

variable (generateFindings : FindingGenerator) (clock : FinalizeClock)

theorem view_checkpoint {τ : Type*} {view : Run → τ} (h : IgnoresLifecycle view) (run : Run)
    (reading : Reading) (interrupted expired : String) {otherwise : ScanReport → ScanReport}
    (hother : view (run.update otherwise) = view run) :
    view (run.update (·.checkpoint reading .findings .all interrupted expired otherwise)) =
      view run := by
  cases hstops : reading.stops with
  | false =>
    have hsame : run.update (·.checkpoint reading .findings .all interrupted expired otherwise) =
        run.update otherwise :=
      congrArg (fun report => { run with report := report }) (ScanReport.checkpoint_clear hstops)
    rw [hsame, hother]
  | true =>
    have hends : ∃ kind message, run.report.checkpoint reading .findings .all interrupted expired
        otherwise = run.report.terminate .findings .all kind message :=
      ScanReport.checkpoint_stops hstops
    obtain ⟨kind, message, hstop⟩ := hends
    have hsame : run.update (·.checkpoint reading .findings .all interrupted expired otherwise) =
        run.update (·.terminate .findings .all kind message) :=
      congrArg (fun report => { run with report := report }) hstop
    rw [hsame, view_terminate h]

/-- A view that also ignores findings, score and completion sees nothing of the finalization. -/
theorem view_finalize {τ : Type*} {view : Run → τ} (h : IgnoresLifecycle view)
    (hfindings : ∀ run now, view (run.update (·.withFindings generateFindings now)) = view run)
    (hexposure : ∀ run : Run, view (run.update ScanReport.withExposure) = view run)
    (hcompleted : ∀ (run : Run) n, view (run.emit (.completed .findings n)) = view run)
    (hcomplete : ∀ (run : Run) now, view (run.update (·.complete now)) = view run) (run : Run) :
    view (finalize generateFindings clock run) = view run := by
  unfold finalize
  split
  · rfl
  · split
    · exact hcomplete run _
    · dsimp only
      rw [hcomplete, view_checkpoint h _ _ _ _ rfl, hcompleted, hexposure, hfindings,
        h.started, view_checkpoint h _ _ _ _ (view_settle h run)]

theorem finalize_basis (run : Run) : (finalize generateFindings clock run).basis = run.basis :=
  view_finalize generateFindings clock basis_ignoresLifecycle (fun _ _ => rfl) (fun _ => rfl)
    (fun _ _ => rfl) (fun _ _ => rfl) run

/-- The sections without the announcements. -/
def Run.observed (run : Run) : Sections := { run.sections with completions := [] }

theorem finalize_observed (run : Run) :
    (finalize generateFindings clock run).observed = run.observed :=
  view_finalize generateFindings clock ⟨fun _ _ _ _ _ => rfl, fun _ _ => rfl⟩ (fun _ _ => rfl)
    (fun _ => rfl) (fun _ _ => rfl) (fun _ _ => rfl) run

/-- The findings are announced with their number, or not at all. -/
theorem finalize_completions (run : Run) :
    (finalize generateFindings clock run).completions = run.completions ∨
      (finalize generateFindings clock run).completions = run.completions ++
        [(.findings, (finalize generateFindings clock run).report.findings.length)] := by
  have hignores : IgnoresLifecycle fun run : Run => run.report.findings :=
    ⟨fun _ _ _ _ _ => rfl, fun _ _ => rfl⟩
  unfold finalize
  split
  · exact .inl rfl
  · split
    · exact .inl rfl
    · refine .inr ?_
      dsimp only
      generalize hscored :
        (((run.update _).emit _).update _).update ScanReport.withExposure = scored
      have hstart : scored.completions = run.completions := by
        rw [← hscored]
        exact completions_started (run.update _) .findings
      -- the second look at the token and the clock keeps the findings that were counted
      have hkept : ∀ scored : Run, (scored.update (·.checkpoint clock.afterFindings .findings .all
          "scan interrupted after findings finalization"
          "global timeout expired after findings finalization" id)).report.findings =
            scored.report.findings := fun scored => view_checkpoint hignores scored _ _ _ rfl
      have hfindings := congrArg List.length (hkept
        (scored.emit (.completed .findings scored.report.findings.length)))
      rw [← hstart]
      show (scored.emit (.completed .findings _)).completions = scored.completions ++ [(_, _)]
      rw [completions_completed]
      exact congrArg (fun n => scored.completions ++ [(ScanStage.findings, n)]) hfindings.symm

end Finalize

/-! ## Announcements -/

/-- What a stage is announced to have observed. -/
def ScanReport.observations (report : ScanReport) : ScanStage → Nat
  | .preflight => 0
  | .dns => report.scanAddresses.length
  | .ports => report.hosts.length
  | .services => report.services.length
  | .http => report.http.length
  | .tls => report.tls.length
  | .findings => report.findings.length

theorem Announced.stages {α : Type*} {stage : ScanStage} {values listed : List α}
    {announced : List (ScanStage × Nat)} (h : Announced stage values listed announced) :
    (announced.map Prod.fst).Sublist [stage] := by
  cases h with
  | omitted => exact List.nil_sublist _
  | listed => exact .refl _

theorem Announced.count {α : Type*} {stage : ScanStage} {values listed : List α}
    {announced : List (ScanStage × Nat)} (h : Announced stage values listed announced)
    {completion : ScanStage × Nat} (hmem : completion ∈ announced) :
    completion = (stage, listed.length) := by
  cases h with
  | omitted => cases hmem
  | listed => exact List.mem_singleton.mp hmem

/-- The core stages in their order. -/
def coreStageOrder : List ScanStage := [.dns, .ports, .services, .http, .tls]

theorem Covers.stages {view : Sections} (h : Covers env target view) :
    (view.completions.map Prod.fst).Sublist coreStageOrder := by
  cases h with
  | untouched => exact List.singleton_sublist.mpr List.mem_cons_self
  | scanned | detected | enriched => exact List.take_sublist 2 coreStageOrder
  | analyzed hhttp htls _ =>
    rw [List.map_append, List.map_append]
    exact ((List.Sublist.refl [ScanStage.dns, .ports, .services]).append hhttp.stages).append
      htls.stages

/-- The sizes of the sections, given that of the DNS section. -/
def Sections.count (view : Sections) (addresses : Nat) : ScanStage → Nat
  | .dns => addresses
  | .ports => view.hosts.length
  | .services => view.services.length
  | .http => view.http.length
  | .tls => view.tls.length
  | .preflight | .findings => 0

theorem Covers.count {view : Sections} (h : Covers env target view) {completion : ScanStage × Nat}
    (hmem : completion ∈ view.completions) :
    completion.2 = view.count env.addresses.length completion.1 := by
  cases h with
  | untouched =>
    rw [List.mem_singleton.mp hmem]
    rfl
  | scanned | detected | enriched =>
    simp only [List.mem_cons, List.not_mem_nil, or_false] at hmem
    rcases hmem with rfl | rfl <;> rfl
  | analyzed hhttp htls _ =>
    rcases List.mem_append.mp hmem with hmem | hmem
    · rcases List.mem_append.mp hmem with hmem | hmem
      · simp only [List.mem_cons, List.not_mem_nil, or_false] at hmem
        rcases hmem with rfl | rfl | rfl <;> rfl
      · rw [hhttp.count hmem]
        rfl
    · rw [htls.count hmem]
      rfl

theorem RunCovers.announcements {run : Run} (h : RunCovers env target run) :
    (run.completions.map Prod.fst).Sublist coreStageOrder ∧
      ∀ completion ∈ run.completions, completion.2 = run.report.observations completion.1 := by
  rcases h with hempty | ⟨haddresses, hcovers⟩
  · have hnone : run.completions = [] := congrArg Sections.completions hempty
    rw [hnone]
    exact ⟨List.nil_sublist _, fun _ h => by cases h⟩
  · refine ⟨hcovers.stages, fun completion hmem => ?_⟩
    have hcount : completion.2 = run.sections.count env.addresses.length completion.1 :=
      hcovers.count hmem
    have hstage : completion.1 ∈ coreStageOrder :=
      hcovers.stages.subset (List.mem_map_of_mem hmem)
    rw [← haddresses] at hcount
    obtain ⟨stage, n⟩ := completion
    simp only [coreStageOrder, List.mem_cons, List.not_mem_nil, or_false] at hstage
    rcases hstage with rfl | rfl | rfl | rfl | rfl <;> exact hcount

theorem finalize_observations (generateFindings : FindingGenerator) (clock : FinalizeClock)
    (run : Run) {stage : ScanStage} (h : stage ∈ coreStageOrder) :
    (finalize generateFindings clock run).report.observations stage =
      run.report.observations stage := by
  have hobserved := finalize_observed generateFindings clock run
  have haddresses := scanAddresses_of_basis (finalize_basis generateFindings clock run)
  simp only [coreStageOrder, List.mem_cons, List.not_mem_nil, or_false] at h
  rcases h with rfl | rfl | rfl | rfl | rfl
  · exact congrArg List.length haddresses
  · exact congrArg (fun view => view.hosts.length) hobserved
  · exact congrArg (fun view => view.services.length) hobserved
  · exact congrArg (fun view => view.http.length) hobserved
  · exact congrArg (fun view => view.tls.length) hobserved

theorem mem_completions {run : Run} {stage : ScanStage} {observations : Nat} :
    (stage, observations) ∈ run.completions ↔ .completed stage observations ∈ run.progress := by
  unfold Run.completions
  rw [List.mem_filterMap]
  constructor
  · rintro ⟨event, hevent, hsome⟩
    cases event with
    | started => cases hsome
    | completed =>
      cases hsome
      exact hevent
  · exact fun hmem => ⟨_, hmem, rfl⟩

/-- In every run the stages are announced to be complete in their order and once at most, and what
an announcement counts is what the final report has in the section of the stage. -/
theorem runScanSelected_announcements (env : CoreEnv) (generateFindings : FindingGenerator)
    (clock : FinalizeClock) (target : NormalizedTarget) (configuration : ScanConfiguration)
    (selection : ScanSelection) :
    let run := runScanSelected env generateFindings clock target configuration selection
    (run.completions.map Prod.fst).Sublist (coreStageOrder ++ [.findings]) ∧
      ∀ stage observations, .completed stage observations ∈ run.progress →
        observations = run.report.observations stage := by
  intro run
  obtain ⟨hstages, hcounts⟩ :=
    (runScanInner_covers env target configuration selection).announcements
  have hearly : ∀ completion ∈ (runScanInner env target configuration selection).completions,
      completion.2 = run.report.observations completion.1 := fun completion hmem =>
    (hcounts completion hmem).trans (finalize_observations generateFindings clock _
      (hstages.subset (List.mem_map_of_mem hmem))).symm
  rcases finalize_completions generateFindings clock
    (runScanInner env target configuration selection) with hend | hend
  · have hsame : run.completions = _ := hend
    rw [hsame]
    refine ⟨hstages.trans (List.sublist_append_left _ _), fun stage observations hmem => ?_⟩
    exact hearly _ (hsame ▸ mem_completions.mpr hmem)
  · have hmore : run.completions = _ := hend
    rw [hmore, List.map_append]
    refine ⟨hstages.append (.refl _), fun stage observations hmem => ?_⟩
    have hlisted := mem_completions.mpr hmem
    rw [hmore] at hlisted
    rcases List.mem_append.mp hlisted with hlisted | hlisted
    · exact hearly _ hlisted
    · cases List.mem_singleton.mp hlisted
      rfl

end Active

end Surface

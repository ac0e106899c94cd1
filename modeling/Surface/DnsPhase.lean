import Surface.Stages

/-!
# Surface.DnsPhase

The DNS stages end the run exactly when one of their operations was stopped.

* `CoreEnv.dnsCompletes`: the target suits the address families, the start is in time, and every
  DNS operation that applies to the target came to a result.
* `DnsPhase`: nothing ended the run, no selected active check is accounted for yet, and the
  addresses and the CNAME chain are still those of the baseline.
* `dnsStages_spec`: the stages go on only when `dnsCompletes` holds and stop only when it does not.
-/

namespace Surface

namespace CoreEnv

variable (env : CoreEnv) (target : NormalizedTarget)

def observation : Option DnsObservation :=
  match env.baseline with
  | .ready (.ok baseline) => some baseline.observation
  | _ => none

def authority : Option AuthoritativeEvidence :=
  match env.baseline with
  | .ready (.ok baseline) => baseline.authority
  | _ => none

/-- The addresses of the primary host, none when the baseline failed. -/
def resolvedHosts : List ResolvedHost := (env.observation.map DnsObservation.resolvedHosts).getD []

def cnameHops : List CnameHop := (env.observation.map DnsObservation.cnameChain).getD []

def preflightPasses (configuration : ScanConfiguration) : Prop :=
  target.conflicts configuration = false ∧ env.dnsExpired = false

def baselinePasses : Prop := env.baseline.isReady = true

def dnssecPasses : Prop := target.hostless = false → env.dnssec.isReady = true

def axfrPasses : Prop :=
  target.hostless = false → env.authority.isSome = true →
    env.axfr.state ≠ .timedOut ∧ env.axfr.state ≠ .cancelled

def wildcardPasses : Prop :=
  target.hostless = false → env.observation.isSome = true → env.wildcard.state = .completed

def danglingPasses : Prop :=
  target.hostless = false → env.cnameHops ≠ [] → env.dangling.state = .completed

def dnsCompletes (configuration : ScanConfiguration) : Prop :=
  env.preflightPasses target configuration ∧ env.baselinePasses ∧ env.dnssecPasses target ∧
    env.axfrPasses target ∧ env.wildcardPasses target ∧ env.danglingPasses target

end CoreEnv

/-- The part of the DNS section that the active stages depend on. -/
def DnsObservation.view (dns : DnsObservation) : List ResolvedHost × List CnameHop :=
  (dns.resolvedHosts, dns.cnameChain)

structure DnsPhase (target : NormalizedTarget) (selection : ScanSelection)
    (found : Option DnsObservation) (run : Run) : Prop where
  reached : Reached selection (stageRank .ports) run
  silent : ∀ c ∈ activeChecks selection, c.selected = true → ¬ run.accounts c
  target : run.report.target = target
  found : run.report.dns.map DnsObservation.view = found.map DnsObservation.view

/-- An update by a DNS check: it concerns no active check and keeps addresses and chain. -/
structure DnsQuiet (f : ScanReport → ScanReport) : Prop extends Quiet f where
  silent : ∀ r selection, ∀ c ∈ activeChecks selection,
    (f r).hasSkip c.check → r.hasSkip c.check
  view : ∀ r, (f r).dns.map DnsObservation.view = r.dns.map DnsObservation.view

theorem dnsQuiet_addSkippedCheck {check : String} (reason : String)
    (hcheck : check ∉ ["ports", "services", "http", "tls"]) :
    DnsQuiet (·.addSkippedCheck check reason) := by
  refine { quiet_addSkippedCheck check reason with silent := ?_, view := ?_ }
  · intro r selection c hc h
    rcases (r.addSkippedCheck_hasSkip check reason c.check).mp h with h | h
    · exact h
    · refine absurd ?_ hcheck
      rw [← h]
      simp only [activeChecks, List.mem_cons, List.not_mem_nil, or_false] at hc
      rcases hc with rfl | rfl | rfl | rfl <;> simp
  · intro r
    obtain ⟨skips, h⟩ := r.addSkippedCheck_frame check reason
    simp only [h]

theorem dnsQuiet_modifyDns {f : DnsObservation → DnsObservation}
    (hf : ∀ dns, (f dns).view = dns.view) : DnsQuiet (·.modifyDns f) := by
  refine { quiet_modifyDns f with silent := fun _ _ _ _ h => h, view := fun r => ?_ }
  simp only [ScanReport.modifyDns, Option.map_map]
  exact congrArg (fun g => Option.map g r.dns) (funext hf)

theorem dnsQuiet_recordAxfr (check : AxfrCheck) : DnsQuiet (recordAxfr check) := by
  unfold recordAxfr
  cases check.observation with
  | none =>
    exact ⟨⟨fun _ => rfl, fun _ => rfl, fun _ => rfl, fun _ => rfl, fun _ _ h => h⟩,
      fun _ _ _ _ h => h, fun _ => rfl⟩
  | some observation =>
    simp only
    split
    · exact { quiet_comp (quiet_addErrors _) (quiet_modifyDns _) with
        silent := fun _ _ _ _ h => h
        view := fun r => (dnsQuiet_modifyDns
          (f := ({ · with authoritativeAxfr := some observation })) (fun _ => rfl)).view
          (r.addErrors _) }
    · exact dnsQuiet_modifyDns (fun _ => rfl)

namespace DnsPhase

variable {target : NormalizedTarget} {selection : ScanSelection} {found : Option DnsObservation}
  {run : Run}

theorem update (h : DnsPhase target selection found run) {f : ScanReport → ScanReport}
    (hf : DnsQuiet f) : DnsPhase target selection found (run.update f) := by
  refine ⟨h.reached.update hf.toQuiet, fun c hc hs hacc => ?_, (hf.target _).trans h.target,
    (hf.view _).trans h.found⟩
  exact h.silent c hc hs (hacc.imp id (hf.silent _ selection c hc))

theorem emit (h : DnsPhase target selection found run) {event : ScanProgress}
    (hevent : ∀ c ∈ activeChecks selection, event ≠ .started c.stage) :
    DnsPhase target selection found (run.emit event) := by
  refine ⟨h.reached.emit event, fun c hc hs hacc => h.silent c hc hs ?_, h.target, h.found⟩
  refine hacc.imp (fun hmem => ?_) id
  rcases List.mem_append.mp hmem with hmem | hmem
  · exact hmem
  · exact absurd (List.mem_singleton.mp hmem).symm (hevent c hc)

theorem halt (h : DnsPhase target selection found run) {stage : ScanStage}
    (hstage : stageRank stage ≤ stageRank .ports) (kind : ScanErrorKind) (message : String) :
    Done selection (run.update (·.terminate stage selection kind message)) :=
  h.reached.halt hstage kind message

theorem dns_isSome (h : DnsPhase target selection found run) :
    run.report.dns.isSome = found.isSome := by
  have hv := congrArg Option.isSome h.found
  simpa only [Option.isSome_map] using hv

theorem cnameChain_eq (h : DnsPhase target selection found run) :
    run.report.cnameChain = (found.map DnsObservation.cnameChain).getD [] := by
  have hv := congrArg (fun o => (o.map Prod.snd).getD []) h.found
  simp only [Option.map_map] at hv
  exact hv

theorem scanAddresses_isEmpty (h : DnsPhase target selection found run) :
    run.report.scanAddresses.isEmpty =
      ((found.map DnsObservation.resolvedHosts).getD []).isEmpty := by
  have hv := congrArg (fun o => (o.map Prod.fst).getD []) h.found
  simp only [Option.map_map] at hv
  have hview : (Prod.fst ∘ DnsObservation.view) = DnsObservation.resolvedHosts := rfl
  rw [hview] at hv
  rw [← hv]
  unfold ScanReport.scanAddresses
  cases run.report.dns with
  | none => rfl
  | some dns =>
    rw [Bool.eq_iff_iff]
    change (OrdSet.ofList _).isEmpty = true ↔ dns.resolvedHosts.isEmpty = true
    rw [OrdSet.isEmpty_iff, List.isEmpty_iff]
    simp [List.eq_nil_iff_forall_not_mem]

end DnsPhase

/-! ## The stages, one by one -/

section Specs

variable (env : CoreEnv) {target : NormalizedTarget} {selection : ScanSelection}
  {found : Option DnsObservation} {run : Run}

theorem preflight_spec {configuration : ScanConfiguration}
    (h : DnsPhase target selection found run)
    (hconfig : run.report.incompatibleAddressFamily = target.conflicts configuration) :
    (preflight env selection).holds
      (fun _ run' => DnsPhase target selection found run' ∧
        env.preflightPasses target configuration)
      (fun run' => Done selection run' ∧ ¬ env.preflightPasses target configuration) run := by
  unfold preflight deadlineCheck CoreEnv.preflightPasses
  simp only [Flow.holds_bind, Flow.holds_read, Flow.holds_ite, holds_halt, holds_update,
    Flow.holds_pure, hconfig]
  split
  · rename_i hc
    exact ⟨h.halt (by decide) _ _, fun hp => by simp [hc] at hp⟩
  · rename_i hc
    have hstarted := h.update (f := ({ · with message := "Scan started." }))
      ⟨⟨fun _ => rfl, fun _ => rfl, fun _ => rfl, fun _ => rfl, fun _ _ h => h⟩,
        fun _ _ _ _ h => h, fun _ => rfl⟩
    split
    · rename_i he
      exact ⟨hstarted.halt (by decide) _ _, fun hp => by simp [he] at hp⟩
    · rename_i he
      exact ⟨hstarted, by simpa using hc, by simpa using he⟩

theorem dnsBaseline_spec (h : DnsPhase target selection none run) :
    (dnsBaseline env selection).holds
      (fun authority run' => authority = env.authority ∧
        DnsPhase target selection env.observation run' ∧ env.baselinePasses)
      (fun run' => Done selection run' ∧ ¬ env.baselinePasses) run := by
  have hstart : DnsPhase target selection none (run.emit (.started .dns)) := by
    refine h.emit (fun c hc => ?_)
    simp only [activeChecks, List.mem_cons, List.not_mem_nil, or_false] at hc
    rcases hc with rfl | rfl | rfl | rfl <;> simp
  unfold dnsBaseline CoreEnv.authority CoreEnv.observation CoreEnv.baselinePasses
  simp only [Flow.holds_bind, holds_emit]
  cases env.baseline with
  | cancelled => exact ⟨hstart.halt (by decide) _ _, by simp [Awaited.isReady]⟩
  | timedOut => exact ⟨hstart.halt (by decide) _ _, by simp [Awaited.isReady]⟩
  | ready result =>
    cases result with
    | error message =>
      refine ⟨rfl, ?_, rfl⟩
      exact hstart.update { quiet_addErrors _ with
        silent := fun _ _ _ _ h => h
        view := fun _ => rfl }
    | ok baseline =>
      refine ⟨rfl, ⟨hstart.reached.update ?_, hstart.silent, hstart.target, rfl⟩, rfl⟩
      exact ⟨fun _ => rfl, fun _ => rfl, fun _ => rfl, fun _ => rfl, fun _ _ h => h⟩

theorem dnssecValidation_spec (h : DnsPhase target selection found run) :
    (dnssecValidation env selection).holds
      (fun _ run' => DnsPhase target selection found run' ∧ env.dnssecPasses target)
      (fun run' => Done selection run' ∧ ¬ env.dnssecPasses target) run := by
  unfold dnssecValidation CoreEnv.dnssecPasses
  simp only [Flow.holds_bind, Flow.holds_read, Flow.holds_ite, holds_update, h.target]
  split
  · rename_i hhost
    exact ⟨h.update (dnsQuiet_addSkippedCheck _ (by decide)), fun hf => by simp [hhost] at hf⟩
  · rename_i hhost
    have hhost : target.hostless = false := by simpa using hhost
    have hunfinished : ∀ limitation, DnsPhase target selection found
        (run.update (·.modifyDns (unfinishedDnssec limitation))) := fun limitation =>
      h.update (dnsQuiet_modifyDns (fun _ => rfl))
    cases env.dnssec with
    | cancelled =>
      exact ⟨(hunfinished _).halt (by decide) _ _, fun hp => by simp [Awaited.isReady, hhost] at hp⟩
    | timedOut =>
      exact ⟨(hunfinished _).halt (by decide) _ _, fun hp => by simp [Awaited.isReady, hhost] at hp⟩
    | ready observation =>
      have hstore : ∀ {run' : Run}, DnsPhase target selection found run' →
          DnsPhase target selection found
            (run'.update (·.modifyDns ({ · with dnssec := some observation }))) ∧
          (target.hostless = false → (Awaited.ready observation).isReady = true) :=
        fun h' => ⟨h'.update (dnsQuiet_modifyDns (fun _ => rfl)), fun _ => rfl⟩
      simp only [Flow.holds_bind, Flow.holds_ite, holds_update]
      split
      · exact hstore (h.update (dnsQuiet_addSkippedCheck _ (by decide)))
      · split
        · exact hstore (h.update (dnsQuiet_addSkippedCheck _ (by decide)))
        · exact hstore h

theorem authoritativeAxfr_spec (h : DnsPhase target selection found run) :
    (authoritativeAxfr env selection env.authority).holds
      (fun _ run' => DnsPhase target selection found run' ∧ env.axfrPasses target)
      (fun run' => Done selection run' ∧ ¬ env.axfrPasses target) run := by
  unfold authoritativeAxfr CoreEnv.axfrPasses
  simp only [Flow.holds_bind, Flow.holds_read, Flow.holds_ite, holds_update, h.target]
  split
  · rename_i hhost
    exact ⟨h.update (dnsQuiet_addSkippedCheck _ (by decide)), fun hf => by simp [hhost] at hf⟩
  · rename_i hhost
    have hhost : target.hostless = false := by simpa using hhost
    split
    · rename_i hauth
      have hstored := h.update (dnsQuiet_recordAxfr env.axfr)
      cases hstate : env.axfr.state with
      | completed => exact ⟨hstored, fun _ _ => by simp⟩
      | skipped reason =>
        exact ⟨hstored.update (dnsQuiet_addSkippedCheck _ (by decide)), fun _ _ => by simp⟩
      | timedOut => exact ⟨hstored.halt (by decide) _ _, fun hp => (hp hhost hauth).1 rfl⟩
      | cancelled => exact ⟨hstored.halt (by decide) _ _, fun hp => (hp hhost hauth).2 rfl⟩
    · rename_i hauth
      exact ⟨h.update (dnsQuiet_addSkippedCheck _ (by decide)), fun _ hf => absurd hf hauth⟩

/-- A check that is over lets the stage go on, and only then. -/
theorem stateCheck_spec (h : DnsPhase target selection found run) (state : CheckState)
    (timedOut interrupted : String) :
    (stateCheck selection .dns state timedOut interrupted).holds
      (fun _ run' => DnsPhase target selection found run' ∧ state = .completed)
      (fun run' => Done selection run' ∧ state ≠ .completed) run := by
  unfold stateCheck
  cases state with
  | completed => exact ⟨h, rfl⟩
  | timedOut => exact ⟨h.halt (by decide) _ _, by simp⟩
  | cancelled => exact ⟨h.halt (by decide) _ _, by simp⟩

theorem wildcardDns_spec (h : DnsPhase target selection env.observation run) :
    (wildcardDns env selection).holds
      (fun _ run' => DnsPhase target selection env.observation run' ∧ env.wildcardPasses target)
      (fun run' => Done selection run' ∧ ¬ env.wildcardPasses target) run := by
  have hdns := h.dns_isSome
  unfold wildcardDns CoreEnv.wildcardPasses
  simp only [Flow.holds_bind, Flow.holds_read, Flow.holds_ite, holds_update, h.target]
  split
  · rename_i hhost
    exact ⟨h.update (dnsQuiet_addSkippedCheck _ (by decide)), fun hf => by simp [hhost] at hf⟩
  · rename_i hhost
    have hhost : target.hostless = false := by simpa using hhost
    split
    · rename_i hnone
      refine ⟨h.update (dnsQuiet_addSkippedCheck _ (by decide)), fun _ hsome => ?_⟩
      rw [← hdns, Option.isSome_iff_ne_none] at hsome
      exact absurd (Option.isNone_iff_eq_none.mp hnone) hsome
    · rename_i hnone
      have hsome : env.observation.isSome = true := by
        rw [← hdns, Option.isSome_iff_ne_none]
        simpa using hnone
      have hstored := h.update (f := (·.modifyDns ({ · with
        wildcardDns := some env.wildcard.observation }))) (dnsQuiet_modifyDns (fun _ => rfl))
      refine Flow.holds_mono (stateCheck_spec hstored env.wildcard.state _ _) ?_
        (fun _ hs => ⟨hs.1, fun hp => hs.2 (hp hhost hsome)⟩)
      rintro _ run' ⟨h', hdone⟩
      split
      · exact ⟨h'.update (dnsQuiet_addSkippedCheck _ (by decide)), fun _ _ => hdone⟩
      · exact ⟨h', fun _ _ => hdone⟩

theorem danglingCname_spec (h : DnsPhase target selection env.observation run) :
    (danglingCname env selection).holds
      (fun _ run' => DnsPhase target selection env.observation run' ∧ env.danglingPasses target)
      (fun run' => Done selection run' ∧ ¬ env.danglingPasses target) run := by
  have hchain : run.report.cnameChain = env.cnameHops := h.cnameChain_eq
  unfold danglingCname CoreEnv.danglingPasses
  simp only [Flow.holds_bind, Flow.holds_read, Flow.holds_ite, holds_update, h.target, hchain]
  split
  · rename_i hhost
    exact ⟨h.update (dnsQuiet_addSkippedCheck _ (by decide)), fun hf => by simp [hhost] at hf⟩
  · rename_i hhost
    have hhost : target.hostless = false := by simpa using hhost
    split
    · rename_i hnil
      exact ⟨h.update (dnsQuiet_addSkippedCheck _ (by decide)),
        fun _ hne => absurd (List.isEmpty_iff.mp hnil) hne⟩
    · rename_i hnil
      have hne : env.cnameHops ≠ [] := fun hn => hnil (List.isEmpty_iff.mpr hn)
      have hstored := h.update (f := (·.modifyDns ({ · with
        danglingCnames := env.dangling.observations }))) (dnsQuiet_modifyDns (fun _ => rfl))
      refine Flow.holds_mono (stateCheck_spec hstored env.dangling.state _ _) ?_
        (fun _ hs => ⟨hs.1, fun hp => hs.2 (hp hhost hne)⟩)
      rintro _ run' ⟨h', hdone⟩
      split
      · exact ⟨h'.update (dnsQuiet_addSkippedCheck _ (by decide)), fun _ _ => hdone⟩
      · exact ⟨h', fun _ _ => hdone⟩

/-- The DNS stages go on with the baseline they found, and only when every operation completed. -/
theorem dnsStages_spec {configuration : ScanConfiguration}
    (h : DnsPhase target selection none run)
    (hconfig : run.report.incompatibleAddressFamily = target.conflicts configuration) :
    (dnsStages env selection).holds
      (fun _ run' => DnsPhase target selection env.observation run' ∧
        env.dnsCompletes target configuration)
      (fun run' => Done selection run' ∧ ¬ env.dnsCompletes target configuration) run := by
  unfold dnsStages
  refine Flow.holds_seq_of_stop (preflight_spec env h hconfig)
    (fun _ h => ⟨h.1, fun hp => h.2 hp.1⟩) ?_
  rintro _ run ⟨h, hpreflight⟩
  refine Flow.holds_seq_of_stop (dnsBaseline_spec env h)
    (fun _ h => ⟨h.1, fun hp => h.2 hp.2.1⟩) ?_
  rintro authority run ⟨rfl, h, hbaseline⟩
  refine Flow.holds_seq_of_stop (dnssecValidation_spec env h)
    (fun _ h => ⟨h.1, fun hp => h.2 hp.2.2.1⟩) ?_
  rintro _ run ⟨h, hdnssec⟩
  refine Flow.holds_seq_of_stop (authoritativeAxfr_spec env h)
    (fun _ h => ⟨h.1, fun hp => h.2 hp.2.2.2.1⟩) ?_
  rintro _ run ⟨h, haxfr⟩
  refine Flow.holds_seq_of_stop (wildcardDns_spec env h)
    (fun _ h => ⟨h.1, fun hp => h.2 hp.2.2.2.2.1⟩) ?_
  rintro _ run ⟨h, hwildcard⟩
  refine Flow.holds_seq_of_stop (danglingCname_spec env h)
    (fun _ h => ⟨h.1, fun hp => h.2 hp.2.2.2.2.2⟩) ?_
  rintro _ run ⟨h, hdangling⟩
  refine ⟨h.emit (fun c hc => by simp), ?_⟩
  exact ⟨hpreflight, hbaseline, hdnssec, haxfr, hwildcard, hdangling⟩

end Specs

/-! ## The start of a run -/

theorem activeChecks_inj {selection : ScanSelection} {c d : PlannedCheck}
    (hc : c ∈ activeChecks selection) (hd : d ∈ activeChecks selection) (h : c.check = d.check) :
    c = d := by
  simp only [activeChecks, List.mem_cons, List.not_mem_nil, or_false] at hc hd
  rcases hc with rfl | rfl | rfl | rfl <;> rcases hd with rfl | rfl | rfl | rfl <;> simp at h ⊢

theorem dnsPhase_newReport (env : CoreEnv) (target : NormalizedTarget)
    (configuration : ScanConfiguration) (selection : ScanSelection) :
    DnsPhase target selection none ⟨env.newReport target configuration selection, []⟩ := by
  have hskip : ∀ c ∈ activeChecks selection,
      ((env.newReport target configuration selection).hasSkip c.check ↔ c.selected = false) := by
    intro c hc
    unfold CoreEnv.newReport ScanReport.recordSelectionSkips
    rw [ScanReport.recordSkips_hasSkip]
    constructor
    · rintro (h | ⟨d, hd, hoff, hname⟩)
      · simp [ScanReport.hasSkip, ScanReport.notStarted] at h
      · rw [activeChecks_inj hc hd hname]
        simpa using hoff
    · exact fun hoff => Or.inr ⟨c, hc, by simp [hoff], rfl⟩
  obtain ⟨skips, hframe⟩ := ScanReport.recordSkips_frame
    (ScanReport.notStarted env.scannerVersion env.scanId env.startedAt target
      { configuration with authorizationAcknowledged := true })
    (activeChecks selection) (fun c => !c.selected) "excluded by --only"
  have hnew : env.newReport target configuration selection = _ := hframe
  refine ⟨⟨by rw [hnew]; rfl, by rw [hnew]; rfl, by rw [hnew]; rfl, ?_⟩, ?_, by rw [hnew]; rfl,
    by rw [hnew]; rfl⟩
  · rintro c hc (hrank | hoff)
    · simp only [activeChecks, List.mem_cons, List.not_mem_nil, or_false] at hc
      rcases hc with rfl | rfl | rfl | rfl <;> simp [stageRank] at hrank
    · exact Or.inr ((hskip c hc).mpr hoff)
  · rintro c hc hs (hstart | hentry)
    · exact absurd hstart List.not_mem_nil
    · rw [(hskip c hc).mp hentry] at hs
      cases hs

end Surface

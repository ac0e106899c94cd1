import Surface.Storage.Restore

/-!
# Surface.Storage.Rollback

A restore in which one operation fails.

* `reinstate_restores`, `installTemporary_keeps`, `verifyInstalled_keeps`: what each rollback
  leaves at the path of the database.
* `Installs`: when a restore gets as far as the removal of the preserved database.
* `restore_failure_keeps_iff`: an error leaves the database as it was, unless it is that removal
  that fails.
-/

namespace Surface

variable {Content : Type} {sqlite : Sqlite Content} {faults : BackupFaults Content}
  {directory before : Directory Content} {database input temporary previous : Path}
  {source copy : Content}

/-- At most one operation fails, and none of a rollback. -/
structure SingleFault (faults : BackupFaults Content) : Prop where
  unique : ∀ a b, faults.fails a = true → faults.fails b = true → a = b
  previousExists : ∀ rollback, faults.fails (.previousExists rollback) = false
  reinstate : ∀ rollback, faults.fails (.reinstate rollback) = false
  discard : faults.fails .discard = false

namespace SingleFault

theorem others (h : SingleFault faults) {failing step : BackupStep}
    (hfailing : faults.fails failing = true) (hne : step ≠ failing) :
    faults.fails step = false := by
  cases hstep : faults.fails step with
  | false => rfl
  | true => exact absurd (h.unique step failing hstep hfailing) hne

theorem databaseExists_of_verification (h : SingleFault faults) {file : Verified}
    (hfails : VerificationFails faults file) : faults.fails .databaseExists = false := by
  rcases hfails with hfails | hfails | hfails
  all_goals exact h.others hfails nofun

end SingleFault

/-- Nothing is asked of the states in between. -/
def anywhere : BackupStep → Directory Content → Prop := fun _ _ => True

/-! ## Rollbacks -/

/-- A rollback that does not fail puts back what was preserved, also when that is nothing. -/
theorem reinstate_restores (hfaults : SingleFault faults) (rollback : Rollback)
    (hempty : directory database = none) (hpreserved : directory previous = before database) :
    (reinstate faults rollback previous database).Meets directory anywhere fun _ t =>
      t database = before database := by
  refine Program.meets_bind.mpr (existsAt_meets trivial ?_)
  rw [hfaults.previousExists, hpreserved]
  cases hold : before database with
  | none => exact hempty
  | some old =>
    refine Program.meets_bind.mpr (renameFile_meets (fun hor => ?_) (fun t _ hrenamed => ?_))
    · rw [hfaults.reinstate, hpreserved, hold] at hor
      simp at hor
    · refine ⟨trivial, ?_⟩
      show t database = some old
      rw [Directory.rename_target hrenamed, hpreserved, hold]

theorem installTemporary_keeps (hfaults : SingleFault faults) (hprevious : previous ≠ database)
    (hdistinct : temporary ≠ previous) (hprepared : directory temporary = some copy)
    (hpreserved : Preserved faults before database previous directory) :
    (installTemporary faults database temporary previous).run.Meets directory anywhere fun r t =>
      match r with
      | .ok _ => t database = some copy ∧
        (faults.fails .databaseExists = false → t previous = before database)
      | .error _ => t database = before database := by
  unfold installTemporary
  refine Program.meets_lift_bind.mpr (renameFile_meets (fun hor => ?_) (fun t _ hrenamed => ?_))
  · have hfails : faults.fails .install = true := by
      refine hor.resolve_right ?_
      rw [hprepared]
      simp
    have hseen : faults.fails .databaseExists = false := hfaults.others hfails nofun
    obtain ⟨_, hnone, hmoved⟩ := hpreserved.resolve_right fun h => by simp [hseen] at h
    exact ⟨trivial, Program.meets_lift_bind.mpr (reinstate_restores hfaults _ hnone hmoved)⟩
  · refine ⟨trivial, (Directory.rename_target hrenamed).trans hprepared, fun hseen => ?_⟩
    have hkept := Directory.rename_of_ne hrenamed hdistinct.symm hprevious
    obtain ⟨_, _, hmoved⟩ := hpreserved.resolve_right fun h => by simp [hseen] at h
    exact hkept.trans hmoved

/-- The installed copy has been verified already, so here only a failing step is an error. -/
theorem verifyInstalled_keeps (hfaults : SingleFault faults) (hprevious : previous ≠ database)
    (hinstalled : directory database = some copy) (hverifies : Verifies sqlite copy)
    (hkept : faults.fails .databaseExists = false → directory previous = before database) :
    (verifyInstalled sqlite faults database previous).run.Meets directory anywhere fun r t =>
      match r with
      | .ok _ => t = directory
      | .error _ => t database = before database := by
  unfold verifyInstalled
  refine Program.meets_lift_bind.mpr (verifyDatabase_meets trivial trivial trivial
    (fun hor error => ?_) (fun _ _ _ => rfl))
  have hfails : VerificationFails faults .installed :=
    hor.resolve_right (not_not_intro ⟨copy, hinstalled, hverifies⟩)
  have hmoved := hkept (hfaults.databaseExists_of_verification hfails)
  refine Program.meets_lift_bind.mpr (fallible_meets (fun hdiscard => ?_) (fun _ t _ hact => ?_))
  · rw [hfaults.discard, hinstalled] at hdiscard
    simp at hdiscard
  · rw [hinstalled] at hact
    cases hact
    have hother : (directory.put database none) previous = directory previous :=
      Directory.put_of_ne hprevious
    exact ⟨trivial, Program.meets_lift_bind.mpr
      (reinstate_restores hfaults _ Directory.put_self (hother.trans hmoved))⟩

/-- The second half: only the last step can fail with the copy in place. -/
theorem installRestored_keeps (hfaults : SingleFault faults) (htemporary : temporary ≠ database)
    (hprevious : previous ≠ database) (hdistinct : temporary ≠ previous)
    (hsame : directory database = before database) (hprepared : directory temporary = some copy)
    (habsent : directory previous = none) (hverifies : Verifies sqlite copy) :
    (installRestored sqlite faults database temporary previous).run.Meets directory anywhere
      fun r t => ∀ error, r = .error error → t database = before database ∨
        faults.fails .removePreserved = true ∧ t database = some copy := by
  have hrest : ∀ t : Directory Content, t temporary = some copy →
      Preserved faults before database previous t → (do
        installTemporary faults database temporary previous
        verifyInstalled sqlite faults database previous
        removeIfExists faults .removePreserved previous : BackupProgram Content Unit).run.Meets t
        anywhere fun r t => ∀ error, r = .error error → t database = before database ∨
          faults.fails .removePreserved = true ∧ t database = some copy := by
    intro t hprepared hpreserved
    refine Program.meets_run_bind.mpr ((installTemporary_keeps hfaults hprevious hdistinct
      hprepared hpreserved).mono (fun _ _ h => h) (fun r u hu => ?_))
    cases r with
    | error _ => exact fun _ _ => .inl hu
    | ok _ =>
      refine Program.meets_run_bind.mpr ((verifyInstalled_keeps hfaults hprevious hu.1 hverifies
        hu.2).mono (fun _ _ h => h) (fun r v hv => ?_))
      cases r with
      | error _ => exact fun _ _ => .inl hv
      | ok _ =>
        subst hv
        refine removeIfExists_meets trivial (fun hfails _ _ _ => .inr ⟨hfails, hu.1⟩) trivial ?_
        exact fun _ h => nomatch h
  unfold installRestored
  refine Program.meets_lift_bind.mpr (existsAt_meets trivial ?_)
  cases hseen : faults.fails .databaseExists with
  | true => exact hrest directory hprepared (.inr ⟨hseen, hsame, habsent⟩)
  | false =>
    cases hold : directory database with
    | none =>
      refine hrest directory hprepared (.inl ⟨hseen, hold, ?_⟩)
      rw [habsent, ← hsame, hold]
    | some old =>
      refine Program.meets_run_bind.mpr (renameFile_meets (fun _ => ⟨trivial, ?_⟩)
        (fun t _ hrenamed => ⟨trivial, ?_⟩))
      · exact fun _ _ => .inl hsame
      · have hnone := Directory.rename_source hrenamed hprevious.symm
        have hmoved := (Directory.rename_target hrenamed).trans hsame
        have hkept := Directory.rename_of_ne hrenamed htemporary hdistinct
        exact hrest t (hkept.trans hprepared) (.inl ⟨hseen, hnone, hmoved⟩)

/-! ## The whole restore -/

/-- The directory when the input is opened for the copy. -/
def cleared (before : Directory Content) (temporary previous : Path) : Directory Content :=
  (before.put temporary none).put previous none

/-- The restore copies the input, and the copy passes its verification: everything up to the
removal of the preserved database succeeds unless a step fails. -/
structure Installs (sqlite : Sqlite Content) (before : Directory Content) (input : Path)
    (temporary previous : Path) (source copy : Content) : Prop where
  readable : cleared before temporary previous input = some source
  source_verifies : Verifies sqlite source
  copied : sqlite.vacuum source = some copy
  /-- SQLite writes the copy where the restore looks for it. -/
  path_is_text : temporary.toStringLossy = temporary
  copy_verifies : Verifies sqlite copy

theorem cleared_other {path : Path} (htemporary : path ≠ temporary) (hprevious : path ≠ previous) :
    cleared before temporary previous path = before path :=
  (Directory.put_of_ne hprevious).trans (Directory.put_of_ne htemporary)

theorem before_of_cleared {path : Path} {content : Content}
    (h : cleared before temporary previous path = some content) : before path = some content :=
  Directory.of_put_none (Directory.of_put_none h)

/-- Whatever single step fails, an error leaves the database as it was or comes from the last
step, when the copy has been installed. -/
theorem restoreDatabase_keeps (hfaults : SingleFault faults) (temporaryId previousId : String) :
    (restoreDatabase sqlite faults database input temporaryId previousId).run.Meets before anywhere
      fun r t => ∀ error, r = .error error → t database = before database ∨
        faults.fails .removePreserved = true ∧ ∃ source copy,
          Installs sqlite before input (siblingTemporary database "restore" temporaryId)
            (siblingTemporary database "previous" previousId) source copy ∧
          t database = some copy := by
  have htemporary := siblingTemporary_ne database "restore" temporaryId
  have hlossy := siblingTemporary_lossy_ne database "restore" temporaryId
  have hprevious := siblingTemporary_ne database "previous" previousId
  have hdistinct := siblingTemporary_restore_ne_previous database temporaryId previousId
  unfold restoreDatabase
  generalize siblingTemporary database "restore" temporaryId = temporary at *
  generalize siblingTemporary database "previous" previousId = previous at *
  have hremoved : (before.put temporary none) database = before database :=
    Directory.put_of_ne htemporary.symm
  have hcleared : cleared before temporary previous database = before database :=
    cleared_other htemporary.symm hprevious.symm
  have hwritten : ∀ content, ((cleared before temporary previous).put temporary.toStringLossy
      content) database = before database :=
    fun content => (Directory.put_of_ne hlossy.symm).trans hcleared
  refine Program.meets_run_bind.mpr (verifyDatabase_meets trivial trivial trivial
    (fun _ _ _ _ => .inl rfl) (fun verified hverified hsource => ?_))
  refine Program.meets_run_bind.mpr (removeIfExists_meets trivial (fun _ _ _ _ => .inl rfl)
    trivial ?_)
  refine Program.meets_run_bind.mpr (removeIfExists_meets trivial (fun _ _ _ _ => .inl hremoved)
    trivial ?_)
  refine Program.meets_run_bind.mpr (reading_meets trivial (fun _ _ _ => .inl hcleared)
    (fun source hreadable => ?_))
  obtain rfl : verified = source := by
    rw [before_of_cleared hreadable] at hverified
    exact (Option.some.inj hverified).symm
  refine Program.meets_run_bind.mpr (vacuumInto_meets (fun _ => trivial)
    (fun _ written _ _ => .inl (hwritten written)) (fun _ => ⟨trivial, fun _ _ => .inl hcleared⟩)
    (fun copy hcopied => ?_))
  refine Program.meets_run_bind.mpr (fallible_meets (fun _ => ⟨trivial, fun _ _ =>
    .inl (hwritten _)⟩) (fun _ t _ ht => ⟨trivial, ?_⟩))
  simp only [Option.map_eq_some_iff, Prod.mk.injEq] at ht
  obtain ⟨secured, hsecured, _, rfl⟩ := ht
  -- a copy that was written elsewhere is not found
  have htext : temporary.toStringLossy = temporary := by
    by_contra hne
    rw [Directory.put_of_ne (Ne.symm hne), Directory.put_of_ne hdistinct, Directory.put_self]
      at hsecured
    cases hsecured
  refine Program.meets_run_bind.mpr (verifyDatabase_meets trivial trivial trivial
    (fun _ _ _ _ => .inl (hwritten _)) (fun found hfound hcopy => ?_))
  have hprepared : ((cleared before temporary previous).put temporary.toStringLossy (some copy))
      temporary = some copy := by rw [htext, Directory.put_self]
  obtain rfl : copy = found := Option.some.inj (hprepared.symm.trans hfound)
  refine (installRestored_keeps hfaults htemporary hprevious hdistinct
    (hwritten _) hprepared ?_ hcopy).mono (fun _ _ h => h) (fun r t h error herror => ?_)
  · rw [htext, Directory.put_of_ne hdistinct.symm, cleared, Directory.put_self]
  · exact (h error herror).imp_right fun ⟨hfails, hreplaced⟩ => ⟨hfails, verified, copy,
      ⟨hreadable, hsource, hcopied, htext, hcopy⟩, hreplaced⟩

/-! ## The last step -/

/-- No step of the verification of a file fails when another one does. -/
theorem SingleFault.verification (hfaults : SingleFault faults)
    (hfails : faults.fails .removePreserved = true) {file : Verified} :
    ¬ VerificationFails faults file := by
  rintro (h | h | h)
  all_goals cases hfaults.unique _ _ h hfails

theorem installRestored_replaces (hfaults : SingleFault faults)
    (hfails : faults.fails .removePreserved = true) (htemporary : temporary ≠ database)
    (hdistinct : temporary ≠ previous)
    (hprepared : directory temporary = some copy) (hverifies : Verifies sqlite copy) :
    (installRestored sqlite faults database temporary previous).run.Meets directory anywhere
      fun r t => (∃ error, r = .error error) ∧ t database = some copy := by
  have honly {step : BackupStep} (h : faults.fails step = true) : step = .removePreserved :=
    hfaults.unique _ _ h hfails
  have hrest : ∀ t : Directory Content, t temporary = some copy → (do
      installTemporary faults database temporary previous
      verifyInstalled sqlite faults database previous
      removeIfExists faults .removePreserved previous : BackupProgram Content Unit).run.Meets t
      anywhere fun r t => (∃ error, r = .error error) ∧ t database = some copy := by
    intro t hprepared
    refine Program.meets_run_bind.mpr (Program.meets_lift_bind.mpr (renameFile_meets
      (fun hor => ?_) (fun u _ hrenamed => ⟨trivial, ?_⟩)))
    · have hnone := hor.resolve_left fun h => nomatch honly h
      rw [hprepared] at hnone
      cases hnone
    have hinstalled : u database = some copy := (Directory.rename_target hrenamed).trans hprepared
    refine Program.meets_run_bind.mpr (Program.meets_lift_bind.mpr (verifyDatabase_meets trivial
      trivial trivial (fun hor _ => ?_) (fun _ _ _ => ?_)))
    · exact absurd ⟨copy, hinstalled, hverifies⟩ (hor.resolve_left (hfaults.verification hfails))
    change (removeIfExists faults .removePreserved previous).run.Meets u anywhere _
    refine fallible_meets (fun _ => ?_) (fun _ _ hnot _ => ?_)
    · exact ⟨trivial, ⟨_, rfl⟩, hinstalled⟩
    · rw [hfails] at hnot
      cases hnot
  unfold installRestored
  refine Program.meets_lift_bind.mpr (existsAt_meets trivial ?_)
  cases hold : directory database with
  | none =>
    rw [Option.isSome_none, Bool.and_false]
    exact hrest directory hprepared
  | some old =>
    split
    · refine Program.meets_run_bind.mpr (renameFile_meets (fun hor => ?_)
        (fun t _ hrenamed => ⟨trivial, hrest t ?_⟩))
      · have hnone := hor.resolve_left fun h => nomatch honly h
        rw [hold] at hnone
        cases hnone
      · exact (Directory.rename_of_ne hrenamed htemporary hdistinct).trans hprepared
    · exact hrest directory hprepared

/-- When only the removal of the preserved database fails, everything before it succeeds: the copy
is installed, and the restore ends with an error. -/
theorem restoreDatabase_replaces (hfaults : SingleFault faults)
    (hfails : faults.fails .removePreserved = true) (temporaryId previousId : String)
    (hinstalls : Installs sqlite before input (siblingTemporary database "restore" temporaryId)
      (siblingTemporary database "previous" previousId) source copy) :
    (restoreDatabase sqlite faults database input temporaryId previousId).run.Meets before anywhere
      fun r t => (∃ error, r = .error error) ∧ t database = some copy := by
  have htemporary := siblingTemporary_ne database "restore" temporaryId
  have hprevious := siblingTemporary_ne database "previous" previousId
  have hdistinct := siblingTemporary_restore_ne_previous database temporaryId previousId
  have honly {step : BackupStep} (h : faults.fails step = true) : step = .removePreserved :=
    hfaults.unique _ _ h hfails
  have hverified {file : Verified} : ¬ VerificationFails faults file :=
    hfaults.verification hfails
  unfold restoreDatabase
  generalize siblingTemporary database "restore" temporaryId = temporary at *
  generalize siblingTemporary database "previous" previousId = previous at *
  obtain ⟨hreadable, hsource, hcopied, htext, hcopy⟩ := hinstalls
  refine Program.meets_run_bind.mpr (verifyDatabase_meets trivial trivial trivial (fun hor _ => ?_)
    (fun _ _ _ => ?_))
  · exact absurd ⟨source, before_of_cleared hreadable, hsource⟩ (hor.resolve_left hverified)
  refine Program.meets_run_bind.mpr (removeIfExists_meets trivial (fun h => nomatch honly h)
    trivial ?_)
  refine Program.meets_run_bind.mpr (removeIfExists_meets trivial (fun h => nomatch honly h)
    trivial ?_)
  refine Program.meets_run_bind.mpr (reading_meets trivial (fun hor => ?_)
    (fun opened hopened => ?_))
  · have hnone := hor.resolve_left fun h => nomatch honly h
    rw [← cleared, hreadable] at hnone
    cases hnone
  obtain rfl : source = opened := Option.some.inj (hreadable.symm.trans hopened)
  have hunused : cleared before temporary previous temporary = none := by
    rw [cleared, Directory.put_of_ne hdistinct, Directory.put_self]
  refine Program.meets_run_bind.mpr (vacuumInto_meets (fun _ => trivial) (fun hor _ => ?_)
    (fun hoccupied => ?_) (fun written hwritten => ?_))
  · have hnone := hor.resolve_left fun h => nomatch honly h
    rw [hcopied] at hnone
    cases hnone
  · rw [htext] at hoccupied
    exact absurd hunused hoccupied
  obtain rfl : copy = written := Option.some.inj (hcopied.symm.trans hwritten)
  rw [htext]
  have hprepared : ((cleared before temporary previous).put temporary (some copy)) temporary =
      some copy := Directory.put_self
  change Program.Meets _ ((cleared before temporary previous).put temporary (some copy)) _ _
  generalize (cleared before temporary previous).put temporary (some copy) = t at *
  refine Program.meets_run_bind.mpr (fallible_meets (fun hor => ?_) (fun _ u _ hu => ?_))
  · have hnone := hor.resolve_left fun h => nomatch honly h
    rw [hprepared] at hnone
    cases hnone
  rw [hprepared] at hu
  cases hu
  refine ⟨trivial, Program.meets_run_bind.mpr (verifyDatabase_meets trivial trivial trivial
    (fun hor _ => ?_) (fun _ _ _ => ?_))⟩
  · exact absurd ⟨copy, hprepared, hcopy⟩ (hor.resolve_left hverified)
  exact installRestored_replaces hfaults hfails htemporary hdistinct hprepared hcopy

/-! ## When an error leaves the database as it was -/

/-- An error leaves the database as it was, unless it is the removal of the preserved database that
fails after another copy has been installed. -/
theorem restore_failure_keeps_iff (hfaults : SingleFault faults) (temporaryId previousId : String) :
    (∀ error, ((restoreDatabase sqlite faults database input temporaryId previousId).run.outcome
        before).1 = .error error →
      ((restoreDatabase sqlite faults database input temporaryId previousId).run.outcome
        before).2 database = before database) ↔
      ¬ (faults.fails .removePreserved = true ∧ ∃ source copy,
        Installs sqlite before input (siblingTemporary database "restore" temporaryId)
          (siblingTemporary database "previous" previousId) source copy ∧
        before database ≠ some copy) := by
  constructor
  · rintro hkeeps ⟨hfails, source, copy, hinstalls, hother⟩
    obtain ⟨⟨error, herror⟩, hreplaced⟩ := (Program.meets_iff.mp
      (restoreDatabase_replaces hfaults hfails temporaryId previousId hinstalls)).2
    exact hother ((hkeeps error herror).symm.trans hreplaced)
  · intro hexcept error herror
    rcases (Program.meets_iff.mp
      (restoreDatabase_keeps hfaults temporaryId previousId)).2 error herror with
      hsame | ⟨hfails, source, copy, hinstalls, hreplaced⟩
    · exact hsame
    · by_contra hchanged
      refine hexcept ⟨hfails, source, copy, hinstalls, fun hsame => hchanged ?_⟩
      rw [hreplaced, hsame]

/-! ### A directory that keeps its files -/

/-- Only the removal of the preserved database fails. -/
def keepsPreserved : BackupFaults String :=
  ⟨fun step => match step with
    | .removePreserved => true
    | _ => false, none⟩

theorem keepsPreserved_single : SingleFault keepsPreserved := by
  have honly (step : BackupStep) (h : keepsPreserved.fails step = true) :
      step = .removePreserved := by
    cases step
    case removePreserved => rfl
    all_goals cases h
  exact ⟨fun a b ha hb => (honly a ha).trans (honly b hb).symm, fun _ => rfl, fun _ => rfl, rfl⟩

theorem restore_failure_replaces :
    SingleFault keepsPreserved ∧
      ((restoreDatabase plainSqlite keepsPreserved [.name "surface.db"] [.name "backup.db"] "a"
        "b").run.outcome plainDirectory).1 = .error "could not remove temporary database" ∧
      ((restoreDatabase plainSqlite keepsPreserved [.name "surface.db"] [.name "backup.db"] "a"
        "b").run.outcome plainDirectory).2 [.name "surface.db"] ≠
        plainDirectory [.name "surface.db"] :=
  ⟨keepsPreserved_single, by decide +kernel⟩

theorem restore_failure_keeps_iff_plain :
    (∀ error, ((restoreDatabase plainSqlite keepsPreserved [.name "surface.db"]
        [.name "backup.db"] "a" "b").run.outcome plainDirectory).1 = .error error →
      ((restoreDatabase plainSqlite keepsPreserved [.name "surface.db"] [.name "backup.db"] "a"
        "b").run.outcome plainDirectory).2 [.name "surface.db"] =
        plainDirectory [.name "surface.db"]) ↔
      ¬ (keepsPreserved.fails .removePreserved = true ∧ ∃ source copy,
        Installs plainSqlite plainDirectory [.name "backup.db"]
          (siblingTemporary [.name "surface.db"] "restore" "a")
          (siblingTemporary [.name "surface.db"] "previous" "b") source copy ∧
        plainDirectory [.name "surface.db"] ≠ some copy) :=
  restore_failure_keeps_iff keepsPreserved_single "a" "b"

end Surface
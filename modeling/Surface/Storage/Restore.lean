import Surface.Storage.Backup

/-!
# Surface.Storage.Restore

A process that stops in the middle of `restore_database`.

* `siblingTemporary_ne`: the temporary files are not the database, nor each other.
* a rule for each step of a restore.
* `Vacated`: the steps after which nothing is at the path of the database.
* `restore_complete_iff`: everywhere else the database is complete, the old or the restored one.
-/

namespace Surface

/-! ## Names -/

namespace Path

theorem withFileName_ne {path : Path} {name : String}
    (hname : ∀ text, path.fileName = some text → name ≠ text) : path.withFileName name ≠ path := by
  intro h
  unfold withFileName at h
  split at h
  · cases h
    exact hname _ rfl rfl
  · cases h
  · have hlength := congrArg List.length h
    simp at hlength

theorem withFileName_toStringLossy_ne {path : Path} {name : String}
    (hname : ∀ text, path.fileName = some text → name ≠ text) :
    (path.withFileName name).toStringLossy ≠ path := by
  intro h
  unfold withFileName at h
  split at h
  · simp only [toStringLossy, List.map_cons, List.cons.injEq] at h
    cases h.1
    exact hname _ rfl rfl
  · simp [toStringLossy] at h
  · have hlength := congrArg List.length h
    simp [toStringLossy] at hlength

theorem withFileName_inj {path : Path} {name name' : String} :
    path.withFileName name = path.withFileName name' → name = name' := by
  intro h
  unfold withFileName at h
  split at h <;> simpa using h

end Path

theorem siblingTemporary_name_ne {path : Path} {label id : String} :
    ∀ text, path.fileName = some text →
      "." ++ path.fileName.getD "surface.db" ++ "." ++ label ++ "." ++ id ≠ text := by
  intro text htext heq
  rw [htext] at heq
  have hlength := congrArg String.length heq
  simp only [Option.getD_some, String.length_append] at hlength
  have hdot : ".".length = 1 := by decide
  omega

theorem siblingTemporary_ne (path : Path) (label id : String) :
    siblingTemporary path label id ≠ path :=
  Path.withFileName_ne siblingTemporary_name_ne

theorem siblingTemporary_lossy_ne (path : Path) (label id : String) :
    (siblingTemporary path label id).toStringLossy ≠ path :=
  Path.withFileName_toStringLossy_ne siblingTemporary_name_ne

theorem siblingTemporary_restore_ne_previous (path : Path) (id id' : String) :
    siblingTemporary path "restore" id ≠ siblingTemporary path "previous" id' := by
  intro h
  have hname := congrArg String.toList (Path.withFileName_inj h)
  simp only [String.toList_append, List.append_assoc, List.append_cancel_left_eq] at hname
  have hrestore : "restore".toList = 'r' :: "estore".toList := by decide
  have hprevious : "previous".toList = 'p' :: "revious".toList := by decide
  rw [hrestore, hprevious] at hname
  cases hname

/-! ## Directories -/

namespace Directory

variable {Content : Type} {directory directory' : Directory Content} {path other : Path}

@[simp] theorem put_self {content : Option Content} :
    directory.put path content path = content := Function.update_self ..

theorem put_of_ne {content : Option Content} (h : other ≠ path) :
    directory.put path content other = directory other := Function.update_of_ne h ..

theorem rename_source {target : Path} (h : directory.rename path target = some directory')
    (hne : path ≠ target) : directory' path = none := by
  unfold rename at h
  split at h
  · cases h
  · cases h
    rw [put_of_ne hne, put_self]

theorem rename_target {target : Path} (h : directory.rename path target = some directory') :
    directory' target = directory path := by
  unfold rename at h
  split at h
  · cases h
  · rename_i content hcontent
    cases h
    rw [put_self, hcontent]

theorem rename_of_ne {target : Path} (h : directory.rename path target = some directory')
    (hsource : other ≠ path) (htarget : other ≠ target) : directory' other = directory other := by
  unfold rename at h
  split at h
  · cases h
  · cases h
    rw [put_of_ne htarget, put_of_ne hsource]

theorem of_put_none {content : Content} (h : directory.put path none other = some content) :
    directory other = some content := by
  by_cases heq : other = path
  · subst heq
    rw [put_self] at h
    cases h
  · rwa [put_of_ne heq] at h

end Directory

/-! ## Rules for the steps -/

variable {Content : Type} {sqlite : Sqlite Content} {faults : BackupFaults Content}
  {directory : Directory Content} {during : BackupStep → Directory Content → Prop}

theorem fallible_meets {α : Type} {label : BackupStep} {message : String}
    {act : Directory Content → Option (α × Directory Content)}
    {post : Except String α → Directory Content → Prop}
    (herror : faults.fails label = true ∨ act directory = none →
      during label directory ∧ post (.error message) directory)
    (hok : ∀ a directory', faults.fails label = false → act directory = some (a, directory') →
      during label directory' ∧ post (.ok a) directory') :
    (fallible faults label message act).run.Meets directory during post := by
  refine Program.meets_atomic.mpr ?_
  cases hfails : faults.fails label with
  | true => exact herror (.inl hfails)
  | false =>
    rw [if_neg Bool.false_ne_true]
    cases hact : act directory with
    | none => exact herror (.inr hact)
    | some result => exact hok result.1 result.2 hfails hact

/-- A step that only reads. -/
theorem reading_meets {α : Type} {label : BackupStep} {message : String}
    {query : Directory Content → Option α} {post : Except String α → Directory Content → Prop}
    (hduring : during label directory)
    (herror : faults.fails label = true ∨ query directory = none → post (.error message) directory)
    (hok : ∀ a, query directory = some a → post (.ok a) directory) :
    (fallible faults label message fun directory =>
      (query directory).map fun a => (a, directory)).run.Meets directory during post := by
  refine fallible_meets (fun h => ⟨hduring, herror (h.imp_right Option.map_eq_none_iff.mp)⟩)
    (fun a directory' _ hact => ?_)
  simp only [Option.map_eq_some_iff, Prod.mk.injEq] at hact
  obtain ⟨b, hb, rfl, rfl⟩ := hact
  exact ⟨hduring, hok b hb⟩

theorem existsAt_meets {label : BackupStep} {path : Path}
    {post : Bool → Directory Content → Prop} (hduring : during label directory)
    (hpost : post (!faults.fails label && (directory path).isSome) directory) :
    (existsAt faults label path).Meets directory during post :=
  ⟨hduring, hpost⟩

/-- What a verification asks of the content of a file. -/
structure Verifies (sqlite : Sqlite Content) (content : Content) : Prop where
  integrity : sqlite.integrityCheck content = some "ok"
  version : ∃ version, sqlite.schemaVersion content = some version ∧ version ≤ latestSupported

/-- A step of the verification of a file fails. -/
def VerificationFails (faults : BackupFaults Content) (file : Verified) : Prop :=
  faults.fails (.openForVerification file) = true ∨ faults.fails (.integrityCheck file) = true ∨
    faults.fails (.schemaVersion file) = true

/-- A verification changes nothing. Without a failing step it accepts what verifies. -/
theorem verifyDatabase_meets {file : Verified} {path : Path}
    {post : Except String Unit → Directory Content → Prop}
    (hopen : during (.openForVerification file) directory)
    (hintegrity : during (.integrityCheck file) directory)
    (hversion : during (.schemaVersion file) directory)
    (herror : (VerificationFails faults file ∨
        ¬ ∃ content, directory path = some content ∧ Verifies sqlite content) →
      ∀ error, post (.error error) directory)
    (hok : ∀ content, directory path = some content → Verifies sqlite content →
      post (.ok ()) directory) :
    (verifyDatabase sqlite faults file path).run.Meets directory during post := by
  refine Program.meets_run_bind.mpr (reading_meets hopen (fun hor => herror ?_ _)
    (fun content hcontent => ?_))
  · refine hor.imp .inl ?_
    rintro hnone ⟨content, hcontent, _⟩
    rw [hnone] at hcontent
    cases hcontent
  have hrejected (h : ¬ Verifies sqlite content) :
      ¬ ∃ content, directory path = some content ∧ Verifies sqlite content := by
    rintro ⟨other, hother, hverifies⟩
    rw [hcontent] at hother
    cases hother
    exact h hverifies
  refine Program.meets_run_bind.mpr (reading_meets hintegrity (fun hor => herror ?_ _)
    (fun integrity hchecked => ?_))
  · refine hor.imp (fun h => .inr (.inl h)) (fun hnone => hrejected fun hverifies => ?_)
    rw [hverifies.integrity] at hnone
    cases hnone
  by_cases hcorrupt : integrity ≠ "ok"
  · simp only [if_pos hcorrupt]
    refine herror (.inr (hrejected fun hverifies => hcorrupt ?_)) _
    rw [hverifies.integrity] at hchecked
    exact (Option.some.inj hchecked).symm
  simp only [if_neg hcorrupt]
  refine Program.meets_run_bind.mpr (reading_meets hversion (fun hor => herror ?_ _)
    (fun version hread => ?_))
  · refine hor.imp (fun h => .inr (.inr h)) (fun hnone => hrejected fun hverifies => ?_)
    obtain ⟨version, hversion, _⟩ := hverifies.version
    rw [hversion] at hnone
    cases hnone
  by_cases hnewer : version > latestSupported
  · simp only [if_pos hnewer]
    refine herror (.inr (hrejected fun hverifies => ?_)) _
    obtain ⟨other, hother, hle⟩ := hverifies.version
    rw [hread] at hother
    cases hother
    omega
  · simp only [if_neg hnewer]
    rw [not_not.mp hcorrupt] at hchecked
    exact hok content hcontent ⟨hchecked, version, hread, not_lt.mp hnewer⟩

theorem renameFile_meets {label : BackupStep} {message : String} {source target : Path}
    {post : Except String Unit → Directory Content → Prop}
    (herror : faults.fails label = true ∨ directory source = none →
      during label directory ∧ post (.error message) directory)
    (hok : ∀ directory', faults.fails label = false →
      directory.rename source target = some directory' →
        during label directory' ∧ post (.ok ()) directory') :
    (renameFile faults label message source target).run.Meets directory during post := by
  refine fallible_meets (fun h => herror ?_) (fun a directory' hfails hact => ?_)
  · refine h.imp_right (fun hnone => ?_)
    rw [Option.map_eq_none_iff] at hnone
    unfold Directory.rename at hnone
    split at hnone
    · assumption
    · cases hnone
  · simp only [Option.map_eq_some_iff, Prod.mk.injEq] at hact
    obtain ⟨renamed, hrenamed, _, rfl⟩ := hact
    exact hok renamed hfails hrenamed

theorem removeIfExists_meets {label : BackupStep} {path : Path}
    {post : Except String Unit → Directory Content → Prop} (hduring : during label directory)
    (herror : faults.fails label = true → ∀ message, post (.error message) directory)
    (hremoved : during label (directory.put path none))
    (hok : post (.ok ()) (directory.put path none)) :
    (removeIfExists faults label path).run.Meets directory during post := by
  refine fallible_meets (fun h => ⟨hduring, herror (h.resolve_right (by simp)) _⟩)
    (fun a directory' _ hact => ?_)
  cases hact
  exact ⟨hremoved, hok⟩

theorem vacuumInto_meets {message : String} {content : Content} {path : Path}
    {post : Except String Unit → Directory Content → Prop}
    (hduring : ∀ written, during .vacuumInto (directory.put path.toStringLossy written))
    (herror : faults.fails .vacuumInto = true ∨ sqlite.vacuum content = none →
      ∀ written, post (.error message) (directory.put path.toStringLossy written))
    (hoccupied : directory path.toStringLossy ≠ none →
      during .vacuumInto directory ∧ post (.error message) directory)
    (hok : ∀ copy, sqlite.vacuum content = some copy →
      post (.ok ()) (directory.put path.toStringLossy (some copy))) :
    (vacuumInto sqlite faults message content path).run.Meets directory during post := by
  refine Program.meets_atomic.mpr ?_
  cases hpath : directory path.toStringLossy with
  | some _ => exact hoccupied (by simp [hpath])
  | none =>
    cases hcopy : if faults.fails .vacuumInto then none else sqlite.vacuum content with
    | none =>
      refine ⟨hduring _, herror ?_ _⟩
      cases hfails : faults.fails .vacuumInto with
      | true => exact .inl rfl
      | false => exact .inr (by simpa [hfails] using hcopy)
    | some copy =>
      refine ⟨hduring _, hok copy ?_⟩
      split at hcopy
      · cases hcopy
      · exact hcopy

/-! ## Where a restore can stop -/

/-- What a stopped process may leave: the database as it was, or the copy of the input. -/
def DatabaseComplete (sqlite : Sqlite Content) (before : Directory Content)
    (database input : Path) (after : Directory Content) : Prop :=
  after database = before database ∨
    ∃ source copy, before input = some source ∧ sqlite.vacuum source = some copy ∧
      after database = some copy

/-- The steps after which nothing is at the path of the database: the database has been renamed
away, or the restored one removed, and no rename onto the path has succeeded since. -/
def Vacated (faults : BackupFaults Content) : BackupStep → Prop
  | .preserve => faults.fails .preserve = false
  | .install => faults.fails .install = true ∧ faults.fails .databaseExists = false
  | .previousExists .install => faults.fails .databaseExists = false
  | .reinstate .install => faults.fails (.reinstate .install) = true
  | .discard => faults.fails .discard = false
  | .previousExists .verification => faults.fails .discard = false
  | .reinstate .verification =>
    faults.fails (.reinstate .verification) = true ∧ faults.fails .discard = false
  | _ => False

/-- A condition on what every step may leave, as the restore of a database has to meet it. -/
def StopsComplete (sqlite : Sqlite Content) (faults : BackupFaults Content)
    (before : Directory Content) (database input : Path) (label : BackupStep)
    (after : Directory Content) : Prop :=
  DatabaseComplete sqlite before database input after ↔ ¬ Vacated faults label

section Stops

variable {before : Directory Content} {database input temporary previous : Path} {old : Content}

theorem StopsComplete.unchanged {label : BackupStep}
    (hsame : directory database = before database) (hlabel : ¬ Vacated faults label) :
    StopsComplete sqlite faults before database input label directory :=
  iff_of_true (.inl hsame) hlabel

theorem StopsComplete.restored {label : BackupStep} {source copy : Content}
    (hsource : before input = some source) (hcopy : sqlite.vacuum source = some copy)
    (hdatabase : directory database = some copy) (hlabel : ¬ Vacated faults label) :
    StopsComplete sqlite faults before database input label directory :=
  iff_of_true (.inr ⟨source, copy, hsource, hcopy, hdatabase⟩) hlabel

theorem StopsComplete.vacated {label : BackupStep} (hold : before database = some old)
    (hnone : directory database = none) (hlabel : Vacated faults label) :
    StopsComplete sqlite faults before database input label directory := by
  refine iff_of_false ?_ (not_not_intro hlabel)
  rintro (hsame | ⟨_, _, _, _, hcopy⟩)
  · rw [hnone, hold] at hsame
    cases hsame
  · rw [hnone] at hcopy
    cases hcopy

/-- A rollback: when the rename back fails the step leaves what was there. -/
theorem reinstate_meets {rollback : Rollback} {post : Unit → Directory Content → Prop}
    (hexists : during (.previousExists rollback) directory)
    (hfail : faults.fails (.reinstate rollback) = true → directory previous ≠ none →
      during (.reinstate rollback) directory)
    (hback : ∀ directory', faults.fails (.reinstate rollback) = false →
      directory previous ≠ none → directory' database = directory previous →
        during (.reinstate rollback) directory') (hpost : ∀ directory', post () directory') :
    (reinstate faults rollback previous database).Meets directory during post := by
  refine Program.meets_bind.mpr (existsAt_meets hexists ?_)
  cases hprevious : directory previous with
  | none =>
    rw [Option.isSome_none, Bool.and_false]
    exact hpost _
  | some content =>
    split
    · refine Program.meets_bind.mpr (renameFile_meets (fun hor => ⟨?_, hpost _⟩)
        (fun directory' hfails hrenamed => ⟨?_, hpost _⟩))
      · refine hfail (hor.resolve_right ?_) ?_ <;> rw [hprevious] <;> simp
      · exact hback directory' hfails (by rw [hprevious]; simp) (Directory.rename_target hrenamed)
    · exact hpost _

/-- After the first rename: the database is at the previous path, or it was not seen at all. -/
def Preserved (faults : BackupFaults Content) (before : Directory Content)
    (database previous : Path) (directory : Directory Content) : Prop :=
  (faults.fails .databaseExists = false ∧ directory database = none ∧
      directory previous = before database) ∨
    (faults.fails .databaseExists = true ∧ directory database = before database ∧
      directory previous = none)

theorem installTemporary_stops {source copy : Content} (hold : before database = some old)
    (hsource : before input = some source) (hcopy : sqlite.vacuum source = some copy)
    (hprevious : previous ≠ database) (hdistinct : temporary ≠ previous)
    (hprepared : directory temporary = some copy)
    (hpreserved : Preserved faults before database previous directory) :
    (installTemporary faults database temporary previous).run.Meets directory
      (StopsComplete sqlite faults before database input) fun r t => ∀ a, r = .ok a →
        t database = some copy ∧ (t previous = before database ∨ t previous = none) := by
  unfold installTemporary
  refine Program.meets_lift_bind.mpr (renameFile_meets (fun hor => ?_)
    (fun directory' hfails hrenamed => ?_))
  · have hfails : faults.fails .install = true := by
      refine hor.resolve_right ?_
      rw [hprepared]
      simp
    rcases hpreserved with ⟨hseen, hnone, hmoved⟩ | ⟨hseen, hsame, hnone⟩
    · refine ⟨.vacated hold hnone ⟨hfails, hseen⟩, Program.meets_lift_bind.mpr ?_⟩
      refine reinstate_meets (.vacated hold hnone hseen)
        (fun hfail _ => .vacated hold hnone hfail) (fun directory' hback _ hsame => ?_)
        (fun _ _ h => nomatch h)
      exact .unchanged (hsame.trans hmoved) (by simp [Vacated, hback])
    · have hlabel : faults.fails .databaseExists ≠ false := by simp [hseen]
      refine ⟨.unchanged hsame fun h => hlabel h.2, Program.meets_lift_bind.mpr ?_⟩
      exact reinstate_meets (.unchanged hsame hlabel) (fun _ h => absurd hnone h)
        (fun _ _ h _ => absurd hnone h) (fun _ _ h => nomatch h)
  · have hinstalled : directory' database = some copy :=
      (Directory.rename_target hrenamed).trans hprepared
    have hkept := Directory.rename_of_ne hrenamed hdistinct.symm hprevious
    refine ⟨.restored hsource hcopy hinstalled (by simp [Vacated, hfails]), fun _ _ => ?_⟩
    refine ⟨hinstalled, ?_⟩
    rw [hkept]
    exact hpreserved.imp (fun h => h.2.2) (fun h => h.2.2)

theorem verifyInstalled_stops {source copy : Content} (hold : before database = some old)
    (hsource : before input = some source) (hcopy : sqlite.vacuum source = some copy)
    (hprevious : previous ≠ database) (hinstalled : directory database = some copy)
    (hkept : directory previous = before database ∨ directory previous = none) :
    (verifyInstalled sqlite faults database previous).run.Meets directory
      (StopsComplete sqlite faults before database input) fun r t => ∀ a, r = .ok a →
        t = directory := by
  unfold verifyInstalled
  refine Program.meets_lift_bind.mpr (verifyDatabase_meets (.restored hsource hcopy hinstalled id)
    (.restored hsource hcopy hinstalled id) (.restored hsource hcopy hinstalled id)
    (fun _ error => ?_) (fun _ _ _ => ?_))
  · refine Program.meets_lift_bind.mpr (fallible_meets (fun hor => ?_)
      (fun a directory' hfails hact => ?_))
    · -- the restored database stays
      have hfails : faults.fails .discard = true := by
        refine hor.resolve_right ?_
        rw [hinstalled]
        simp
      have hlabel : faults.fails .discard ≠ false := by simp [hfails]
      refine ⟨.restored hsource hcopy hinstalled hlabel, Program.meets_lift_bind.mpr ?_⟩
      refine reinstate_meets (.restored hsource hcopy hinstalled hlabel)
        (fun _ _ => .restored hsource hcopy hinstalled fun h => hlabel h.2)
        (fun directory' _ hfound hback => ?_) (fun _ _ h => nomatch h)
      exact .unchanged (hback.trans (hkept.resolve_right hfound)) fun h => hlabel h.2
    · rw [hinstalled] at hact
      cases hact
      have hnone : (directory.put database none) database = none := Directory.put_self
      have hother : (directory.put database none) previous = directory previous :=
        Directory.put_of_ne hprevious
      refine ⟨.vacated hold hnone hfails, Program.meets_lift_bind.mpr ?_⟩
      refine reinstate_meets (.vacated hold hnone hfails)
        (fun hfail _ => .vacated hold hnone ⟨hfail, hfails⟩)
        (fun directory' hback hfound hsame => ?_) (fun _ _ h => nomatch h)
      rw [hother] at hsame hfound
      refine .unchanged (hsame.trans (hkept.resolve_right hfound)) fun h => ?_
      exact Bool.false_ne_true (hback.symm.trans h.1)
  · exact fun _ _ => rfl

/-- The second half, from the moment the copy has been verified. -/
theorem installRestored_stops {source copy : Content} (hold : before database = some old)
    (hsource : before input = some source) (hcopy : sqlite.vacuum source = some copy)
    (htemporary : temporary ≠ database) (hprevious : previous ≠ database)
    (hdistinct : temporary ≠ previous) (hsame : directory database = before database)
    (hprepared : directory temporary = some copy) (habsent : directory previous = none) :
    (installRestored sqlite faults database temporary previous).run.Meets directory
      (StopsComplete sqlite faults before database input) fun _ _ => True := by
  unfold installRestored
  refine Program.meets_lift_bind.mpr (existsAt_meets (.unchanged hsame id) ?_)
  rw [hsame, hold]
  simp only [Option.isSome_some, Bool.and_true]
  have hrest : ∀ t : Directory Content, t temporary = some copy →
      Preserved faults before database previous t → (do
        installTemporary faults database temporary previous
        verifyInstalled sqlite faults database previous
        removeIfExists faults .removePreserved previous : BackupProgram Content Unit).run.Meets t
        (StopsComplete sqlite faults before database input) fun _ _ => True := by
    intro t hprepared hpreserved
    refine Program.Meets.run_bind _ (installTemporary_stops hold hsource hcopy hprevious hdistinct
      hprepared hpreserved) (fun _ u hu => ?_) (fun _ _ => trivial)
    obtain ⟨hinstalled, hkept⟩ := hu
    refine Program.Meets.run_bind _ (verifyInstalled_stops hold hsource hcopy hprevious hinstalled
      hkept) (fun _ v hv => ?_) (fun _ _ => trivial)
    subst hv
    refine removeIfExists_meets (.restored hsource hcopy hinstalled id) (fun _ _ => trivial)
      (.restored hsource hcopy ?_ id) trivial
    rw [Directory.put_of_ne hprevious.symm, hinstalled]
  cases hseen : faults.fails .databaseExists with
  | true => exact hrest directory hprepared (.inr ⟨hseen, hsame, habsent⟩)
  | false =>
    refine Program.Meets.run_bind (fun _ t => t temporary = some copy ∧
      Preserved faults before database previous t) (renameFile_meets (fun hor => ?_)
        (fun directory' hfails hrenamed => ?_)) (fun _ t ht => hrest t ht.1 ht.2)
      (fun _ _ => trivial)
    · have hfails : faults.fails .preserve = true := by
        refine hor.resolve_right ?_
        rw [hsame, hold]
        simp
      exact ⟨.unchanged hsame (by simp [Vacated, hfails]), fun _ h => nomatch h⟩
    · have hnone := Directory.rename_source hrenamed hprevious.symm
      have hmoved := (Directory.rename_target hrenamed).trans hsame
      have hkept := Directory.rename_of_ne hrenamed htemporary hdistinct
      exact ⟨.vacated hold hnone hfails, fun _ _ =>
        ⟨hkept.trans hprepared, .inl ⟨hseen, hnone, hmoved⟩⟩⟩

/-- After every step of a restore, in every branch, the database is complete unless the step leaves
its path empty. -/
theorem restore_complete_iff (hold : before database = some old) (temporaryId previousId : String) :
    ∀ x ∈ (restoreDatabase sqlite faults database input temporaryId previousId).run.visited
        before,
      DatabaseComplete sqlite before database input x.2 ↔ ¬ Vacated faults x.1 := by
  have htemporary := siblingTemporary_ne database "restore" temporaryId
  have hlossy := siblingTemporary_lossy_ne database "restore" temporaryId
  have hprevious := siblingTemporary_ne database "previous" previousId
  have hdistinct := siblingTemporary_restore_ne_previous database temporaryId previousId
  suffices hmeets : (restoreDatabase sqlite faults database input temporaryId
      previousId).run.Meets before (StopsComplete sqlite faults before database input)
        fun _ _ => True from (Program.meets_iff.mp hmeets).1
  unfold restoreDatabase
  generalize siblingTemporary database "restore" temporaryId = temporary at *
  generalize siblingTemporary database "previous" previousId = previous at *
  -- up to the verified copy the path of the database is not touched
  have hremoved : (before.put temporary none) database = before database :=
    Directory.put_of_ne htemporary.symm
  have hcleared : ((before.put temporary none).put previous none) database = before database :=
    (Directory.put_of_ne hprevious.symm).trans hremoved
  have hwritten : ∀ content, (((before.put temporary none).put previous none).put
      temporary.toStringLossy content) database = before database :=
    fun content => (Directory.put_of_ne hlossy.symm).trans hcleared
  refine Program.Meets.run_bind (fun _ t => t = before)
    (verifyDatabase_meets (.unchanged rfl id) (.unchanged rfl id) (.unchanged rfl id)
      (fun _ _ _ h => nomatch h) (fun _ _ _ _ _ => rfl)) (fun _ t ht => ?_)
    (fun _ _ => trivial)
  subst ht
  refine Program.Meets.run_bind (fun _ u => u = t.put temporary none)
    (removeIfExists_meets (.unchanged rfl id) (fun _ _ _ h => nomatch h) (.unchanged hremoved id)
      (fun _ _ => rfl)) (fun _ u hu => ?_) (fun _ _ => trivial)
  subst hu
  refine Program.Meets.run_bind (fun _ u => u = (t.put temporary none).put previous none)
    (removeIfExists_meets (.unchanged hremoved id) (fun _ _ _ h => nomatch h)
      (.unchanged hcleared id) (fun _ _ => rfl)) (fun _ u hu => ?_) (fun _ _ => trivial)
  subst hu
  generalize hu : (t.put temporary none).put previous none = u at *
  refine Program.Meets.run_bind (fun source v => v = u ∧ t input = some source)
    (reading_meets (.unchanged hcleared id) (fun _ _ h => nomatch h) (fun source hsource a h => ?_))
    (fun source v hv => ?_) (fun _ _ => trivial)
  · cases h
    subst hu
    exact ⟨rfl, Directory.of_put_none (Directory.of_put_none hsource)⟩
  obtain ⟨rfl, hsource⟩ := hv
  refine Program.Meets.run_bind (fun _ w => ∃ copy, sqlite.vacuum source = some copy ∧
      w = v.put temporary.toStringLossy (some copy))
    (vacuumInto_meets (fun _ => .unchanged (hwritten _) id) (fun _ _ _ h => nomatch h)
      (fun _ => ⟨.unchanged hcleared id, fun _ h => nomatch h⟩)
      (fun copy hcopy _ _ => ⟨copy, hcopy, rfl⟩))
    (fun _ w hw => ?_) (fun _ _ => trivial)
  obtain ⟨copy, hcopy, rfl⟩ := hw
  refine Program.Meets.run_bind (fun _ x => x = v.put temporary.toStringLossy (some copy) ∧
      x temporary ≠ none)
    (fallible_meets (fun _ => ⟨.unchanged (hwritten _) id, fun _ h => nomatch h⟩)
      (fun a x _ hx => ?_)) (fun _ x hx => ?_) (fun _ _ => trivial)
  · simp only [Option.map_eq_some_iff, Prod.mk.injEq] at hx
    obtain ⟨content, hcontent, _, rfl⟩ := hx
    exact ⟨.unchanged (hwritten _) id, fun _ _ => ⟨rfl, by rw [hcontent]; simp⟩⟩
  obtain ⟨rfl, hfound⟩ := hx
  -- a copy that was written elsewhere is not found
  have hlossy_eq : temporary.toStringLossy = temporary := by
    by_contra hne
    refine hfound ?_
    rw [Directory.put_of_ne (Ne.symm hne), ← hu, Directory.put_of_ne hdistinct,
      Directory.put_self]
  refine Program.Meets.run_bind (fun _ y => y = v.put temporary.toStringLossy (some copy))
    (verifyDatabase_meets (.unchanged (hwritten _) id) (.unchanged (hwritten _) id)
      (.unchanged (hwritten _) id) (fun _ _ _ h => nomatch h) (fun _ _ _ _ _ => rfl))
    (fun _ y hy => ?_) (fun _ _ => trivial)
  subst hy
  refine installRestored_stops hold hsource hcopy htemporary hprevious hdistinct (hwritten _) ?_ ?_
  · rw [hlossy_eq, Directory.put_self]
  · rw [hlossy_eq, Directory.put_of_ne hdistinct.symm, ← hu, Directory.put_self]

end Stops

/-! ## A restore without failures -/

def plainSqlite : Sqlite String := ⟨"", fun _ => some "ok", fun _ => some 3, some⟩

def noFaults : BackupFaults String := ⟨fun _ => false, none⟩

def plainDirectory : Directory String := fun path =>
  if path = [.name "surface.db"] then some "current"
  else if path = [.name "backup.db"] then some "backup" else none

/-- The steps of a restore in which nothing fails. -/
def plainRestore : List (BackupStep × Directory String) :=
  (restoreDatabase plainSqlite noFaults [.name "surface.db"] [.name "backup.db"] "a" "b").run.visited
    plainDirectory

theorem plainRestore_length : plainRestore.length = 18 := by decide +kernel

theorem restore_complete_iff_plain :
    DatabaseComplete plainSqlite plainDirectory [.name "surface.db"] [.name "backup.db"]
        (plainRestore.get ⟨13, by rw [plainRestore_length]; decide⟩).2 ↔
      ¬ Vacated noFaults (plainRestore.get ⟨13, by rw [plainRestore_length]; decide⟩).1 := by
  have hold : plainDirectory [.name "surface.db"] = some "current" := by decide
  exact restore_complete_iff hold "a" "b" _ (List.get_mem _ _)

/-- A process that stops after the first rename leaves no database. -/
theorem restore_stopped_leaves_nothing :
    (∃ x ∈ plainRestore, x.2 [.name "surface.db"] = none) ∧
    ¬ ∀ x ∈ plainRestore,
      DatabaseComplete plainSqlite plainDirectory [.name "surface.db"] [.name "backup.db"] x.2 := by
  have hempty : ∃ x ∈ plainRestore, x.2 [.name "surface.db"] = none := by decide +kernel
  refine ⟨hempty, fun hall => ?_⟩
  obtain ⟨x, hx, hnone⟩ := hempty
  have hold : plainDirectory [.name "surface.db"] = some "current" := by decide
  rcases hall x hx with hsame | ⟨_, _, _, _, hcopy⟩
  · rw [hnone, hold] at hsame
    cases hsame
  · rw [hnone] at hcopy
    cases hcopy

end Surface

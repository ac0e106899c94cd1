import Surface.Storage.Restore

/-!
# Surface.Storage.Publish

A backup beside other processes.

* `Preparing`: the steps between the existence test and the rename.
* `LeavesOutput`: what a step of the call does where there is a file at the output.
* `LeavesFree`: no file is made at the output between the test and the rename.
* `backup_leaves_output`: in such a run the call replaces no file.
-/

namespace Surface

open Program

variable {Content : Type} {sqlite : Sqlite Content} {faults : BackupFaults Content}

/-! ## The steps of a backup -/

def Preparing (label : BackupStep) : Prop := label ≠ .outputExists ∧ label ≠ .publish

theorem every_fallible {α : Type} {P : BackupStep → Prop} {label : BackupStep} {message : String}
    {act : Directory Content → Option (α × Directory Content)} (h : P label) :
    (fallible faults label message act).run.Every P :=
  every_atomic.mpr h

theorem verifyDatabase_preparing (file : Verified) (path : Path) :
    (verifyDatabase sqlite faults file path).run.Every Preparing := by
  unfold verifyDatabase
  refine Every.run_bind (every_fallible ⟨nofun, nofun⟩) fun content => ?_
  refine Every.run_bind (every_fallible ⟨nofun, nofun⟩) fun integrity => ?_
  by_cases hcorrupt : integrity ≠ "ok"
  · simp only [if_pos hcorrupt]
    trivial
  · simp only [if_neg hcorrupt]
    refine Every.run_bind (every_fallible ⟨nofun, nofun⟩) fun version => ?_
    split <;> trivial

/-- The rename that ends a backup. -/
def publishing (faults : BackupFaults Content) (output : Path) (id : String) :
    Program BackupStep (Directory Content) (Except String Unit) :=
  (renameFile faults .publish "could not publish database backup"
    (siblingTemporary output "backup" id) output).run

/-- A backup tests for its output first and renames to it last. -/
theorem backupDatabase_steps (sqlite : Sqlite Content) (faults : BackupFaults Content)
    (database output : Path) (id : String) :
    ∃ rest, Until Preparing (publishing faults output id) rest ∧
      (backupDatabase sqlite faults database output id).run =
        .step .outputExists (fun directory => directory) fun directory =>
          if !faults.fails .outputExists && (directory output).isSome then
            .done (.error "backup destination already exists")
          else rest := by
  refine ⟨(do
    removeIfExists faults .removeTemporary (siblingTemporary output "backup" id)
    let source ← openReadWrite sqlite faults .openSource "could not open database for backup"
      database
    vacuumInto sqlite faults "could not create SQLite backup" source
      (siblingTemporary output "backup" id)
    secureDatabase faults (siblingTemporary output "backup" id)
    verifyDatabase sqlite faults .temporary (siblingTemporary output "backup" id)
    renameFile faults .publish "could not publish database backup"
      (siblingTemporary output "backup" id) output : BackupProgram Content Unit).run, ?_, ?_⟩
  · refine Until.run_bind (every_fallible ⟨nofun, nofun⟩) fun _ => ?_
    refine Until.run_bind (every_fallible ⟨nofun, nofun⟩) fun source => ?_
    refine Until.run_bind (every_atomic.mpr ⟨nofun, nofun⟩) fun _ => ?_
    refine Until.run_bind (every_fallible ⟨nofun, nofun⟩) fun _ => ?_
    exact Until.run_bind (verifyDatabase_preparing _ _) fun _ => .last
  · unfold backupDatabase
    refine congrArg (Program.step BackupStep.outputExists fun directory => directory)
      (funext fun directory => ?_)
    dsimp only
    cases !faults.fails .outputExists && (directory output).isSome with
    | true =>
      rw [if_pos rfl]
      rfl
    | false => rfl

/-! ## Other processes -/

variable {κ : Type} [DecidableEq κ]

/-- Processes on one directory. What each does in a step is its own affair. -/
abbrev Processes (κ Content : Type) :=
  Pool κ BackupStep (Directory Content) (Except String Unit)

/-- A step of the call leaves a file at its output as it is, and ends the call with an error where
this tests for the file or is about to rename. -/
def LeavesOutput (call : κ) (output : Path) (process : κ) (processes : Processes κ Content) :
    Prop :=
  process = call → ∀ content, processes.state output = some content →
    (processes.step call).state output = some content ∧
      processes.Ready (fun label _ => label = .outputExists ∨ label = .publish →
        ∃ error, (processes.step call).programs call = .done (.error error)) call

/-- The test of the call sees a file that is there, and no step from then on makes one before the
call renames. -/
def LeavesFree (faults : BackupFaults Content) (call : κ) (output : Path) (process : κ)
    (processes : Processes κ Content) : Prop :=
  processes.Ready (fun label directory =>
    (label = .outputExists → process = call → faults.fails .outputExists = true →
      directory output = none) ∧
    (label ≠ .outputExists → ¬ (label = .publish ∧ process = call) → directory output = none →
      (processes.step process).state output = none)) call

/-- Where the call is: before its test, at its end, or between with nothing at the output. -/
inductive BackupAt (faults : BackupFaults Content) (output : Path) (id : String) (call : κ)
    (processes : Processes κ Content) : Prop where
  | start {rest : Program BackupStep (Directory Content) (Except String Unit)}
      (hrest : Until Preparing (publishing faults output id) rest)
      (h : processes.programs call =
        .step .outputExists (fun directory => directory) fun directory =>
          if !faults.fails .outputExists && (directory output).isSome then
            .done (.error "backup destination already exists")
          else rest)
  | ended {r : Except String Unit} (h : processes.programs call = .done r)
  | preparing (huntil : Until Preparing (publishing faults output id) (processes.programs call))
      (hnone : processes.state output = none)

section Run

variable {output : Path} {id : String} {call process : κ} {processes : Processes κ Content}

/-- Between the test and the rename nothing comes to the output. -/
theorem LeavesFree.stays (h : LeavesFree faults call output process processes)
    {label : BackupStep} {update : Directory Content → Directory Content}
    {next : Directory Content → Program BackupStep (Directory Content) (Except String Unit)}
    (hcall : processes.programs call = .step label update next) (hlabel : label ≠ .outputExists)
    (hpublish : ¬ (label = .publish ∧ process = call)) (hnone : processes.state output = none) :
    (processes.step process).state output = none := by
  rw [LeavesFree, Pool.Ready, hcall] at h
  exact h.2 hlabel hpublish hnone

/-- The test of the call finds out whether there is a file. -/
theorem LeavesFree.sees (h : LeavesFree faults call output call processes)
    {update : Directory Content → Directory Content}
    {next : Directory Content → Program BackupStep (Directory Content) (Except String Unit)}
    (hcall : processes.programs call = .step .outputExists update next) :
    (!faults.fails .outputExists && (processes.state output).isSome) = true ↔
      processes.state output ≠ none := by
  rw [LeavesFree, Pool.Ready, hcall] at h
  cases hfails : faults.fails .outputExists with
  | true =>
    rw [h.1 rfl rfl hfails]
    simp
  | false => simp [Option.isSome_iff_ne_none]

/-- A step of the call itself. -/
theorem BackupAt.own (h : BackupAt faults output id call processes)
    (hfree : LeavesFree faults call output call processes) :
    BackupAt faults output id call (processes.step call) := by
  cases h with
  | start hrest hcall =>
    have hnext := Pool.programs_step_self hcall
    split at hnext
    · exact .ended hnext
    · rename_i hunseen
      refine .preparing (by rwa [hnext]) ?_
      rw [Pool.step_step hcall]
      exact not_not.mp fun hsome => hunseen ((hfree.sees hcall).mpr hsome)
  | ended hcall =>
    rw [Pool.step_done hcall]
    exact .ended hcall
  | preparing huntil hnone =>
    generalize hcall : processes.programs call = program at huntil
    cases huntil with
    | last => exact .ended (Pool.programs_step_self hcall)
    | error error =>
      rw [Pool.step_done hcall]
      exact .ended hcall
    | step hlabel hnext =>
      refine .preparing ?_ (hfree.stays hcall hlabel.1 (fun h => hlabel.2 h.1) hnone)
      rw [Pool.programs_step_self hcall]
      exact hnext _

/-- A step of another process. -/
theorem BackupAt.other (h : BackupAt faults output id call processes) (hne : process ≠ call)
    (hfree : LeavesFree faults call output process processes) :
    BackupAt faults output id call (processes.step process) := by
  have hsame : (processes.step process).programs call = processes.programs call :=
    Pool.programs_step_of_ne hne.symm
  cases h with
  | start hrest hcall => exact .start hrest (hsame.trans hcall)
  | ended hcall => exact .ended (hsame.trans hcall)
  | preparing huntil hnone =>
    generalize hcall : processes.programs call = program at huntil hsame
    cases huntil with
    | last =>
      exact .preparing (hsame ▸ .last) (hfree.stays hcall nofun (fun h => hne h.2) hnone)
    | error error => exact .ended hsame
    | step hlabel hnext =>
      exact .preparing (hsame ▸ .step hlabel hnext)
        (hfree.stays hcall hlabel.1 (fun h => hne h.2) hnone)

theorem BackupAt.step (h : BackupAt faults output id call processes)
    (hfree : LeavesFree faults call output process processes) :
    BackupAt faults output id call (processes.step process) := by
  by_cases hown : process = call
  · subst hown
    exact h.own hfree
  · exact h.other hown hfree

/-- The call comes upon a file only at its test, and ends there. -/
theorem BackupAt.leaves (h : BackupAt faults output id call processes)
    (hfree : LeavesFree faults call output process processes) :
    LeavesOutput call output process processes := by
  rintro rfl content hcontent
  cases h with
  | start hrest hcall =>
    have hseen := (hfree.sees hcall).mpr (by rw [hcontent]; nofun)
    refine ⟨by rwa [Pool.step_step hcall], ?_⟩
    rw [Pool.Ready, hcall]
    refine fun _ => ⟨"backup destination already exists", ?_⟩
    rw [Pool.programs_step_self hcall, if_pos hseen]
  | ended hcall =>
    rw [Pool.step_done hcall, Pool.Ready, hcall]
    exact ⟨hcontent, trivial⟩
  | preparing _ hnone =>
    rw [hnone] at hcontent
    cases hcontent

end Run

/-- Beside whatever processes and in whatever order: as long as no file is made at the output
between the test of the call and its rename, the call replaces no file there. -/
theorem backup_leaves_output {database output : Path} {id : String} {call : κ}
    {processes : Processes κ Content} {schedule : List κ}
    (hcall : processes.programs call = (backupDatabase sqlite faults database output id).run)
    (hfree : allSteps Pool.step (LeavesFree faults call output) schedule processes) :
    allSteps Pool.step (LeavesOutput call output) schedule processes := by
  obtain ⟨rest, hrest, hsteps⟩ := backupDatabase_steps sqlite faults database output id
  have hstart : BackupAt faults output id call processes := .start hrest (hcall.trans hsteps)
  exact allSteps_inv (fun _ _ => BackupAt.step) (fun _ _ => BackupAt.leaves) hstart hfree

/-! ## Two backups to one file -/

def twoBackups : Processes Bool String :=
  ⟨plainDirectory, fun call =>
    (backupDatabase plainSqlite noFaults
      (if call then [.name "surface.db"] else [.name "backup.db"]) [.name "copy.db"]
      (if call then "a" else "b")).run⟩

/-- The other backup is over before the call tests. -/
theorem backup_leaves_output_later :
    allSteps Pool.step (LeavesOutput true [.name "copy.db"])
      [false, false, false, false, false, false, false, false, false, true] twoBackups := by
  have hcall : twoBackups.programs true = (backupDatabase plainSqlite noFaults [.name "surface.db"]
      [.name "copy.db"] "a").run := rfl
  refine backup_leaves_output hcall ?_
  have hwaits (process : Bool) (processes : Processes Bool String)
      (h : processes.programs true = twoBackups.programs true) :
      LeavesFree noFaults true [.name "copy.db"] process processes := by
    rw [LeavesFree, Pool.Ready, h]
    exact ⟨fun _ _ hfails => absurd hfails Bool.false_ne_true, fun htest => absurd rfl htest⟩
  iterate 10 refine ⟨hwaits _ _ rfl, ?_⟩
  trivial

/-- The call tests before the other backup and comes to its rename after it. -/
def overlappingBackups : List Bool := true :: List.replicate 9 false ++ List.replicate 7 true

theorem backup_replaces_output :
    (twoBackups.run overlappingBackups).state [.name "copy.db"] = some "backup" ∧
      (twoBackups.run (overlappingBackups ++ [true])).state [.name "copy.db"] = some "current" ∧
      ¬ allSteps Pool.step (LeavesOutput true [.name "copy.db"]) (overlappingBackups ++ [true])
        twoBackups := by
  have hbefore : (twoBackups.run overlappingBackups).state [.name "copy.db"] = some "backup" := by
    decide +kernel
  have hafter : (twoBackups.run (overlappingBackups ++ [true])).state [.name "copy.db"] =
      some "current" := by decide +kernel
  refine ⟨hbefore, hafter, fun hleaves => ?_⟩
  obtain ⟨hkept, -⟩ := (allSteps_append.mp hleaves).2.1 rfl _ hbefore
  rw [Pool.run, List.foldl_append] at hafter
  have hsame := hkept.symm.trans hafter
  exact absurd hsame (by decide)

end Surface

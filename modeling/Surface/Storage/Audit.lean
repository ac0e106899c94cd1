import Surface.Trace
import Surface.Storage.History

/-!
# Surface.Storage.Audit

Several connections delete scans of one database. `prune` selects its scans in one statement and
deletes them in a later transaction; every other operation is one transaction.

* `SharedHistory`, `HistoryStep`: the database, what each connection has selected, and the steps.
* `prune_eq_steps`: undisturbed, the two steps of `prune` are the operation itself.
* `audit_exact_iff`: the audit log counts deletions exactly as long as no transaction of `prune`
  meets an id that is gone.
-/

namespace Surface

/-! ## Steps -/

/-- The database, the ids each connection has selected for its transaction, and, as a ghost, the
ids of all rows deleted so far. -/
structure SharedHistory (ι : Type) where
  db : Database
  selected : ι → Option (List String)
  deletions : List String

inductive HistoryStep (ι : Type) where
  | select (connection : ι) (policy : RetentionPolicy) (now : Int)
  | commit (connection : ι) (stamps : String → Stamp) (fault : Fault)
  | delete (connection : ι) (scanId : String) (stamp : Stamp) (fault : Fault)
  | persist (connection : ι) (report : ScanReport) (origin : String) (createdAt : Timestamp)
      (fault : Fault)

/-- The ids whose rows are gone. -/
def removedIds (before after : Database) : List String :=
  before.scanIds.filter fun id => id ∉ after.scanIds

namespace SharedHistory

variable {ι : Type} [DecidableEq ι]

def start (db : Database) : SharedHistory ι := ⟨db, fun _ => none, []⟩

/-- A committed transaction replaces the database. -/
def advance (s : SharedHistory ι) (db : Database) : SharedHistory ι :=
  { s with db := db, deletions := s.deletions ++ removedIds s.db db }

def setSelected (s : SharedHistory ι) (connection : ι) (ids : Option (List String)) :
    SharedHistory ι :=
  { s with selected := fun other => if other = connection then ids else s.selected other }

variable (codec : ReportCodec)

/-- A connection between the two steps of its `prune` does nothing else. -/
def step : HistoryStep ι → SharedHistory ι → SharedHistory ι
  | .select connection policy now, s =>
    match s.selected connection with
    | some _ => s
    | none =>
      match s.db.selectRetention policy now with
      | .error _ => s
      | .ok ids =>
        if !policy.dryRun && !ids.isEmpty then s.setSelected connection (some ids) else s
  | .commit connection stamps fault, s =>
    match s.selected connection with
    | none => s
    | some ids =>
      match s.db.commitRetention ids stamps fault with
      | .error _ => s.setSelected connection none
      | .ok db => (s.advance db).setSelected connection none
  | .delete connection scanId stamp fault, s =>
    match s.selected connection with
    | some _ => s
    | none =>
      match s.db.deleteScan scanId stamp fault with
      | .error _ => s
      | .ok (db, _) => s.advance db
  | .persist connection report origin createdAt fault, s =>
    match s.selected connection with
    | some _ => s
    | none =>
      match s.db.persistReport codec report origin createdAt fault with
      | .error _ => s
      | .ok db => s.advance db

/-- Undisturbed, the two steps of `prune` have the effect of the operation. -/
theorem prune_eq_steps (s : SharedHistory ι) (connection : ι) (hidle : s.selected connection = none)
    (policy : RetentionPolicy) (now : Int) (stamps : String → Stamp) (fault : Fault) :
    ((step codec (.commit connection stamps fault)
      (step codec (.select connection policy now) s)).db) =
      match s.db.prune policy now stamps fault with
      | .error _ => s.db
      | .ok (db, _) => db := by
  simp only [step, hidle, Database.prune]
  cases hselect : s.db.selectRetention policy now with
  | error error => simp [hidle]
  | ok ids =>
    simp only
    by_cases hgo : (!policy.dryRun && !ids.isEmpty) = true
    · rw [if_pos hgo, if_pos hgo]
      simp only [setSelected, if_true]
      cases s.db.commitRetention ids stamps fault with
      | error error => rfl
      | ok db => rfl
    · rw [if_neg hgo, if_neg hgo]
      simp [hidle]

end SharedHistory

/-! ## Counting -/

/-- The events that say that a scan was deleted. -/
def auditCount (db : Database) (scanId : String) : Nat :=
  db.auditEvents.countP fun event =>
    (event.action = "scan.delete" ∨ event.action = "retention.delete") ∧
      event.resourceId = some scanId

section Counting

variable {db db' : Database} (id : String)

theorem count_removedIds :
    (removedIds db db').count id = if id ∈ db.scanIds ∧ id ∉ db'.scanIds then 1 else 0 := by
  have hnodup : (removedIds db db').Nodup := List.Nodup.filter _ db.scans_nodup
  rw [hnodup.count]
  simp [removedIds]

theorem auditCount_deleteScan {scanId : String} {stamp : Stamp} {fault : Fault} {deleted : Bool}
    (h : db.deleteScan scanId stamp fault = .ok (db', deleted)) :
    auditCount db' id = auditCount db id + (removedIds db db').count id := by
  obtain ⟨_, hscans, _, hevents⟩ := Database.deleteScan_ok h
  have hids : db'.scanIds = db.scanIds.filter fun other => other ≠ scanId := by
    rw [← Database.deleteScanRow_scanIds]
    exact congrArg (List.map ScanRow.scanId) hscans
  unfold auditCount
  rw [count_removedIds, hids, hevents, List.countP_append]
  by_cases hmem : scanId ∈ db.scanIds
  · by_cases hid : id = scanId
    · subst hid
      simp [hmem]
    · simp [hmem, hid, Ne.symm hid]
  · by_cases hid : id = scanId
    · subst hid
      simp [hmem]
    · simp [hmem, hid]

theorem auditCount_persistReport {codec : ReportCodec} {report : ScanReport} {origin : String}
    {createdAt : Timestamp} {fault : Fault}
    (h : db.persistReport codec report origin createdAt fault = .ok db') :
    auditCount db' id = auditCount db id + (removedIds db db').count id := by
  unfold Database.persistReport Database.persistReportForTenant at h
  split at h
  · cases h
  · split at h
    · cases h
    · split at h
      · cases h
      · rename_i middle hscan
        obtain ⟨_, hscans, _, hevents⟩ := Database.insertScan_ok hscan
        obtain ⟨hscans', _, hevents'⟩ := Database.insertFindings_ok h
        have hkept : id ∈ db.scanIds → id ∈ db'.scanIds := by
          unfold Database.scanIds
          rw [hscans', hscans, List.map_append, List.mem_append]
          exact Or.inl
        unfold auditCount
        rw [count_removedIds, hevents', hevents, if_neg (fun hc => hc.2 (hkept hc.1)), Nat.add_zero]

theorem auditCount_pruneRows (stamps : String → Stamp) (ids : List String) :
    auditCount (db.pruneRows stamps ids) id = auditCount db id + ids.count id := by
  unfold auditCount
  rw [Database.pruneRows_auditEvents, List.countP_append, List.countP_map, List.count_eq_countP]
  refine congrArg _ (List.countP_congr (fun other _ => ?_))
  simp

theorem count_removedIds_pruneRows (stamps : String → Stamp) (ids : List String) :
    (removedIds db (db.pruneRows stamps ids)).count id =
      if id ∈ db.scanIds ∧ id ∈ ids then 1 else 0 := by
  have hids : (db.pruneRows stamps ids).scanIds = db.scanIds.filter fun other => other ∉ ids := by
    unfold Database.scanIds
    rw [Database.pruneRows_scans, List.filter_map]
    rfl
  rw [count_removedIds, hids]
  by_cases hmem : id ∈ db.scanIds <;> by_cases hid : id ∈ ids <;> simp [hmem, hid]

end Counting

/-! ## Runs -/

namespace SharedHistory

variable {ι : Type}

/-- For every scan, as many deletions are recorded as there were since the start. -/
def Recorded (db : Database) (s : SharedHistory ι) : Prop :=
  ∀ id, auditCount s.db id = auditCount db id + s.deletions.count id

/-- A transaction of `prune` that commits still finds every id it selected. -/
def Current : HistoryStep ι → SharedHistory ι → Prop
  | .commit connection _ fault, s => fault = none →
      ∀ ids, s.selected connection = some ids → ∀ id ∈ ids, id ∈ s.db.scanIds
  | .select .., _ => True
  | .delete .., _ => True
  | .persist .., _ => True

/-- The deletions are recorded, and no connection has selected an id twice. -/
structure Inv (db : Database) (s : SharedHistory ι) : Prop where
  recorded : Recorded db s
  selected_nodup : ∀ connection ids, s.selected connection = some ids → ids.Nodup

variable {codec : ReportCodec} {db : Database} {s : SharedHistory ι}

theorem Recorded.advance (h : Recorded db s) {db' : Database}
    (hcount : ∀ id, auditCount db' id = auditCount s.db id + (removedIds s.db db').count id) :
    Recorded db (s.advance db') := by
  intro id
  have hbefore := h id
  have hstep := hcount id
  simp only [SharedHistory.advance, List.count_append]
  omega

theorem Inv.advance (h : Inv db s) {db' : Database}
    (hcount : ∀ id, auditCount db' id = auditCount s.db id + (removedIds s.db db').count id) :
    Inv db (s.advance db') :=
  ⟨h.recorded.advance hcount, h.selected_nodup⟩

theorem inv_start (db : Database) : Inv db (start db : SharedHistory ι) := by
  refine ⟨fun id => ?_, fun connection ids h => ?_⟩
  · simp [start]
  · cases h

variable [DecidableEq ι]

theorem Inv.setSelected (h : Inv db s) (connection : ι) {ids : Option (List String)}
    (hids : ∀ list, ids = some list → list.Nodup) : Inv db (s.setSelected connection ids) := by
  refine ⟨h.recorded, fun other list hlist => ?_⟩
  simp only [SharedHistory.setSelected] at hlist
  split at hlist
  · exact hids list hlist
  · exact h.selected_nodup other list hlist

theorem inv_step (i : HistoryStep ι) (s : SharedHistory ι) (h : Inv db s) (hi : Current i s) :
    Inv db (step codec i s) := by
  cases i with
  | select connection policy now =>
    simp only [step]
    split
    · exact h
    · split
      · exact h
      · rename_i ids hselect
        split
        · refine h.setSelected connection (fun list hlist => ?_)
          cases hlist
          exact Database.selectRetention_nodup hselect
        · exact h
  | commit connection stamps fault =>
    simp only [step]
    split
    · exact h
    · rename_i ids hselected
      unfold Database.commitRetention
      cases fault with
      | some message => exact h.setSelected connection (by simp)
      | none =>
        refine (h.advance (fun id => ?_)).setSelected connection (by simp)
        have hnodup := h.selected_nodup connection ids hselected
        rw [auditCount_pruneRows, count_removedIds_pruneRows, hnodup.count]
        by_cases hid : id ∈ ids
        · simp [hid, hi rfl ids hselected id hid]
        · simp [hid]
  | delete connection scanId stamp fault =>
    simp only [step]
    split
    · exact h
    · split
      · exact h
      · rename_i db' deleted hdelete
        exact h.advance (fun id => auditCount_deleteScan id hdelete)
  | persist connection report origin createdAt fault =>
    simp only [step]
    split
    · exact h
    · split
      · exact h
      · rename_i db' hpersist
        exact h.advance (fun id => auditCount_persistReport id hpersist)

/-- A transaction that meets an id that is gone records one deletion too many. -/
theorem not_recorded_step (i : HistoryStep ι) (s : SharedHistory ι) (h : Inv db s)
    (hi : ¬ Current i s) : ¬ Recorded db (step codec i s) := by
  cases i with
  | commit connection stamps fault =>
    simp only [Current, Classical.not_imp, not_forall] at hi
    obtain ⟨rfl, ids, hselected, id, hid, hgone⟩ := hi
    intro hrecorded
    have hafter := hrecorded id
    have hbefore := h.recorded id
    have hnodup := h.selected_nodup connection ids hselected
    simp only [step, hselected, Database.commitRetention, SharedHistory.setSelected,
      SharedHistory.advance, List.count_append, count_removedIds_pruneRows, hgone, false_and,
      if_false, auditCount_pruneRows, hnodup.count, hid, if_true] at hafter
    omega
  | select connection policy now => exact absurd trivial hi
  | delete connection scanId stamp fault => exact absurd trivial hi
  | persist connection report origin createdAt fault => exact absurd trivial hi

/-- In every run, of any number of connections, the audit log agrees with the deletions in every
state passed exactly when no transaction of `prune` that commits meets an id that is gone. -/
theorem audit_exact_iff (codec : ReportCodec) (db : Database) (steps : List (HistoryStep ι)) :
    (∀ s ∈ trace (step codec) steps (start db), Recorded db s) ↔
      allSteps (step codec) Current steps (start db) :=
  trace_iff (fun _ h => h.recorded) inv_step not_recorded_step (inv_start db)

/-- A database that holds the fixture. -/
def fixtureDatabase : Database where
  scans := [scanRow fixtureReport fixtureJson "cli" 0 "local"]
  findings := []
  auditEvents := []
  scans_nodup := List.nodup_singleton _
  findings_nodup := List.nodup_nil
  findings_scan := List.forall_mem_nil _

/-- One connection selects the scan for retention, another one deletes it, then the first one
commits. -/
def overtakenPrune : List (HistoryStep Bool) :=
  [.select true { keepLast := some 0 } 0,
    .delete false fixtureReport.scanId ⟨"00000000-0000-4000-8000-000000000001", 1⟩ none,
    .commit true (fun _ => ⟨"00000000-0000-4000-8000-000000000002", 2⟩) none]

/-- The one deletion is recorded twice. -/
theorem overtakenPrune_recorded_twice :
    ¬ ∀ s ∈ trace (step fixtureCodec) overtakenPrune (start fixtureDatabase),
      Recorded fixtureDatabase s := by
  intro h
  have hlast := h (overtakenPrune.foldl (fun s i => step fixtureCodec i s) (start fixtureDatabase))
    (by simp [overtakenPrune, trace]) fixtureReport.scanId
  have hevents : auditCount (overtakenPrune.foldl (fun s i => step fixtureCodec i s)
      (start fixtureDatabase)).db fixtureReport.scanId = 2 := by decide +kernel
  have hdeletions : (overtakenPrune.foldl (fun s i => step fixtureCodec i s)
      (start fixtureDatabase)).deletions.count fixtureReport.scanId = 1 := by decide +kernel
  have hstart : auditCount fixtureDatabase fixtureReport.scanId = 0 := by decide
  omega

end SharedHistory

end Surface

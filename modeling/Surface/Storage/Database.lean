import Surface.Findings

/-!
# Surface.Storage.Database

The tables of the scan history, and the statements that change them.

* `Database`: the rows, with the keys and the foreign key of the schema as fields.
* `insertScan`, `insertFindings`, `deleteScanRow`, `recordAudit`: the statements. Deleting a scan
  takes its findings with it.
-/

namespace Surface

/-! ## Rows -/

structure FindingCounts where
  info : Nat
  low : Nat
  medium : Nat
  high : Nat
  critical : Nat
deriving DecidableEq

/-- A row of `scans`; the five count columns are one field. -/
structure ScanRow where
  scanId : String
  originalTarget : String
  normalizedTarget : String
  scannerVersion : String
  reportSchemaVersion : String
  startedAt : Timestamp
  completedAt : Option Timestamp
  status : String
  interrupted : Nat
  counts : FindingCounts
  reportJson : String
  origin : String
  createdAt : Timestamp
  tenantId : String
deriving DecidableEq

/-- A row of `scan_findings`. -/
structure FindingRow where
  scanId : String
  findingIndex : Nat
  ruleId : String
  severity : String
  target : String
  title : String
deriving DecidableEq

/-- A row of `audit_events`. -/
structure AuditEvent where
  eventId : String
  occurredAt : Timestamp
  action : String
  resourceType : String
  resourceId : Option String
  outcome : String
deriving DecidableEq

/-- What the transaction draws for an event: its id and its time. -/
structure Stamp where
  eventId : String
  occurredAt : Timestamp

def FindingRow.key (row : FindingRow) : String × Nat := (row.scanId, row.findingIndex)

/-- A migrated database: scans have distinct ids, findings distinct indices within a scan, and
every finding belongs to a scan. -/
structure Database where
  scans : List ScanRow
  findings : List FindingRow
  auditEvents : List AuditEvent
  scans_nodup : (scans.map ScanRow.scanId).Nodup
  findings_nodup : (findings.map FindingRow.key).Nodup
  findings_scan : ∀ row ∈ findings, row.scanId ∈ scans.map ScanRow.scanId

namespace Database

theorem nodup_concat {α β : Type} {key : α → β} {rows : List α} {row : α}
    (h : (rows.map key).Nodup) (hnew : key row ∉ rows.map key) :
    ((rows ++ [row]).map key).Nodup := by
  rw [List.map_append, List.map_singleton]
  refine List.Nodup.append h (List.nodup_singleton _) (fun k hk hk' => ?_)
  rw [List.mem_singleton.mp hk'] at hk
  exact hnew hk

def empty : Database := ⟨[], [], [], .nil, .nil, by simp⟩

def scanIds (db : Database) : List String := db.scans.map ScanRow.scanId

/-! ## Statements -/

def insertScan (db : Database) (row : ScanRow) : Except String Database :=
  if h : row.scanId ∈ db.scanIds then .error "could not persist scan report"
  else .ok
    { db with
      scans := db.scans ++ [row]
      scans_nodup := nodup_concat db.scans_nodup h
      findings_scan := fun finding hfinding => by
        rw [List.map_append, List.mem_append]
        exact .inl (db.findings_scan finding hfinding) }

def insertFinding (db : Database) (row : FindingRow) : Except String Database :=
  if h : row.key ∉ db.findings.map FindingRow.key ∧ row.scanId ∈ db.scanIds then .ok
    { db with
      findings := db.findings ++ [row]
      findings_nodup := nodup_concat db.findings_nodup h.1
      findings_scan := fun finding hfinding => by
        rcases List.mem_append.mp hfinding with hfinding | hfinding
        · exact db.findings_scan finding hfinding
        · rw [List.mem_singleton.mp hfinding]
          exact h.2 }
  else .error "could not persist scan findings"

def insertFindings (db : Database) : List FindingRow → Except String Database
  | [] => .ok db
  | row :: rows =>
    match db.insertFinding row with
    | .error error => .error error
    | .ok db => db.insertFindings rows

/-- Delete the scan with an id, and its findings with it. -/
def deleteScanRow (db : Database) (id : String) : Database where
  scans := db.scans.filter fun row => row.scanId ≠ id
  findings := db.findings.filter fun row => row.scanId ≠ id
  auditEvents := db.auditEvents
  scans_nodup := db.scans_nodup.sublist (List.filter_sublist.map _)
  findings_nodup := db.findings_nodup.sublist (List.filter_sublist.map _)
  findings_scan := fun finding hfinding => by
    obtain ⟨hmem, hne⟩ := List.mem_filter.mp hfinding
    obtain ⟨row, hrow, hid⟩ := List.mem_map.mp (db.findings_scan finding hmem)
    exact List.mem_map.mpr ⟨row, List.mem_filter.mpr ⟨hrow, by rw [hid]; exact hne⟩, hid⟩

/-- The number of rows the deletion of an id affects. -/
def affected (db : Database) (id : String) : Nat := db.scans.countP fun row => row.scanId = id

def recordAudit (db : Database) (action : String) (resourceId : Option String) (stamp : Stamp) :
    Database :=
  { db with
    auditEvents := db.auditEvents ++
      [⟨stamp.eventId, stamp.occurredAt, action, "scan", resourceId, "success"⟩] }

/-! ## What the statements leave -/

@[simp] theorem recordAudit_scans (db : Database) (action : String) (resourceId : Option String)
    (stamp : Stamp) : (db.recordAudit action resourceId stamp).scans = db.scans := rfl

@[simp] theorem recordAudit_findings (db : Database) (action : String) (resourceId : Option String)
    (stamp : Stamp) : (db.recordAudit action resourceId stamp).findings = db.findings := rfl

@[simp] theorem deleteScanRow_auditEvents (db : Database) (id : String) :
    (db.deleteScanRow id).auditEvents = db.auditEvents := rfl

theorem deleteScanRow_scanIds (db : Database) (id : String) :
    (db.deleteScanRow id).scanIds = db.scanIds.filter fun other => other ≠ id := by
  unfold scanIds deleteScanRow
  rw [List.filter_map]
  rfl

theorem affected_eq (db : Database) (id : String) :
    db.affected id = if id ∈ db.scanIds then 1 else 0 := by
  have hcount : db.affected id = db.scanIds.count id := by
    unfold affected scanIds
    rw [List.count_eq_countP, List.countP_map]
    refine List.countP_congr (fun row _ => ?_)
    simp
  rw [hcount]
  exact db.scans_nodup.count

theorem insertScan_ok {db db' : Database} {row : ScanRow} :
    db.insertScan row = .ok db' → row.scanId ∉ db.scanIds ∧ db'.scans = db.scans ++ [row] ∧
      db'.findings = db.findings ∧ db'.auditEvents = db.auditEvents := by
  intro h
  unfold insertScan at h
  split at h
  · cases h
  · rename_i hnew
    cases h
    exact ⟨hnew, rfl, rfl, rfl⟩

theorem insertFinding_ok {db db' : Database} {row : FindingRow} :
    db.insertFinding row = .ok db' → db'.scans = db.scans ∧ db'.findings = db.findings ++ [row] ∧
      db'.auditEvents = db.auditEvents := by
  intro h
  unfold insertFinding at h
  split at h
  · cases h
    exact ⟨rfl, rfl, rfl⟩
  · cases h

theorem insertFindings_ok {rows : List FindingRow} :
    ∀ {db db' : Database}, db.insertFindings rows = .ok db' → db'.scans = db.scans ∧
      db'.findings = db.findings ++ rows ∧ db'.auditEvents = db.auditEvents := by
  induction rows with
  | nil =>
    intro db db' h
    cases h
    simp
  | cons row rows ih =>
    intro db db' h
    simp only [insertFindings] at h
    split at h
    · cases h
    · rename_i middle hmiddle
      obtain ⟨hscans, hfindings, hevents⟩ := insertFinding_ok hmiddle
      obtain ⟨hscans', hfindings', hevents'⟩ := ih h
      refine ⟨hscans'.trans hscans, ?_, hevents'.trans hevents⟩
      rw [hfindings', hfindings, List.append_assoc, List.singleton_append]

/-- Rows of a stored scan with new and distinct keys are all inserted. -/
theorem insertFindings_exists {rows : List FindingRow} :
    ∀ {db : Database}, (rows.map FindingRow.key).Nodup →
      (∀ row ∈ rows, row.key ∉ db.findings.map FindingRow.key ∧ row.scanId ∈ db.scanIds) →
      ∃ db', db.insertFindings rows = .ok db' := by
  induction rows with
  | nil =>
    intro db _ _
    exact ⟨db, rfl⟩
  | cons row rows ih =>
    intro db hnodup hrows
    obtain ⟨hout, hnodup⟩ := List.nodup_cons.mp hnodup
    cases hmiddle : db.insertFinding row with
    | error error =>
      unfold insertFinding at hmiddle
      rw [dif_pos (hrows row List.mem_cons_self)] at hmiddle
      cases hmiddle
    | ok middle =>
      obtain ⟨hscans, hfindings, _⟩ := insertFinding_ok hmiddle
      have hrest : ∀ other ∈ rows, other.key ∉ middle.findings.map FindingRow.key ∧
          other.scanId ∈ middle.scanIds := by
        intro other hother
        obtain ⟨hnew, hscan⟩ := hrows other (List.mem_cons_of_mem row hother)
        have hne : other.key ≠ row.key := fun h => hout (h ▸ List.mem_map_of_mem hother)
        refine ⟨?_, by unfold scanIds; rw [hscans]; exact hscan⟩
        rw [hfindings, List.map_append, List.mem_append, not_or]
        exact ⟨hnew, by simpa using hne⟩
      obtain ⟨db', hdb'⟩ := ih hnodup hrest
      refine ⟨db', ?_⟩
      simp only [insertFindings, hmiddle]
      exact hdb'

end Database

end Surface

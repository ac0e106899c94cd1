import Surface.Report.Format
import Surface.Storage.Database

/-!
# Surface.Storage.History

The operations of the scan history: persisting, loading, listing and deleting reports.

* `persistReport`, `deleteScan`, `prune`: each changes the tables in one transaction. A transaction
  that fails leaves no trace, so its error comes without a database.
* `report`, `history`: the two queries.
* `deleteScan_ok`, `pruneRows_scans` and their siblings: what each operation leaves.
-/

namespace Surface

/-- Encoding and decoding of reports. -/
structure ReportCodec where
  toString : ScanReport → Except String String
  fromStr : String → Except String ScanReport

/-- What was encoded is decoded to the same report. -/
def ReportCodec.Faithful (codec : ReportCodec) : Prop :=
  ∀ report text, codec.toString report = .ok text → codec.fromStr text = .ok report

/-- The codec of the scan history. Only reports whose numbers have room can exist. -/
def DocumentLibrary.reportCodec (library : DocumentLibrary) (complaint : String → String) :
    ReportCodec where
  toString report :=
    if report.InRange library then .ok (storedJson library report)
    else .error "number out of range"
  fromStr source :=
    match readText library source with
    | some report => .ok report
    | none => .error (complaint source)

theorem reportCodec_faithful (library : DocumentLibrary) (complaint : String → String) :
    (library.reportCodec complaint).Faithful := by
  intro report source h
  simp only [DocumentLibrary.reportCodec] at h ⊢
  split at h
  · rename_i hrange
    rw [← Except.ok.inj h, readText_storedJson hrange]
  · cases h

/-- An error of SQLite beyond the constraints of the schema, with the message of its place. -/
abbrev Fault := Option String

/-! ## Reports as rows -/

def severityRank : Severity → Nat
  | .info => 0
  | .low => 1
  | .medium => 2
  | .high => 3
  | .critical => 4

def severityName : Severity → String
  | .info => "info"
  | .low => "low"
  | .medium => "medium"
  | .high => "high"
  | .critical => "critical"

def statusName : ScanStatus → String
  | .notStarted => "not_started"
  | .completed => "completed"
  | .partialScan => "partial"
  | .interrupted => "interrupted"
  | .failed => "failed"

namespace FindingCounts

def zero : FindingCounts := ⟨0, 0, 0, 0, 0⟩

def add (counts : FindingCounts) : Severity → FindingCounts
  | .info => { counts with info := counts.info + 1 }
  | .low => { counts with low := counts.low + 1 }
  | .medium => { counts with medium := counts.medium + 1 }
  | .high => { counts with high := counts.high + 1 }
  | .critical => { counts with critical := counts.critical + 1 }

def of (counts : FindingCounts) : Severity → Nat
  | .info => counts.info
  | .low => counts.low
  | .medium => counts.medium
  | .high => counts.high
  | .critical => counts.critical

end FindingCounts

def findingCounts (report : ScanReport) : FindingCounts :=
  report.findings.foldl (fun counts finding => counts.add finding.severity) .zero

def normalizedTarget (report : ScanReport) : String := report.target.identity

def scanRow (report : ScanReport) (reportJson origin : String) (createdAt : Timestamp)
    (tenantId : String) : ScanRow where
  scanId := report.scanId
  originalTarget := report.target.original
  normalizedTarget := normalizedTarget report
  scannerVersion := report.scannerVersion
  reportSchemaVersion := report.schemaVersion
  startedAt := report.startedAt.unixTimestamp
  completedAt := report.completedAt.map OffsetDateTime.unixTimestamp
  status := statusName report.status
  interrupted := if report.status = .interrupted then 1 else 0
  counts := findingCounts report
  reportJson := reportJson
  origin := origin
  createdAt := createdAt
  tenantId := tenantId

def findingRow (scanId : String) (finding : Finding) (index : Nat) : FindingRow where
  scanId := scanId
  findingIndex := index
  ruleId := finding.id
  severity := severityName finding.severity
  target := finding.target
  title := finding.title

def findingRows (report : ScanReport) : List FindingRow :=
  report.findings.zipIdx.map fun entry => findingRow report.scanId entry.1 entry.2

/-! ## Persisting and loading -/

namespace Database

def persistReportForTenant (codec : ReportCodec) (db : Database) (tenantId : String)
    (report : ScanReport) (origin : String) (createdAt : Timestamp) (fault : Fault) :
    Except String Database :=
  match codec.toString report with
  | .error _ => .error "could not serialize scan report"
  | .ok reportJson =>
    match fault with
    | some message => .error message
    | none =>
      match db.insertScan (scanRow report reportJson origin createdAt tenantId) with
      | .error error => .error error
      | .ok db => db.insertFindings (findingRows report)

def persistReport (codec : ReportCodec) (db : Database) (report : ScanReport) (origin : String)
    (createdAt : Timestamp) (fault : Fault) : Except String Database :=
  db.persistReportForTenant codec "local" report origin createdAt fault

def report (codec : ReportCodec) (db : Database) (scanId : String) :
    Except String (Option ScanReport) :=
  match db.scans.find? fun row => row.scanId = scanId with
  | none => .ok none
  | some row =>
    match codec.fromStr row.reportJson with
    | .error _ => .error "stored scan report is invalid"
    | .ok report => .ok (some report)

end Database

/-! ## Listing -/

structure ScanSummary where
  scanId : String
  originalTarget : String
  normalizedTarget : String
  status : String
  startedAt : Timestamp
  completedAt : Option Timestamp
  highFindings : Nat
  criticalFindings : Nat
  origin : String
deriving DecidableEq

structure HistoryFilter where
  target : Option String := none
  status : Option String := none
  minimumSeverity : Option Severity := none
  startedAfter : Option Timestamp := none
  startedBefore : Option Timestamp := none
  offset : UInt32 := 0
  limit : UInt32 := 0

def defaultPageSize : Nat := 50
def maxPageSize : Nat := 500

def pageSize (limit : UInt32) : Nat :=
  if limit.toNat = 0 then defaultPageSize else min limit.toNat maxPageSize

def scanSummary (row : ScanRow) : ScanSummary where
  scanId := row.scanId
  originalTarget := row.originalTarget
  normalizedTarget := row.normalizedTarget
  status := row.status
  startedAt := row.startedAt
  completedAt := row.completedAt
  highFindings := row.counts.high
  criticalFindings := row.counts.critical
  origin := row.origin

/-- Newest first; of scans started in the same second the greater id first. -/
def ScanRow.newest (row : ScanRow) : Timestampᵒᵈ ×ₗ Stringᵒᵈ :=
  toLex (OrderDual.toDual row.startedAt, OrderDual.toDual row.scanId)

theorem newestFirst_lt_iff {second second' : Timestamp} {id id' : String} :
    (toLex (OrderDual.toDual second', OrderDual.toDual id') : Timestampᵒᵈ ×ₗ Stringᵒᵈ) <
        toLex (OrderDual.toDual second, OrderDual.toDual id) ↔
      second < second' ∨ second = second' ∧ id < id' := by
  rw [Prod.Lex.toLex_lt_toLex, OrderDual.toDual_lt_toDual, OrderDual.toDual_lt_toDual,
    OrderDual.toDual_inj, eq_comm (a := second')]

/-- Whether some count at the rank or above it is positive. -/
def FindingCounts.reaches (counts : FindingCounts) (rank : Nat) : Bool :=
  decide (rank ≤ 0 ∧ 0 < counts.info) || decide (rank ≤ 1 ∧ 0 < counts.low) ||
    decide (rank ≤ 2 ∧ 0 < counts.medium) || decide (rank ≤ 3 ∧ 0 < counts.high) ||
    decide (rank ≤ 4 ∧ 0 < counts.critical)

def HistoryFilter.admits (filter : HistoryFilter) (row : ScanRow) : Bool :=
  filter.target.all (fun target => row.normalizedTarget = target) &&
    filter.status.all (fun status => row.status = status) &&
    filter.startedAfter.all (fun time => time ≤ row.startedAt) &&
    filter.startedBefore.all (fun time => row.startedAt ≤ time) &&
    (filter.minimumSeverity.map severityRank).all row.counts.reaches

def Database.history (db : Database) (filter : HistoryFilter) : List ScanSummary :=
  ((((sortBy ScanRow.newest (db.scans.filter filter.admits)).drop filter.offset.toNat).take
    (pageSize filter.limit)).map scanSummary)

/-! ## Deleting -/

structure RetentionPolicy where
  keepLast : Option Nat := none
  olderThan : Option Int := none
  preserveHigh : Bool := false
  dryRun : Bool := false

structure RetentionResult where
  scanIds : List String
  deleted : Bool
deriving DecidableEq

/-- The first and the last instant of the calendar, in nanoseconds since the epoch. -/
def minInstant : Int := -377705116800 * 10 ^ 9
def maxInstant : Int := 253402300799 * 10 ^ 9 + 999999999

/-- The second before which scans are old enough. Instants and durations are in nanoseconds. -/
def retentionCutoff (policy : RetentionPolicy) (now : Int) : Except String (Option Timestamp) :=
  match policy.olderThan with
  | none => .ok none
  | some duration =>
    if minInstant ≤ now - duration ∧ now - duration ≤ maxInstant then
      .ok (some ((now - duration) / 10 ^ 9))
    else .error "retention duration is outside the supported range"

/-- The row number of a scan among the scans of its target, newest first. -/
def targetRank (scans : List ScanRow) (row : ScanRow) : Nat :=
  (sortBy ScanRow.newest (scans.filter fun other => other.normalizedTarget = row.normalizedTarget)
    ).findIdx (fun other => other.scanId = row.scanId) + 1

def retentionCandidates (scans : List ScanRow) (cutoff : Option Timestamp) (keepLast : Option Nat)
    (preserveHigh : Bool) : List String :=
  ((sortBy (fun row => toLex (row.startedAt, row.scanId)) scans).filter fun row =>
    cutoff.all (fun time => row.startedAt < time) &&
      keepLast.all (fun keep => keep < targetRank scans row) &&
      (!preserveHigh || decide (row.counts.high = 0 ∧ row.counts.critical = 0))).map ScanRow.scanId

namespace Database

def deleteScan (db : Database) (scanId : String) (stamp : Stamp) (fault : Fault) :
    Except String (Database × Bool) :=
  match fault with
  | some message => .error message
  | none =>
    let deleted := decide (db.affected scanId = 1)
    let db := db.deleteScanRow scanId
    .ok (if deleted then db.recordAudit "scan.delete" (some scanId) stamp else db, deleted)

def selectRetention (db : Database) (policy : RetentionPolicy) (now : Int) :
    Except String (List String) :=
  if policy.keepLast = none ∧ policy.olderThan = none then
    .error "retention requires --keep-last or --older-than"
  else
    match retentionCutoff policy now with
    | .error error => .error error
    | .ok cutoff => .ok (retentionCandidates db.scans cutoff policy.keepLast policy.preserveHigh)

/-- Delete and record one id after the other. -/
def pruneRows (db : Database) (stamps : String → Stamp) : List String → Database
  | [] => db
  | id :: ids =>
    ((db.deleteScanRow id).recordAudit "retention.delete" (some id) (stamps id)).pruneRows stamps ids

/-- The transaction of `prune`. -/
def commitRetention (db : Database) (ids : List String) (stamps : String → Stamp) (fault : Fault) :
    Except String Database :=
  match fault with
  | some message => .error message
  | none => .ok (db.pruneRows stamps ids)

def prune (db : Database) (policy : RetentionPolicy) (now : Int) (stamps : String → Stamp)
    (fault : Fault) : Except String (Database × RetentionResult) :=
  match db.selectRetention policy now with
  | .error error => .error error
  | .ok ids =>
    if !policy.dryRun && !ids.isEmpty then
      match db.commitRetention ids stamps fault with
      | .error error => .error error
      | .ok db => .ok (db, ⟨ids, !policy.dryRun⟩)
    else .ok (db, ⟨ids, !policy.dryRun⟩)

/-! ## What the operations leave -/

theorem deleteScan_ok {db db' : Database} {scanId : String} {stamp : Stamp} {fault : Fault}
    {deleted : Bool} (h : db.deleteScan scanId stamp fault = .ok (db', deleted)) :
    deleted = decide (scanId ∈ db.scanIds) ∧ db'.scans = (db.deleteScanRow scanId).scans ∧
      db'.findings = (db.deleteScanRow scanId).findings ∧
      db'.auditEvents = db.auditEvents ++ if scanId ∈ db.scanIds then
        [⟨stamp.eventId, stamp.occurredAt, "scan.delete", "scan", some scanId, "success"⟩]
      else [] := by
  unfold deleteScan at h
  cases fault with
  | some message => cases h
  | none =>
    simp only [Except.ok.injEq, Prod.mk.injEq] at h
    obtain ⟨rfl, rfl⟩ := h
    have haffected := db.affected_eq scanId
    by_cases hmem : scanId ∈ db.scanIds
    · rw [if_pos hmem] at haffected
      simp [haffected, hmem, recordAudit]
    · rw [if_neg hmem] at haffected
      simp [haffected, hmem]

theorem filter_not_mem_cons {α : Type} {key : α → String} {rows : List α} {id : String}
    {ids : List String} :
    ((rows.filter fun row => key row ≠ id).filter fun row => key row ∉ ids) =
      rows.filter fun row => key row ∉ id :: ids := by
  rw [List.filter_filter]
  refine List.filter_congr (fun row _ => ?_)
  simp [Bool.and_comm]

theorem pruneRows_scans (stamps : String → Stamp) (ids : List String) :
    ∀ db : Database, (db.pruneRows stamps ids).scans =
      db.scans.filter fun row => row.scanId ∉ ids := by
  induction ids with
  | nil =>
    intro db
    simp [pruneRows]
  | cons id ids ih =>
    intro db
    rw [pruneRows, ih, recordAudit_scans]
    exact filter_not_mem_cons

theorem pruneRows_findings (stamps : String → Stamp) (ids : List String) :
    ∀ db : Database, (db.pruneRows stamps ids).findings =
      db.findings.filter fun row => row.scanId ∉ ids := by
  induction ids with
  | nil =>
    intro db
    simp [pruneRows]
  | cons id ids ih =>
    intro db
    rw [pruneRows, ih, recordAudit_findings]
    exact filter_not_mem_cons

/-- Every id is recorded, whether a row had it or not. -/
theorem pruneRows_auditEvents (stamps : String → Stamp) (ids : List String) :
    ∀ db : Database, (db.pruneRows stamps ids).auditEvents = db.auditEvents ++ ids.map fun id =>
      ⟨(stamps id).eventId, (stamps id).occurredAt, "retention.delete", "scan", some id,
        "success"⟩ := by
  induction ids with
  | nil =>
    intro db
    simp [pruneRows]
  | cons id ids ih =>
    intro db
    rw [pruneRows, ih]
    simp [recordAudit]

theorem retentionCandidates_sublist (scans : List ScanRow) (cutoff : Option Timestamp)
    (keepLast : Option Nat) (preserveHigh : Bool) :
    (retentionCandidates scans cutoff keepLast preserveHigh).Sublist
      ((sortBy (fun row => toLex (row.startedAt, row.scanId)) scans).map ScanRow.scanId) :=
  List.filter_sublist.map _

theorem selectRetention_nodup {db : Database} {policy : RetentionPolicy} {now : Int}
    {ids : List String} (h : db.selectRetention policy now = .ok ids) : ids.Nodup := by
  unfold selectRetention at h
  split at h
  · cases h
  · split at h
    · cases h
    · cases h
      have hsorted := ((sortBy_perm (fun row => toLex (row.startedAt, row.scanId)) db.scans).map
        ScanRow.scanId).nodup_iff.mpr db.scans_nodup
      exact hsorted.sublist (retentionCandidates_sublist _ _ _ _)

end Database

/-! ## The stored report of the test fixtures -/

/-- The text of the fixture as the serializer writes it. -/
def fixtureJson : String :=
  "\x7b\"schema_version\":\"0.4.0\",\"scanner_version\":\"0.3.0\"," ++
  "\"scan_id\":\"00000000-0000-4000-8000-000000000000\"," ++
  "\"started_at\":[1970,1,0,0,0,0,0,0,0],\"completed_at\":null," ++
  "\"target\":\x7b\"original\":\"example.com\",\"hostname\":\"example.com\",\"explicit_ip\":null," ++
  "\"scheme\":null,\"explicit_port\":null,\"initial_path\":null\x7d," ++
  "\"configuration\":\x7b\"ports\":[443],\"udp_ports\":[],\"concurrency\":1," ++
  "\"connect_timeout_ms\":100,\"request_timeout_ms\":100,\"global_timeout_ms\":1000," ++
  "\"ipv4_only\":false,\"ipv6_only\":false,\"authorization_acknowledged\":true\x7d," ++
  "\"status\":\"not_started\",\"dns\":null,\"hosts\":[],\"services\":[],\"http\":[],\"tls\":[]," ++
  "\"findings\":[],\"exposure_score\":null,\"intelligence\":null,\"skipped_checks\":[]," ++
  "\"errors\":[],\"message\":\"Scan has not started.\"\x7d"

def fixtureCodec : ReportCodec := fixtureLibrary.reportCodec fun _ => "expected value"

theorem fixtureCodec_faithful : fixtureCodec.Faithful := reportCodec_faithful _ _

/-- The id of a scan by its last digit. -/
def idOf (digit : String) : String := "00000000-0000-4000-8000-00000000000" ++ digit

def scanOf (digit : String) (start : Int) (severities : List Severity) : ScanReport :=
  { observedReport with
    scanId := idOf digit
    startedAt := ⟨start⟩
    findings := severities.map (observedFinding "TLS") }

end Surface

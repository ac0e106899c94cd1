import Surface.Trace
import Surface.Storage.History

/-!
# Surface.Storage.Ledger

The redundant representations of the stored reports stay in step.

* `StorageRun`: the database next to a ledger of the reports that callers were told are stored.
* `Mirrors`: every table is computed from the ledger; each operation keeps this.
-/

namespace Surface

/-! ## The ledger -/

/-- A stored report, with what was said of it when it was persisted. -/
structure StoredReport where
  report : ScanReport
  origin : String
  createdAt : Timestamp

namespace StoredReport

def scanId (e : StoredReport) : String := e.report.scanId

/-- The order of the history: the newest second first, in one second the greater id first. -/
def newest (e : StoredReport) : Timestampᵒᵈ ×ₗ Stringᵒᵈ :=
  toLex (OrderDual.toDual e.report.startedAt.unixTimestamp, OrderDual.toDual e.scanId)

def summary (e : StoredReport) : ScanSummary where
  scanId := e.scanId
  originalTarget := e.report.target.original
  normalizedTarget := e.report.target.identity
  status := statusName e.report.status
  startedAt := e.report.startedAt.unixTimestamp
  completedAt := e.report.completedAt.map OffsetDateTime.unixTimestamp
  highFindings := e.report.findings.countP fun finding => finding.severity = .high
  criticalFindings := e.report.findings.countP fun finding => finding.severity = .critical
  origin := e.origin

/-- Whether some finding is at least this severe. -/
def reaches (minimum : Severity) (e : StoredReport) : Bool :=
  e.report.findings.any fun finding => minimum ≤ finding.severity

end StoredReport

inductive StorageOp where
  | persist (report : ScanReport) (origin : String) (createdAt : Timestamp) (fault : Fault)
  | delete (scanId : String) (stamp : Stamp) (fault : Fault)
  | prune (policy : RetentionPolicy) (now : Int) (stamps : String → Stamp) (fault : Fault)

/-- The database, and the reports that were persisted and not since deleted, as the results of the
operations told. -/
structure StorageRun where
  db : Database
  stored : List StoredReport

namespace StorageRun

def empty : StorageRun := ⟨.empty, []⟩

def find (s : StorageRun) (id : String) : Option StoredReport :=
  s.stored.find? fun e => e.scanId = id

/-- The stored reports that are severe enough, in the order of the history. -/
def listing (s : StorageRun) (minimum : Severity) : List StoredReport :=
  sortBy StoredReport.newest (s.stored.filter (StoredReport.reaches minimum))

variable (codec : ReportCodec)

/-- An operation that fails is rolled back. -/
def step : StorageOp → StorageRun → StorageRun
  | .persist report origin createdAt fault, s =>
    match s.db.persistReport codec report origin createdAt fault with
    | .error _ => s
    | .ok db => ⟨db, s.stored ++ [⟨report, origin, createdAt⟩]⟩
  | .delete scanId stamp fault, s =>
    match s.db.deleteScan scanId stamp fault with
    | .error _ => s
    | .ok (db, deleted) =>
      ⟨db, if deleted then s.stored.filter fun e => e.scanId ≠ scanId else s.stored⟩
  | .prune policy now stamps fault, s =>
    match s.db.prune policy now stamps fault with
    | .error _ => s
    | .ok (db, result) =>
      ⟨db, if result.deleted then s.stored.filter fun e => e.scanId ∉ result.scanIds else s.stored⟩

/-- What a report needs to be persisted. -/
def Accepts (s : StorageRun) (report : ScanReport) (fault : Fault) : Prop :=
  (∃ text, codec.toString report = .ok text) ∧ fault = none ∧ s.find report.scanId = none

end StorageRun

/-! ## The tables, computed from the ledger -/

/-- The text of a report that was encoded. -/
def ReportCodec.text (codec : ReportCodec) (report : ScanReport) : String :=
  match codec.toString report with
  | .error _ => ""
  | .ok text => text

def StoredReport.row (codec : ReportCodec) (e : StoredReport) : ScanRow :=
  scanRow e.report (codec.text e.report) e.origin e.createdAt "local"

/-- Every table is computed from the ledger. -/
structure Mirrors (codec : ReportCodec) (s : StorageRun) : Prop where
  encoded : ∀ e ∈ s.stored, codec.toString e.report = .ok (codec.text e.report)
  scans : s.db.scans = s.stored.map (StoredReport.row codec)
  findings : s.db.findings = s.stored.flatMap fun e => findingRows e.report

section Rows

theorem scanId_of_mem_findingRows {report : ScanReport} {row : FindingRow}
    (h : row ∈ findingRows report) : row.scanId = report.scanId := by
  obtain ⟨entry, _, rfl⟩ := List.mem_map.mp h
  rfl

theorem findingRows_keys_nodup (report : ScanReport) :
    ((findingRows report).map FindingRow.key).Nodup := by
  have hindices : ((findingRows report).map FindingRow.key).map Prod.snd =
      List.range' 0 report.findings.length := by
    unfold findingRows
    rw [List.map_map, List.map_map, ← List.zipIdx_map_snd]
    rfl
  have hnodup : (((findingRows report).map FindingRow.key).map Prod.snd).Nodup := by
    rw [hindices]
    exact List.nodup_range'
  exact hnodup.of_map

/-- Selecting findings by the id of their scan selects the scans. -/
theorem filter_findings (keep : String → Bool) (stored : List StoredReport) :
    ((stored.flatMap fun e => findingRows e.report).filter fun row => keep row.scanId) =
      (stored.filter fun e => keep e.scanId).flatMap fun e => findingRows e.report := by
  induction stored with
  | nil => rfl
  | cons e stored ih =>
    rw [List.flatMap_cons, List.filter_append, ih, List.filter_cons]
    cases hkeep : keep e.scanId with
    | true =>
      have hall : ((findingRows e.report).filter fun row => keep row.scanId) =
          findingRows e.report := by
        refine List.filter_eq_self.mpr (fun row hrow => ?_)
        rw [scanId_of_mem_findingRows hrow]
        exact hkeep
      rw [hall, if_pos rfl, List.flatMap_cons]
    | false =>
      have hnone : ((findingRows e.report).filter fun row => keep row.scanId) = [] := by
        refine List.filter_eq_nil_iff.mpr (fun row hrow => ?_)
        rw [scanId_of_mem_findingRows hrow]
        exact ne_true_of_eq_false hkeep
      rw [hnone, List.nil_append]
      simp

end Rows

namespace Mirrors

variable {codec : ReportCodec} {s : StorageRun}

theorem scanIds (h : Mirrors codec s) : s.db.scanIds = s.stored.map StoredReport.scanId := by
  unfold Database.scanIds
  rw [h.scans, List.map_map]
  rfl

theorem nodup (h : Mirrors codec s) : (s.stored.map StoredReport.scanId).Nodup := by
  rw [← h.scanIds]
  exact s.db.scans_nodup

/-- Deleting the same ids from the tables and from the ledger keeps them in step. -/
theorem filter (h : Mirrors codec s) (keep : String → Bool) {db : Database}
    (hscans : db.scans = s.db.scans.filter fun row => keep row.scanId)
    (hfindings : db.findings = s.db.findings.filter fun row => keep row.scanId) :
    Mirrors codec ⟨db, s.stored.filter fun e => keep e.scanId⟩ where
  encoded := fun e he => h.encoded e (List.mem_of_mem_filter he)
  scans := by
    simp only
    rw [hscans, h.scans, List.filter_map]
    rfl
  findings := by
    simp only
    rw [hfindings, h.findings, filter_findings]

/-- Without a change of the two tables nothing gets out of step. -/
theorem of_same (h : Mirrors codec s) {db : Database} (hscans : db.scans = s.db.scans)
    (hfindings : db.findings = s.db.findings) : Mirrors codec ⟨db, s.stored⟩ :=
  ⟨h.encoded, hscans.trans h.scans, hfindings.trans h.findings⟩

end Mirrors

/-! ## One operation -/

theorem persistReport_ok {codec : ReportCodec} {db db' : Database} {report : ScanReport}
    {origin : String} {createdAt : Timestamp} {fault : Fault}
    (h : db.persistReport codec report origin createdAt fault = .ok db') :
    codec.toString report = .ok (codec.text report) ∧ fault = none ∧ report.scanId ∉ db.scanIds ∧
      db'.scans = db.scans ++ [scanRow report (codec.text report) origin createdAt "local"] ∧
      db'.findings = db.findings ++ findingRows report := by
  unfold Database.persistReport Database.persistReportForTenant at h
  cases htext : codec.toString report with
  | error error => simp [htext] at h
  | ok text =>
    simp only [htext] at h
    cases fault with
    | some message => cases h
    | none =>
      simp only at h
      split at h
      · cases h
      · rename_i middle hscan
        obtain ⟨hnew, hscans, hfindings, _⟩ := Database.insertScan_ok hscan
        obtain ⟨hscans', hfindings', _⟩ := Database.insertFindings_ok h
        have hcodec : codec.text report = text := by simp [ReportCodec.text, htext]
        rw [hcodec]
        exact ⟨rfl, rfl, hnew, hscans'.trans hscans, hfindings'.trans (by rw [hfindings])⟩

/-- A report that can be encoded and has a new id is persisted. -/
theorem persistReport_exists {codec : ReportCodec} {db : Database} {report : ScanReport}
    {text : String} (htext : codec.toString report = .ok text) (hnew : report.scanId ∉ db.scanIds)
    (origin : String) (createdAt : Timestamp) :
    ∃ db', db.persistReport codec report origin createdAt none = .ok db' := by
  unfold Database.persistReport Database.persistReportForTenant
  simp only [htext]
  cases hscan : db.insertScan (scanRow report text origin createdAt "local") with
  | error error =>
    have hrow : (scanRow report text origin createdAt "local").scanId ∉ db.scanIds := hnew
    unfold Database.insertScan at hscan
    rw [dif_neg hrow] at hscan
    cases hscan
  | ok middle =>
    obtain ⟨_, hscans, hfindings, _⟩ := Database.insertScan_ok hscan
    refine Database.insertFindings_exists (findingRows_keys_nodup report) (fun row hrow => ?_)
    have hid := scanId_of_mem_findingRows hrow
    constructor
    · intro hkey
      obtain ⟨other, hother, hsame⟩ := List.mem_map.mp hkey
      rw [hfindings] at hother
      have hscanId : other.scanId = row.scanId := congrArg Prod.fst hsame
      exact hnew (hid ▸ hscanId ▸ db.findings_scan other hother)
    · unfold Database.scanIds
      rw [hscans, List.map_append, List.mem_append]
      exact .inr (by simp [hid, scanRow])

theorem prune_ok {db db' : Database} {policy : RetentionPolicy} {now : Int}
    {stamps : String → Stamp} {fault : Fault} {result : RetentionResult}
    (h : db.prune policy now stamps fault = .ok (db', result)) :
    if result.deleted then
      (db'.scans = db.scans.filter fun row => row.scanId ∉ result.scanIds) ∧
        db'.findings = db.findings.filter fun row => row.scanId ∉ result.scanIds
    else db' = db := by
  unfold Database.prune at h
  split at h
  · cases h
  · rename_i ids hselect
    split at h
    · rename_i hgo
      have hdeleted : policy.dryRun = false := by simp_all
      unfold Database.commitRetention at h
      cases fault with
      | some message => cases h
      | none =>
        cases h
        simp only [hdeleted, Bool.not_false, if_true]
        exact ⟨db.pruneRows_scans stamps ids, db.pruneRows_findings stamps ids⟩
    · rename_i hstop
      cases h
      cases hdry : policy.dryRun with
      | true => simp
      | false =>
        -- nothing was selected, so that there is nothing to delete
        have hids : ids = [] := by simpa [hdry] using hstop
        simp [hids]

theorem mirrors_step {codec : ReportCodec} (op : StorageOp) (s : StorageRun)
    (h : Mirrors codec s) : Mirrors codec (StorageRun.step codec op s) := by
  cases op with
  | persist report origin createdAt fault =>
    simp only [StorageRun.step]
    split
    · exact h
    · rename_i db hpersist
      obtain ⟨hencoded, _, _, hscans, hfindings⟩ := persistReport_ok hpersist
      refine ⟨fun e he => ?_, ?_, ?_⟩
      · rcases List.mem_append.mp he with he | he
        · exact h.encoded e he
        · rw [List.mem_singleton.mp he]
          exact hencoded
      · simp only
        rw [hscans, h.scans, List.map_append]
        rfl
      · simp only
        rw [hfindings, h.findings, List.flatMap_append, List.flatMap_singleton]
  | delete scanId stamp fault =>
    simp only [StorageRun.step]
    split
    · exact h
    · rename_i db deleted hdelete
      obtain ⟨hdeleted, hscans, hfindings, _⟩ := Database.deleteScan_ok hdelete
      by_cases hmem : scanId ∈ s.db.scanIds
      · have hstored : deleted = true := by simpa [hmem] using hdeleted
        rw [if_pos hstored]
        exact h.filter (fun id => id ≠ scanId) hscans hfindings
      · -- no row had the id, and no finding can have it
        have hkept : deleted = false := by simpa [hmem] using hdeleted
        rw [hkept]
        refine h.of_same (hscans.trans ?_) (hfindings.trans ?_)
        · refine List.filter_eq_self.mpr (fun row hrow => ?_)
          have hne : row.scanId ≠ scanId := fun heq => hmem (heq ▸ List.mem_map_of_mem hrow)
          simpa using hne
        · refine List.filter_eq_self.mpr (fun row hrow => ?_)
          have hne : row.scanId ≠ scanId := fun heq => hmem (heq ▸ s.db.findings_scan row hrow)
          simpa using hne
  | prune policy now stamps fault =>
    simp only [StorageRun.step]
    split
    · exact h
    · rename_i db result hprune
      have hresult := prune_ok hprune
      cases hdeleted : result.deleted with
      | true =>
        rw [hdeleted, if_pos rfl] at hresult
        exact h.filter (fun id => id ∉ result.scanIds) hresult.1 hresult.2
      | false =>
        rw [hdeleted] at hresult
        obtain rfl : db = s.db := by simpa using hresult
        exact h

theorem mirrors_empty (codec : ReportCodec) : Mirrors codec .empty :=
  ⟨by simp [StorageRun.empty], rfl, rfl⟩

end Surface

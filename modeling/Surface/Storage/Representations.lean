import Surface.Storage.Ledger

/-!
# Surface.Storage.Representations

What the queries say of a database that mirrors its ledger.

* `of_findingCounts`, `reaches_findingCounts`: the count columns and the severity filter against
  the findings themselves.
* `flatMap_pages`: consecutive pages make up the listing.
* `InStep`: all representations of the stored reports agree.
* `newest_first_iff`: the history keeps whole seconds, so within a second the ids decide.
* `storage_invariant_iff`: the runs whose listings have the newest report first in every state.
-/

namespace Surface

/-! ## Counts and severities -/

theorem severityRank_eq (severity : Severity) : severityRank severity = severity.rank := by
  cases severity <;> rfl

theorem FindingCounts.of_add (counts : FindingCounts) (severity other : Severity) :
    (counts.add other).of severity = counts.of severity + if other = severity then 1 else 0 := by
  cases severity <;> cases other <;> simp [FindingCounts.add, FindingCounts.of]

theorem of_findingCounts (report : ScanReport) (severity : Severity) :
    (findingCounts report).of severity =
      report.findings.countP fun finding => finding.severity = severity := by
  have hrun : ∀ (findings : List Finding) (counts : FindingCounts),
      (findings.foldl (fun counts finding => counts.add finding.severity) counts).of severity =
        counts.of severity + findings.countP fun finding => finding.severity = severity := by
    intro findings
    induction findings with
    | nil =>
      intro counts
      simp
    | cons finding findings ih =>
      intro counts
      rw [List.foldl_cons, ih, FindingCounts.of_add, List.countP_cons]
      simp only [decide_eq_true_eq]
      omega
  have hzero : FindingCounts.zero.of severity = 0 := by cases severity <;> rfl
  unfold findingCounts
  rw [hrun, hzero, Nat.zero_add]

theorem FindingCounts.reaches_iff (counts : FindingCounts) (rank : Nat) :
    counts.reaches rank = true ↔ ∃ severity, rank ≤ severityRank severity ∧
      0 < counts.of severity := by
  unfold FindingCounts.reaches
  simp only [Bool.or_eq_true, decide_eq_true_eq]
  constructor
  · rintro ((((h | h) | h) | h) | h)
    · exact ⟨.info, h⟩
    · exact ⟨.low, h⟩
    · exact ⟨.medium, h⟩
    · exact ⟨.high, h⟩
    · exact ⟨.critical, h⟩
  · rintro ⟨severity, h⟩
    cases severity <;> simp only [severityRank, FindingCounts.of] at h <;> tauto

/-- The severity filter over the count columns finds the reports with a severe enough finding. -/
theorem reaches_findingCounts (report : ScanReport) (minimum : Severity) :
    (findingCounts report).reaches (severityRank minimum) =
      report.findings.any fun finding => minimum ≤ finding.severity := by
  rw [Bool.eq_iff_iff, FindingCounts.reaches_iff, List.any_eq_true]
  constructor
  · rintro ⟨severity, hrank, hcount⟩
    rw [of_findingCounts, List.countP_pos_iff] at hcount
    obtain ⟨finding, hfinding, hseverity⟩ := hcount
    refine ⟨finding, hfinding, ?_⟩
    rw [severityRank_eq, severityRank_eq] at hrank
    simp only [decide_eq_true_eq] at hseverity ⊢
    rw [hseverity]
    exact hrank
  · rintro ⟨finding, hfinding, hle⟩
    refine ⟨finding.severity, ?_, ?_⟩
    · rw [severityRank_eq, severityRank_eq]
      exact of_decide_eq_true hle
    · rw [of_findingCounts, List.countP_pos_iff]
      exact ⟨finding, hfinding, by simp⟩

/-! ## Listings -/

/-- Consecutive pages make up the beginning of a list. -/
theorem flatMap_pages {α : Type} (l : List α) (size : Nat) :
    ∀ n, (List.range n).flatMap (fun k => (l.drop (k * size)).take size) = l.take (n * size) := by
  intro n
  induction n with
  | zero => simp
  | succ n ih =>
    rw [List.range_succ, List.flatMap_append, ih, List.flatMap_singleton, Nat.add_mul, Nat.one_mul]
    exact List.take_add.symm

theorem StoredReport.scanSummary_row (codec : ReportCodec) (e : StoredReport) :
    scanSummary (e.row codec) = e.summary := by
  have hhigh := of_findingCounts e.report .high
  have hcritical := of_findingCounts e.report .critical
  unfold scanSummary StoredReport.row scanRow StoredReport.summary
  simp only [FindingCounts.of] at hhigh hcritical
  simp only [hhigh, hcritical]
  rfl

theorem StoredReport.admits_row (codec : ReportCodec) (minimum : Severity) (offset limit : UInt32)
    (e : StoredReport) :
    HistoryFilter.admits { minimumSeverity := some minimum, offset := offset, limit := limit }
      (e.row codec) = e.reaches minimum := by
  have hreaches := reaches_findingCounts e.report minimum
  simp only [HistoryFilter.admits, Option.all_none, Option.map_some, Option.all_some,
    Bool.true_and, StoredReport.row, scanRow, hreaches, StoredReport.reaches]

namespace Mirrors

variable {codec : ReportCodec} {s : StorageRun}

theorem history (h : Mirrors codec s) (minimum : Severity) (offset limit : UInt32) :
    s.db.history { minimumSeverity := some minimum, offset := offset, limit := limit } =
      (((s.listing minimum).drop offset.toNat).take (pageSize limit)).map StoredReport.summary := by
  have hkey : ∀ e : StoredReport, (e.row codec).newest = e.newest := fun _ => rfl
  have hadmits : (HistoryFilter.admits
      { minimumSeverity := some minimum, offset := offset, limit := limit }) ∘
        StoredReport.row codec = StoredReport.reaches minimum := by
    funext e
    exact e.admits_row codec minimum offset limit
  have hsummary : scanSummary ∘ StoredReport.row codec = StoredReport.summary := by
    funext e
    exact e.scanSummary_row codec
  unfold Database.history StorageRun.listing
  rw [h.scans, List.filter_map, hadmits, sortBy_map hkey, ← List.map_drop, ← List.map_take,
    List.map_map, hsummary]

/-- The pages of a listing, one after the other. -/
theorem history_pages (h : Mirrors codec s) (minimum : Severity) (limit : UInt32) (n : Nat)
    (hn : ∀ k < n, k * pageSize limit < 2 ^ 32) :
    (List.range n).flatMap (fun k => s.db.history
      { minimumSeverity := some minimum
        offset := UInt32.ofNat (k * pageSize limit)
        limit := limit }) =
      ((s.listing minimum).take (n * pageSize limit)).map StoredReport.summary := by
  rw [← flatMap_pages, List.map_flatMap]
  refine List.flatMap_congr (fun k hk => ?_)
  have hoffset : (UInt32.ofNat (k * pageSize limit)).toNat = k * pageSize limit :=
    UInt32.toNat_ofNat_of_lt' (hn k (List.mem_range.mp hk))
  rw [h.history, hoffset]

/-! ## Loading -/

theorem report (h : Mirrors codec s) (hcodec : codec.Faithful) (id : String) :
    s.db.report codec id = .ok ((s.find id).map StoredReport.report) := by
  have hfind : (s.db.scans.find? fun row => row.scanId = id) =
      (s.find id).map (StoredReport.row codec) := by
    rw [h.scans, List.find?_map]
    rfl
  unfold Database.report
  rw [hfind]
  cases hstored : s.find id with
  | none => rfl
  | some e =>
    have hmem : e ∈ s.stored := List.mem_of_find?_eq_some hstored
    have hdecoded := hcodec e.report _ (h.encoded e hmem)
    simp only [Option.map_some, StoredReport.row, scanRow, hdecoded]

/-- Elements with distinct keys: those with a given key are the first one. -/
theorem filter_eq_toList_find {α : Type} {key : α → String} (id : String) {l : List α}
    (h : (l.map key).Nodup) : (l.filter fun a => key a = id) = (l.find? fun a => key a = id).toList := by
  induction l with
  | nil => rfl
  | cons a l ih =>
    obtain ⟨hout, hnodup⟩ := List.nodup_cons.mp h
    rw [List.filter_cons, List.find?_cons]
    by_cases ha : key a = id
    · have hnone : (l.filter fun b => key b = id) = [] := by
        refine List.filter_eq_nil_iff.mpr (fun b hb => ?_)
        have hne : key b ≠ id := fun heq => hout (ha ▸ heq ▸ List.mem_map_of_mem hb)
        simpa using hne
      simp [ha, hnone]
    · simp [ha, ih hnodup]

theorem findings_of (h : Mirrors codec s) (id : String) :
    (s.db.findings.filter fun row => row.scanId = id) =
      match s.find id with
      | none => []
      | some e => findingRows e.report := by
  rw [h.findings, filter_findings (fun other => other = id), filter_eq_toList_find id h.nodup]
  unfold StorageRun.find
  cases s.stored.find? fun e => e.scanId = id with
  | none => rfl
  | some e => simp

theorem counts_of (h : Mirrors codec s) {row : ScanRow} (hrow : row ∈ s.db.scans) :
    ∃ e, s.find row.scanId = some e ∧ ∀ severity, row.counts.of severity =
      e.report.findings.countP fun finding => finding.severity = severity := by
  rw [h.scans] at hrow
  obtain ⟨e, he, rfl⟩ := List.mem_map.mp hrow
  refine ⟨e, ?_, of_findingCounts e.report⟩
  have hlist := filter_eq_toList_find e.scanId h.nodup
  have hmem : e ∈ s.stored.filter fun other => other.scanId = e.scanId :=
    List.mem_filter.mpr ⟨he, by simp⟩
  rw [hlist] at hmem
  exact Option.mem_toList.mp hmem

theorem listing_strict (h : Mirrors codec s) (minimum : Severity) :
    (s.listing minimum).Pairwise fun e e' => e.newest < e'.newest := by
  refine sortBy_strict (List.Nodup.of_map (fun key => OrderDual.ofDual (ofLex key).2) ?_)
  rw [List.map_map]
  exact h.nodup.sublist (List.filter_sublist.map _)

/-! ## Persisting -/

theorem persists_iff (h : Mirrors codec s) (report : ScanReport) (origin : String)
    (createdAt : Timestamp) (fault : Fault) :
    (∃ db, s.db.persistReport codec report origin createdAt fault = .ok db) ↔
      s.Accepts codec report fault := by
  have hfind : s.find report.scanId = none ↔ report.scanId ∉ s.db.scanIds := by
    rw [h.scanIds, StorageRun.find, List.find?_eq_none]
    simp [List.mem_map]
  rw [StorageRun.Accepts, hfind]
  constructor
  · rintro ⟨db, hdb⟩
    obtain ⟨htext, hfault, hnew, _⟩ := persistReport_ok hdb
    exact ⟨⟨_, htext⟩, hfault, hnew⟩
  · rintro ⟨⟨text, htext⟩, rfl, hnew⟩
    exact persistReport_exists htext hnew origin createdAt

end Mirrors

/-! ## The invariant -/

/-- Every representation of the stored reports agrees with the ledger. -/
structure InStep (codec : ReportCodec) (s : StorageRun) : Prop where
  distinct : (s.stored.map StoredReport.scanId).Nodup
  scans : s.db.scanIds = s.stored.map StoredReport.scanId
  report : ∀ id, s.db.report codec id = .ok ((s.find id).map StoredReport.report)
  findings : ∀ id, (s.db.findings.filter fun row => row.scanId = id) = match s.find id with
    | none => []
    | some e => findingRows e.report
  counts : ∀ row ∈ s.db.scans, ∃ e, s.find row.scanId = some e ∧ ∀ severity,
    row.counts.of severity = e.report.findings.countP fun finding => finding.severity = severity
  listed : ∀ minimum e, e ∈ s.listing minimum ↔
    e ∈ s.stored ∧ ∃ finding ∈ e.report.findings, minimum ≤ finding.severity
  ordered : ∀ minimum, (s.listing minimum).Pairwise fun e e' => e.newest < e'.newest
  pages : ∀ minimum limit n, (∀ k < n, k * pageSize limit < 2 ^ 32) →
    (List.range n).flatMap (fun k => s.db.history
      { minimumSeverity := some minimum
        offset := UInt32.ofNat (k * pageSize limit)
        limit := limit }) =
      ((s.listing minimum).take (n * pageSize limit)).map StoredReport.summary
  persisted : ∀ report origin createdAt fault,
    (∃ db, s.db.persistReport codec report origin createdAt fault = .ok db) ↔
      s.Accepts codec report fault
  failed : ∀ report origin createdAt fault error,
    s.db.persistReport codec report origin createdAt fault = .error error →
      StorageRun.step codec (.persist report origin createdAt fault) s = s

/-- And the listings have the newest report first. -/
structure StorageInvariant (codec : ReportCodec) (s : StorageRun) : Prop
    extends InStep codec s where
  newest_first : ∀ minimum, (s.listing minimum).Pairwise fun e e' =>
    e'.report.startedAt.nanoseconds ≤ e.report.startedAt.nanoseconds

theorem Mirrors.inStep {codec : ReportCodec} {s : StorageRun} (h : Mirrors codec s)
    (hcodec : codec.Faithful) : InStep codec s where
  distinct := h.nodup
  scans := h.scanIds
  report := h.report hcodec
  findings := h.findings_of
  counts := fun _ hrow => h.counts_of hrow
  listed := by
    intro minimum e
    simp [StorageRun.listing, StoredReport.reaches]
  ordered := h.listing_strict
  pages := h.history_pages
  persisted := h.persists_iff
  failed := by
    intro report origin createdAt fault error herror
    simp only [StorageRun.step, herror]

/-! ## Newest first -/

/-- Of two reports with findings that started in one second, the later one has the greater id. -/
def StartsInOrder (report report' : ScanReport) : Prop :=
  report.findings ≠ [] → report'.findings ≠ [] →
    report.startedAt.unixTimestamp = report'.startedAt.unixTimestamp →
      (report.startedAt.nanoseconds < report'.startedAt.nanoseconds →
        report.scanId < report'.scanId) ∧
      (report'.startedAt.nanoseconds < report.startedAt.nanoseconds →
        report'.scanId < report.scanId)

instance (report report' : ScanReport) : Decidable (StartsInOrder report report') :=
  inferInstanceAs (Decidable (_ → _ → _ → _ ∧ _))

theorem StartsInOrder.symm {report report' : ScanReport} (h : StartsInOrder report report') :
    StartsInOrder report' report :=
  fun hfindings' hfindings hsecond => (h hfindings hfindings' hsecond.symm).symm

theorem startsInOrder_self (report : ScanReport) : StartsInOrder report report :=
  fun _ _ _ => ⟨fun hlt => absurd hlt (lt_irrefl _), fun hlt => absurd hlt (lt_irrefl _)⟩

theorem StorageRun.findings_ne_nil {s : StorageRun} {minimum : Severity} {e : StoredReport}
    (h : e ∈ s.listing minimum) : e.report.findings ≠ [] := by
  rw [listing, mem_sortBy, List.mem_filter, StoredReport.reaches, List.any_eq_true] at h
  obtain ⟨_, finding, hfinding, _⟩ := h
  exact List.ne_nil_of_mem hfinding

theorem StorageRun.mem_listing_info {s : StorageRun} {e : StoredReport} (h : e ∈ s.stored)
    (hfindings : e.report.findings ≠ []) : e ∈ s.listing .info := by
  rw [listing, mem_sortBy, List.mem_filter, StoredReport.reaches, List.any_eq_true]
  obtain ⟨finding, hfinding⟩ := List.exists_mem_of_ne_nil _ hfindings
  exact ⟨h, finding, hfinding, decide_eq_true (Nat.zero_le finding.severity.rank)⟩

/-- The history orders by second and id, so it has the newest first when the two never disagree. -/
theorem Mirrors.newest_first_iff {codec : ReportCodec} {s : StorageRun} (h : Mirrors codec s) :
    (∀ minimum, (s.listing minimum).Pairwise fun e e' =>
      e'.report.startedAt.nanoseconds ≤ e.report.startedAt.nanoseconds) ↔
    ∀ e ∈ s.stored, ∀ e' ∈ s.stored, StartsInOrder e.report e'.report := by
  constructor
  · intro hnewest
    have hinfo := (pairwise_iff_of_strict (h.listing_strict .info)).mp (hnewest .info)
    have hlater : ∀ e ∈ s.stored, ∀ e' ∈ s.stored, e.report.findings ≠ [] →
        e'.report.findings ≠ [] →
        e.report.startedAt.unixTimestamp = e'.report.startedAt.unixTimestamp →
        e.report.startedAt.nanoseconds < e'.report.startedAt.nanoseconds →
        e.scanId < e'.scanId := by
      intro e he e' he' hfindings hfindings' hsecond hearlier
      by_contra hid
      -- the greater id comes first, but belongs to the earlier scan
      rcases lt_or_eq_of_le (not_lt.mp hid) with hid | hid
      · have hfirst := hinfo e (s.mem_listing_info he hfindings) e'
          (s.mem_listing_info he' hfindings') (newestFirst_lt_iff.mpr (.inr ⟨hsecond.symm, hid⟩))
        exact absurd hearlier (not_lt.mpr hfirst)
      · rw [List.inj_on_of_nodup_map h.nodup he' he hid] at hearlier
        exact lt_irrefl _ hearlier
    exact fun e he e' he' hfindings hfindings' hsecond =>
      ⟨hlater e he e' he' hfindings hfindings' hsecond,
        hlater e' he' e he hfindings' hfindings hsecond.symm⟩
  · intro horder minimum
    refine (pairwise_iff_of_strict (h.listing_strict minimum)).mpr fun e he e' he' hlt => ?_
    by_contra hlater
    rw [not_le] at hlater
    rcases newestFirst_lt_iff.mp hlt with hsecond | ⟨hsecond, hid⟩
    · exact absurd (OffsetDateTime.unixTimestamp_mono hlater.le) (not_le.mpr hsecond)
    · have hids := (horder e (List.mem_of_mem_filter (mem_sortBy.mp he)) e'
        (List.mem_of_mem_filter (mem_sortBy.mp he')) (s.findings_ne_nil he)
        (s.findings_ne_nil he') hsecond.symm).1 hlater
      exact absurd hids hid.asymm

/-! ## Runs -/

/-- A report that is persisted is in order with those that are stored. -/
def PersistsInOrder (codec : ReportCodec) : StorageOp → StorageRun → Prop
  | .persist report _ _ fault, s =>
    s.Accepts codec report fault → ∀ e ∈ s.stored, StartsInOrder e.report report
  | _, _ => True

/-- The invariant of the runs whose listings have the newest report first. -/
structure MirrorsInOrder (codec : ReportCodec) (s : StorageRun) : Prop where
  mirrors : Mirrors codec s
  inOrder : ∀ e ∈ s.stored, ∀ e' ∈ s.stored, StartsInOrder e.report e'.report

namespace MirrorsInOrder

variable {codec : ReportCodec}

theorem storageInvariant (hcodec : codec.Faithful) (s : StorageRun) (h : MirrorsInOrder codec s) :
    StorageInvariant codec s :=
  ⟨h.mirrors.inStep hcodec, h.mirrors.newest_first_iff.mpr h.inOrder⟩

/-- What is stored after a step was stored before, or is the report that was persisted. -/
theorem mem_step {op : StorageOp} {s : StorageRun} (h : Mirrors codec s) {e : StoredReport}
    (he : e ∈ (StorageRun.step codec op s).stored) :
    e ∈ s.stored ∨ ∃ report origin createdAt fault, op = .persist report origin createdAt fault ∧
      s.Accepts codec report fault ∧ e.report = report := by
  cases op with
  | persist report origin createdAt fault =>
    simp only [StorageRun.step] at he
    split at he
    · exact .inl he
    · rename_i db hdb
      rcases List.mem_append.mp he with he | he
      · exact .inl he
      · have haccepts := (h.persists_iff report origin createdAt fault).mp ⟨db, hdb⟩
        exact .inr ⟨report, origin, createdAt, fault, rfl, haccepts,
          congrArg StoredReport.report (List.mem_singleton.mp he)⟩
  | delete scanId stamp fault =>
    simp only [StorageRun.step] at he
    split at he
    · exact .inl he
    · split at he
      · exact .inl (List.mem_of_mem_filter he)
      · exact .inl he
  | prune policy now stamps fault =>
    simp only [StorageRun.step] at he
    split at he
    · exact .inl he
    · split at he
      · exact .inl (List.mem_of_mem_filter he)
      · exact .inl he

theorem step (op : StorageOp) (s : StorageRun) (h : MirrorsInOrder codec s)
    (hop : PersistsInOrder codec op s) : MirrorsInOrder codec (StorageRun.step codec op s) where
  mirrors := mirrors_step op s h.mirrors
  inOrder := by
    intro e he e' he'
    rcases mem_step h.mirrors he with hold | ⟨report, origin, createdAt, fault, rfl, haccepts, hnew⟩
    · rcases mem_step h.mirrors he' with hold' | ⟨report, _, _, fault, rfl, haccepts, hnew⟩
      · exact h.inOrder e hold e' hold'
      · exact hnew ▸ hop haccepts e hold
    · rcases mem_step h.mirrors he' with hold' | ⟨report', _, _, _, hsame, _, hnew'⟩
      · exact hnew ▸ (hop haccepts e' hold').symm
      · obtain ⟨rfl, -⟩ := StorageOp.persist.inj hsame
        rw [hnew, hnew']
        exact startsInOrder_self report

/-- A report that is persisted out of order is listed at a wrong place at once. -/
theorem not_storageInvariant_step (op : StorageOp) (s : StorageRun) (h : MirrorsInOrder codec s)
    (hop : ¬ PersistsInOrder codec op s) :
    ¬ StorageInvariant codec (StorageRun.step codec op s) := by
  intro hinvariant
  have horder := (mirrors_step op s h.mirrors).newest_first_iff.mp hinvariant.newest_first
  cases op with
  | persist report origin createdAt fault =>
    refine hop fun haccepts e he => ?_
    obtain ⟨db, hdb⟩ := (h.mirrors.persists_iff report origin createdAt fault).mpr haccepts
    have hstored : (StorageRun.step codec (.persist report origin createdAt fault) s).stored =
        s.stored ++ [⟨report, origin, createdAt⟩] := by simp only [StorageRun.step, hdb]
    rw [hstored] at horder
    exact horder e (List.mem_append_left _ he) _ (List.mem_append_right _ List.mem_cons_self)
  | delete scanId stamp fault => exact hop trivial
  | prune policy now stamps fault => exact hop trivial

end MirrorsInOrder

/-- In every state of every run all representations of the stored reports agree; and the listings
have the newest report first in every state passed exactly when every report that is persisted is in
order with those that are stored. -/
theorem storage_invariant_iff (codec : ReportCodec) (hcodec : codec.Faithful)
    (ops : List StorageOp) :
    (∀ s ∈ trace (StorageRun.step codec) ops .empty, InStep codec s) ∧
    ((∀ s ∈ trace (StorageRun.step codec) ops .empty, StorageInvariant codec s) ↔
      allSteps (StorageRun.step codec) (PersistsInOrder codec) ops .empty) := by
  constructor
  · exact fun s hs => (trace_keeps mirrors_step (mirrors_empty codec) s hs).inStep hcodec
  · exact trace_iff (MirrorsInOrder.storageInvariant hcodec) MirrorsInOrder.step
      MirrorsInOrder.not_storageInvariant_step ⟨mirrors_empty codec, List.forall_mem_nil _⟩

/-! ## Scans of one second -/

def persistScan (report : ScanReport) : StorageOp := .persist report "cli" 1002 none

/-- Three scans of one second whose ids are in order, a fourth one without findings, one id twice,
and deletions of both kinds. -/
def orderedScans : List StorageOp :=
  [persistScan (scanOf "2" 1000500000000 [.low, .critical]),
    persistScan (scanOf "1" 1000100000000 [.info, .high, .medium, .high]),
    persistScan (scanOf "0" 1000900000000 []),
    persistScan (scanOf "1" 1000900000000 [.critical]),
    .delete "00000000-0000-4000-8000-000000000002" ⟨"event", 1003⟩ none,
    persistScan (scanOf "3" 1000700000000 [.low]),
    .prune { keepLast := some 2 } 1004000000000 (fun _ => ⟨"event", 1004⟩) none]

def fixtureRun (ops : List StorageOp) : StorageRun :=
  ops.foldl (fun s op => StorageRun.step fixtureCodec op s) .empty

theorem storage_invariant_ordered :
    ((fixtureRun orderedScans).db.history { minimumSeverity := some .low }).map
        ScanSummary.scanId =
      ["00000000-0000-4000-8000-000000000003", "00000000-0000-4000-8000-000000000001"] ∧
    StorageInvariant fixtureCodec (fixtureRun orderedScans) :=
  ⟨by decide +kernel,
    (storage_invariant_iff fixtureCodec fixtureCodec_faithful orderedScans).2.mpr
      ⟨fun _ => by decide +kernel, fun _ => by decide +kernel, fun _ => by decide +kernel,
        fun haccepts => absurd haccepts.2.2 (by decide +kernel), trivial,
        fun _ => by decide +kernel, trivial, trivial⟩ _ (foldl_mem_trace _ _ _)⟩

/-- The scan that started first has the greater id. -/
def crossedScans : List StorageOp :=
  [persistScan (scanOf "2" 1000100000000 [.low]), persistScan (scanOf "1" 1000900000000 [.high])]

/-- It is listed first all the same. -/
theorem storage_lists_older_first :
    ((fixtureRun crossedScans).db.history { minimumSeverity := some .low }).map
        ScanSummary.scanId =
      ["00000000-0000-4000-8000-000000000002", "00000000-0000-4000-8000-000000000001"] ∧
    ¬ ∀ s ∈ trace (StorageRun.step fixtureCodec) crossedScans .empty,
      StorageInvariant fixtureCodec s := by
  refine ⟨by decide +kernel, fun h => ?_⟩
  have hnewest := (h (fixtureRun crossedScans) (foldl_mem_trace _ _ _)).newest_first .low
  have hstarts : ((fixtureRun crossedScans).listing .low).map
      (fun e => e.report.startedAt.nanoseconds) = [1000100000000, 1000900000000] := by
    decide +kernel
  have hsorted : (((fixtureRun crossedScans).listing .low).map
      fun e => e.report.startedAt.nanoseconds).Pairwise (· ≥ ·) := List.pairwise_map.mpr hnewest
  rw [hstarts] at hsorted
  exact absurd hsorted (by decide)

end Surface

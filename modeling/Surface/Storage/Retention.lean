import Surface.Storage.Audit

/-!
# Surface.Storage.Retention

What a retention policy selects.

* `newerScans`: the place of a scan among those of its target; `targetRank_eq` connects it with
  the row number of the query.
* `Expired`: the policy in its own terms.
* `retention_exact`: the selection, what stays of each target, dry runs and repeated runs.
-/

namespace Surface

/-! ## Ranks -/

/-- Another scan of the same target that comes earlier, newest first. -/
def ScanRow.Newer (row other : ScanRow) : Prop :=
  other.normalizedTarget = row.normalizedTarget ∧
    (row.startedAt < other.startedAt ∨
      row.startedAt = other.startedAt ∧ row.scanId < other.scanId)

theorem ScanRow.newest_lt_iff {row other : ScanRow} :
    other.newest < row.newest ↔ row.startedAt < other.startedAt ∨
      row.startedAt = other.startedAt ∧ row.scanId < other.scanId :=
  newestFirst_lt_iff

instance (row other : ScanRow) : Decidable (row.Newer other) :=
  inferInstanceAs (Decidable (_ ∧ (_ ∨ _ ∧ _)))

/-- The number of newer scans of the same target. -/
def newerScans (scans : List ScanRow) (row : ScanRow) : Nat := scans.countP (row.Newer ·)

def targetScans (scans : List ScanRow) (target : String) : List ScanRow :=
  scans.filter fun row => row.normalizedTarget = target

theorem newest_nodup {scans : List ScanRow} (h : (scans.map ScanRow.scanId).Nodup) :
    (scans.map ScanRow.newest).Nodup := by
  refine List.Nodup.of_map (fun key => OrderDual.ofDual (ofLex key).2) ?_
  rw [List.map_map]
  exact h

theorem targetScans_nodup {scans : List ScanRow} (h : (scans.map ScanRow.scanId).Nodup)
    (target : String) : ((targetScans scans target).map ScanRow.scanId).Nodup :=
  h.sublist (List.filter_sublist.map _)

/-- The newer scans of a target, counted in the list of its scans from the newest on. -/
theorem newerScans_of_split {scans : List ScanRow} (hnodup : (scans.map ScanRow.scanId).Nodup)
    {target : String} {row : ScanRow} {before after : List ScanRow}
    (hsplit : sortBy ScanRow.newest (targetScans scans target) = before ++ row :: after) :
    newerScans scans row = before.length := by
  have hstrict := sortBy_strict (newest_nodup (targetScans_nodup hnodup target))
  have hmem : row ∈ targetScans scans target := by
    refine (sortBy_perm ScanRow.newest _).mem_iff.mp ?_
    rw [hsplit]
    exact List.mem_append_right _ List.mem_cons_self
  have htarget : row.normalizedTarget = target :=
    of_decide_eq_true (List.mem_filter.mp hmem).2
  rw [hsplit] at hstrict
  rw [← countP_lt_of_sorted hstrict, ← hsplit, (sortBy_perm _ _).countP_eq, targetScans,
    List.countP_filter, newerScans]
  refine List.countP_congr fun other _ => ?_
  rw [Bool.and_eq_true, decide_eq_true_eq, decide_eq_true_eq, decide_eq_true_eq,
    ScanRow.newest_lt_iff, ScanRow.Newer, htarget]
  exact and_comm

theorem targetRank_eq {scans : List ScanRow} (hnodup : (scans.map ScanRow.scanId).Nodup)
    {row : ScanRow} (hrow : row ∈ scans) : targetRank scans row = newerScans scans row + 1 := by
  have hmem : row ∈ sortBy ScanRow.newest (targetScans scans row.normalizedTarget) :=
    mem_sortBy.mpr (List.mem_filter.mpr ⟨hrow, decide_eq_true rfl⟩)
  obtain ⟨before, after, hsplit⟩ := List.append_of_mem hmem
  have hids : (before ++ row :: after).map ScanRow.scanId |>.Nodup := by
    rw [← hsplit]
    exact ((sortBy_perm _ _).map _).nodup_iff.mpr (targetScans_nodup hnodup _)
  have hbefore : before.findIdx (fun other => decide (other.scanId = row.scanId)) =
      before.length := by
    refine List.findIdx_eq_length.mpr fun other hother => decide_eq_false fun heq => ?_
    rw [List.map_append, List.nodup_append] at hids
    exact hids.2.2 _ (List.mem_map_of_mem hother) _ (List.mem_map_of_mem List.mem_cons_self) heq
  rw [newerScans_of_split hnodup hsplit, targetRank]
  change (sortBy ScanRow.newest (targetScans scans row.normalizedTarget)).findIdx _ + 1 = _
  rw [hsplit, List.findIdx_append, hbefore, if_neg (Nat.lt_irrefl _), List.findIdx_cons,
    decide_eq_true rfl, cond_true, Nat.zero_add]

/-- A smaller set of scans has no more scans that are newer. -/
theorem newerScans_le {scans kept : List ScanRow} (h : kept.Sublist scans) (row : ScanRow) :
    newerScans kept row ≤ newerScans scans row :=
  h.countP_le

/-- The newest scans of a target, as many as a number or as there are. -/
theorem length_newest {scans : List ScanRow} (hnodup : (scans.map ScanRow.scanId).Nodup)
    (target : String) (keep : Nat) :
    min keep (targetScans scans target).length ≤
      ((targetScans scans target).filter fun row => newerScans scans row < keep).length := by
  have hlength : ((sortBy ScanRow.newest (targetScans scans target)).take keep).length =
      min keep (targetScans scans target).length := by
    rw [List.length_take, (sortBy_perm _ _).length_eq]
  rw [← hlength]
  have hdistinct : (sortBy ScanRow.newest (targetScans scans target)).Nodup :=
    (sortBy_perm _ _).nodup_iff.mpr (targetScans_nodup hnodup target).of_map
  refine (List.subperm_of_subset (hdistinct.sublist (List.take_sublist ..)) ?_).length_le
  intro row hrow
  obtain ⟨before, after, htake⟩ := List.append_of_mem hrow
  have hsplit : sortBy ScanRow.newest (targetScans scans target) =
      before ++ row :: (after ++ (sortBy ScanRow.newest (targetScans scans target)).drop keep) := by
    rw [← List.cons_append, ← List.append_assoc, ← htake, List.take_append_drop]
  have hbefore : before.length < keep := by
    have hle := List.length_take_le keep (sortBy ScanRow.newest (targetScans scans target))
    rw [htake, List.length_append, List.length_cons] at hle
    omega
  refine List.mem_filter.mpr ⟨mem_sortBy.mp (List.mem_of_mem_take hrow), ?_⟩
  rw [decide_eq_true_eq, newerScans_of_split hnodup hsplit]
  exact hbefore

/-! ## The policy -/

/-- A scan that the policy gives up: old enough, behind the newest scans of its target, and
without a grave finding, as far as the policy asks for each. -/
structure Expired (scans : List ScanRow) (policy : RetentionPolicy) (cutoff : Option Timestamp)
    (row : ScanRow) : Prop where
  older : ∀ time, cutoff = some time → row.startedAt < time
  behind : ∀ keep, policy.keepLast = some keep → keep ≤ newerScans scans row
  harmless : policy.preserveHigh = true → row.counts.high = 0 ∧ row.counts.critical = 0

theorem mem_retentionCandidates {scans : List ScanRow}
    (hnodup : (scans.map ScanRow.scanId).Nodup) {policy : RetentionPolicy}
    {cutoff : Option Timestamp} {id : String} :
    id ∈ retentionCandidates scans cutoff policy.keepLast policy.preserveHigh ↔
      ∃ row ∈ scans, row.scanId = id ∧ Expired scans policy cutoff row := by
  unfold retentionCandidates
  rw [List.mem_map]
  constructor
  · rintro ⟨row, hrow, rfl⟩
    obtain ⟨hmem, hchecks⟩ := List.mem_filter.mp hrow
    rw [mem_sortBy] at hmem
    simp only [Bool.and_eq_true, Bool.or_eq_true, Bool.not_eq_true', decide_eq_true_eq,
      targetRank_eq hnodup hmem, Option.all_eq_true] at hchecks
    obtain ⟨⟨holder, hbehind⟩, hharmless⟩ := hchecks
    refine ⟨row, hmem, rfl, fun time htime => ?_, fun keep hkeep => ?_, fun hpreserve => ?_⟩
    · exact holder time htime
    · exact Nat.lt_succ_iff.mp (hbehind keep hkeep)
    · exact hharmless.resolve_left (by rw [hpreserve]; nofun)
  · rintro ⟨row, hmem, rfl, hexpired⟩
    refine ⟨row, List.mem_filter.mpr ⟨mem_sortBy.mpr hmem, ?_⟩, rfl⟩
    simp only [Bool.and_eq_true, Bool.or_eq_true, Bool.not_eq_true', decide_eq_true_eq,
      targetRank_eq hnodup hmem, Option.all_eq_true]
    refine ⟨⟨hexpired.older, fun keep hkeep => Nat.lt_succ_iff.mpr (hexpired.behind keep hkeep)⟩, ?_⟩
    cases hpreserve : policy.preserveHigh with
    | false => exact .inl rfl
    | true => exact .inr (hexpired.harmless hpreserve)

/-- What a scan that is still there would have to have lost to expire: nothing, since fewer scans
are newer than before. -/
theorem Expired.of_sublist {scans kept : List ScanRow} (h : kept.Sublist scans)
    {policy : RetentionPolicy} {cutoff : Option Timestamp} {row : ScanRow}
    (hexpired : Expired kept policy cutoff row) : Expired scans policy cutoff row where
  older := hexpired.older
  behind keep hkeep := (hexpired.behind keep hkeep).trans (newerScans_le h row)
  harmless := hexpired.harmless

namespace Database

theorem selectRetention_eq {policy : RetentionPolicy} {now : Int} {cutoff : Option Timestamp}
    (hpolicy : policy.keepLast ≠ none ∨ policy.olderThan ≠ none)
    (hcutoff : retentionCutoff policy now = .ok cutoff) (db : Database) :
    db.selectRetention policy now =
      .ok (retentionCandidates db.scans cutoff policy.keepLast policy.preserveHigh) := by
  have hnot : ¬ (policy.keepLast = none ∧ policy.olderThan = none) := fun hnone =>
    hpolicy.elim (fun h => h hnone.1) fun h => h hnone.2
  rw [selectRetention, if_neg hnot, hcutoff]

theorem prune_eq {db : Database} {policy : RetentionPolicy} {now : Int} {ids : List String}
    (hselect : db.selectRetention policy now = .ok ids) (stamps : String → Stamp) :
    db.prune policy now stamps none =
      .ok (if policy.dryRun then db else db.pruneRows stamps ids, ⟨ids, !policy.dryRun⟩) := by
  simp only [prune, hselect, commitRetention]
  cases policy.dryRun with
  | true => rfl
  | false =>
    cases ids with
    | nil => rfl
    | cons id ids => rfl

/-- A prune that selects nothing opens no transaction. -/
theorem prune_nil {db : Database} {policy : RetentionPolicy} {now : Int}
    (hselect : db.selectRetention policy now = .ok []) (stamps : String → Stamp) (fault : Fault) :
    db.prune policy now stamps fault = .ok (db, ⟨[], !policy.dryRun⟩) := by
  simp only [prune, hselect, List.isEmpty_nil, Bool.not_true, Bool.and_false, Bool.false_eq_true,
    if_false]

/-- What the ids selected leave of the scans keeps the newest scans of every target. -/
theorem kept_newest {db : Database} {policy : RetentionPolicy} {cutoff : Option Timestamp}
    {keep : Nat} (hkeep : policy.keepLast = some keep) {row : ScanRow} (hrow : row ∈ db.scans)
    (hnewest : newerScans db.scans row < keep) :
    row ∈ db.scans.filter fun row => row.scanId ∉
      retentionCandidates db.scans cutoff policy.keepLast policy.preserveHigh := by
  refine List.mem_filter.mpr ⟨hrow, decide_eq_true fun hselected => ?_⟩
  obtain ⟨other, hother, hid, hexpired⟩ := (mem_retentionCandidates db.scans_nodup).mp hselected
  have hsame : other = row := List.inj_on_of_nodup_map db.scans_nodup hother hrow hid
  subst hsame
  exact absurd (hexpired.behind keep hkeep) (Nat.not_le.mpr hnewest)

/-- A prune selects the scans that the policy gives up and no others; it keeps the newest scans of
every target; a dry run changes nothing; and a second run with the same policy at the same time
selects nothing. -/
theorem retention_exact (db : Database) {policy : RetentionPolicy} {now : Int}
    {cutoff : Option Timestamp} (hpolicy : policy.keepLast ≠ none ∨ policy.olderThan ≠ none)
    (hcutoff : retentionCutoff policy now = .ok cutoff) (stamps : String → Stamp) :
    ∃ db' ids, db.prune policy now stamps none = .ok (db', ⟨ids, !policy.dryRun⟩) ∧
      ids.Nodup ∧
      (∀ id, id ∈ ids ↔
        ∃ row ∈ db.scans, row.scanId = id ∧ Expired db.scans policy cutoff row) ∧
      (∀ keep, policy.keepLast = some keep →
        (∀ row ∈ db.scans, newerScans db.scans row < keep → row ∈ db'.scans) ∧
          ∀ target, min keep (targetScans db.scans target).length ≤
            (targetScans db'.scans target).length) ∧
      (policy.dryRun = true → db' = db) ∧
      (policy.dryRun = false →
        db'.scans = db.scans.filter (fun row => row.scanId ∉ ids) ∧
          ∀ stamps' fault, db'.prune policy now stamps' fault = .ok (db', ⟨[], true⟩)) := by
  have hselect := selectRetention_eq hpolicy hcutoff db
  refine ⟨_, _, prune_eq hselect stamps, selectRetention_nodup hselect,
    fun id => mem_retentionCandidates db.scans_nodup, ?_, fun hdry => if_pos hdry, ?_⟩
  · intro keep hkeep
    have hkept : ∀ row ∈ db.scans, newerScans db.scans row < keep →
        row ∈ (if policy.dryRun then db else db.pruneRows stamps
          (retentionCandidates db.scans cutoff policy.keepLast policy.preserveHigh)).scans := by
      intro row hrow hnewest
      cases policy.dryRun with
      | true => exact hrow
      | false =>
        rw [if_neg Bool.false_ne_true, pruneRows_scans]
        exact kept_newest hkeep hrow hnewest
    refine ⟨hkept, fun target => (length_newest db.scans_nodup target keep).trans ?_⟩
    have hdistinct : (targetScans db.scans target).Nodup :=
      (targetScans_nodup db.scans_nodup target).of_map
    refine (List.subperm_of_subset (hdistinct.filter _) fun row hrow => ?_).length_le
    obtain ⟨hmem, hnewest⟩ := List.mem_filter.mp hrow
    obtain ⟨hrow, htarget⟩ := List.mem_filter.mp hmem
    exact List.mem_filter.mpr ⟨hkept row hrow (of_decide_eq_true hnewest), htarget⟩
  · intro hreal
    rw [hreal, if_neg Bool.false_ne_true]
    refine ⟨pruneRows_scans stamps _ db, fun stamps' fault => ?_⟩
    have hnone : retentionCandidates (db.pruneRows stamps
        (retentionCandidates db.scans cutoff policy.keepLast policy.preserveHigh)).scans cutoff
          policy.keepLast policy.preserveHigh = [] := by
      refine List.eq_nil_iff_forall_not_mem.mpr fun id hid => ?_
      obtain ⟨row, hrow, rfl, hexpired⟩ := (mem_retentionCandidates (scans_nodup _)).mp hid
      rw [pruneRows_scans] at hrow hexpired
      -- fewer scans are newer than it now, so it was selected the first time
      obtain ⟨hrow, hout⟩ := List.mem_filter.mp hrow
      refine of_decide_eq_true hout ((mem_retentionCandidates db.scans_nodup).mpr
        ⟨row, hrow, rfl, hexpired.of_sublist List.filter_sublist⟩)
    have hagain := selectRetention_eq hpolicy hcutoff (db.pruneRows stamps
      (retentionCandidates db.scans cutoff policy.keepLast policy.preserveHigh))
    rw [hnone] at hagain
    rw [prune_nil hagain, hreal]
    rfl

end Database

/-! ## Scans of two targets -/

def scanOfOther (digit : String) (start : Int) (severities : List Severity) : ScanReport :=
  { scanOf digit start severities with
    target := { fixtureTarget with original := "example.org", hostname := some "example.org" } }

/-- Of the first target two scans started at the same time, and the oldest one has a severe finding;
of the second one the newest three are not old yet. -/
def twoTargets : Database :=
  [scanOf "0" 1000000000000 [.low], scanOf "1" 1000000000000 [.info, .medium],
    scanOf "2" 4500000000000 [], scanOf "3" 500000000000 [.high],
    scanOfOther "4" 1000000000000 [.medium], scanOfOther "5" 4200000000000 [.critical],
    scanOfOther "6" 4300000000000 [], scanOfOther "7" 4100000000000 []].foldl
    (fun db report => (db.persistReport fixtureCodec report "cli" 5000 none).toOption.getD db)
    .empty

/-- The newest two scans of each target stay, the ones of the last thousand seconds, and those with
a severe finding. -/
def cautiousPolicy : RetentionPolicy := ⟨some 2, some 1000000000000, true, false⟩

theorem retention_exact_twoTargets :
    ∃ db, twoTargets.prune cautiousPolicy 5000000000000 (fun id => ⟨"event " ++ id, 5000⟩) none =
        .ok (db, ⟨[idOf "0", idOf "4"], true⟩) ∧
      db.scanIds = ["1", "2", "3", "5", "6", "7"].map idOf ∧
      ∀ stamps fault,
        db.prune cautiousPolicy 5000000000000 stamps fault = .ok (db, ⟨[], true⟩) := by
  obtain ⟨db, ids, hprune, -, -, -, -, hreal⟩ := @Database.retention_exact twoTargets
    cautiousPolicy 5000000000000 (some 4000) (.inl nofun) rfl fun id => ⟨"event " ++ id, 5000⟩
  obtain ⟨hscans, hagain⟩ := hreal rfl
  have hselect : twoTargets.selectRetention cautiousPolicy 5000000000000 =
      .ok [idOf "0", idOf "4"] := by decide +kernel
  have hpruned := Database.prune_eq hselect fun id => ⟨"event " ++ id, 5000⟩
  obtain rfl : ids = [idOf "0", idOf "4"] :=
    congrArg (fun result => result.2.scanIds) (Except.ok.inj (hprune.symm.trans hpruned))
  refine ⟨db, hprune, ?_, hagain⟩
  rw [Database.scanIds, hscans]
  decide +kernel

end Surface

import Surface.Patch
import Surface.Report.DiffSymmetry

/-!
# Surface.Report.DiffPatch

The changes of one comparison are an exact patch: they lead from the old side to the new one, and
list nothing else. The counts of a diff agree with what its sections list.

* `Change.applyToMap`, `Change.applyToSet`: what a change does to the old side.
* `mapPatch_compareMaps`, `setPatch_compareSets`: the two comparisons.
* `summary_compareReports`: the counts, over all sections together.
-/

namespace Surface

open Json

/-! ## Applying changes -/

namespace Change

def added (c : Change) : Bool := c.oldValue.isNone && c.newValue.isSome

def removed (c : Change) : Bool := c.oldValue.isSome && c.newValue.isNone

def changed (c : Change) : Bool := c.oldValue.isSome && c.newValue.isSome

/-- Insert on added, delete on removed, replace on changed. -/
def applyToMap (m : OrdMap String Json) (c : Change) : OrdMap String Json :=
  match c.oldValue, c.newValue with
  | none, some value => m.insert c.key value
  | some _, none => m.erase c.key
  | some _, some value => m.adjust c.key fun _ => value
  | none, none => m

def applyToSet (s : OrdSet String) (c : Change) : OrdSet String :=
  match c.oldValue, c.newValue with
  | none, some _ => s.insert c.key
  | some _, none => s.erase c.key
  | _, _ => s

/-- The key of a change with both of its values. -/
def edit (c : Change) : String × Option Json × Option Json := (c.key, c.oldValue, c.newValue)

theorem applyToMap_eq_edit (m : OrdMap String Json) (c : Change) :
    c.applyToMap m = m.edit c.key c.oldValue c.newValue := by
  unfold applyToMap OrdMap.edit
  cases c.oldValue <;> cases c.newValue <;> rfl

theorem foldl_applyToMap (changes : List Change) (m : OrdMap String Json) :
    changes.foldl (fun m c => c.applyToMap m) m = m.patch (changes.map edit) := by
  unfold OrdMap.patch
  rw [List.foldl_map]
  simp only [applyToMap_eq_edit, edit]

end Change

/-- The changes lead from the old map to the new one; their keys ascend, so that none occurs twice,
and each of them has two values that differ. -/
structure MapPatch (old new : OrdMap String Json) (changes : List Change) : Prop where
  applied : changes.foldl (fun m c => c.applyToMap m) old = new
  ascending : (changes.map Change.key).Pairwise (· < ·)
  values : ∀ c ∈ changes, c.oldValue = old.get c.key ∧ c.newValue = new.get c.key
  differ : ∀ c ∈ changes, old.get c.key ≠ new.get c.key

/-- The changes lead from the old set to the new one: first the removed elements ascending, then
the added ones ascending, each element of the symmetric difference once and no other. -/
structure SetPatch (old new : OrdSet String) (changes : List Change) : Prop where
  applied : changes.foldl (fun s c => c.applyToSet s) old = new
  listed : ∃ removed added, changes = removed ++ added ∧
    (∀ c ∈ removed, c.oldValue = some (.string c.key) ∧ c.newValue = none) ∧
    (∀ c ∈ added, c.oldValue = none ∧ c.newValue = some (.string c.key)) ∧
    (removed.map Change.key).Pairwise (· < ·) ∧ (added.map Change.key).Pairwise (· < ·)
  once : ∀ key, (changes.map Change.key).count key = if key ∈ old ↔ key ∈ new then 0 else 1

/-! ## The two comparisons -/

section Comparisons

variable (category target significance : String)

theorem compareMaps_map_edit (old new : OrdMap String Json) :
    (compareMaps category old new target significance).map Change.edit =
      OrdMap.differences old new := by
  rw [compareMaps_eq, List.map_map]
  exact List.map_id _

theorem mapPatch_compareMaps (old new : OrdMap String Json) :
    MapPatch old new (compareMaps category old new target significance) := by
  have hedits := compareMaps_map_edit category target significance old new
  have hmem : ∀ c ∈ compareMaps category old new target significance,
      old.get c.key ≠ new.get c.key ∧ (c.oldValue, c.newValue) = (old.get c.key, new.get c.key) := by
    intro c hc
    have hlisted : c.edit ∈ OrdMap.differences old new := hedits ▸ List.mem_map_of_mem hc
    exact OrdMap.mem_differences.mp hlisted
  refine ⟨?_, ?_, fun c hc => ?_, fun c hc => (hmem c hc).1⟩
  · rw [Change.foldl_applyToMap, hedits]
    exact OrdMap.patch_differences old new
  · have hkeys : (compareMaps category old new target significance).map Change.key =
        (OrdMap.differences old new).map Prod.fst := by
      rw [← hedits, List.map_map]
      rfl
    rw [hkeys]
    exact OrdMap.differences_ascending old new
  · have hvalues := (hmem c hc).2
    simp only [Prod.mk.injEq] at hvalues
    exact hvalues

theorem setPatch_compareSets (old new : OrdSet String) :
    SetPatch old new (compareSets category old new target significance) := by
  have hremoved := map_key_removal category target significance (old.minus new)
  have hadded := map_key_addition category target significance (new.minus old)
  rw [compareSets_eq]
  refine ⟨?_, ⟨_, _, rfl, ?_, ?_, ?_, ?_⟩, ?_⟩
  · rw [List.foldl_append, List.foldl_map, List.foldl_map]
    exact OrdSet.patch_minus old new
  · intro c hc
    obtain ⟨key, _, rfl⟩ := List.mem_map.mp hc
    exact ⟨rfl, rfl⟩
  · intro c hc
    obtain ⟨key, _, rfl⟩ := List.mem_map.mp hc
    exact ⟨rfl, rfl⟩
  · rw [hremoved]
    exact old.minus_ascending new
  · rw [hadded]
    exact new.minus_ascending old
  · intro key
    rw [List.map_append, hremoved, hadded]
    exact OrdSet.count_minus old new key

end Comparisons

/-! ## Counts -/

/-- The change has a value on one side at least. -/
def Change.Shown (c : Change) : Prop := c.oldValue ≠ none ∨ c.newValue ≠ none

theorem Change.shown_of_ne {c : Change} (h : c.oldValue ≠ c.newValue) : c.Shown := by
  unfold Change.Shown
  by_contra hnone
  simp only [not_or, not_not] at hnone
  exact h (hnone.1.trans hnone.2.symm)

theorem shown_compareMaps {category target significance : String} {old new : OrdMap String Json}
    {c : Change} (hc : c ∈ compareMaps category old new target significance) : c.Shown := by
  have hpatch := mapPatch_compareMaps category target significance old new
  obtain ⟨hold, hnew⟩ := hpatch.values c hc
  have hdiffer := hpatch.differ c hc
  rw [← hold, ← hnew] at hdiffer
  exact Change.shown_of_ne hdiffer

theorem shown_compareSets {category target significance : String} {old new : OrdSet String}
    {c : Change} (hc : c ∈ compareSets category old new target significance) : c.Shown := by
  rw [compareSets_eq] at hc
  rcases List.mem_append.mp hc with hc | hc
  · obtain ⟨key, _, rfl⟩ := List.mem_map.mp hc
    exact .inl (by simp [removal, change])
  · obtain ⟨key, _, rfl⟩ := List.mem_map.mp hc
    exact .inr (by simp [addition, change])

theorem shown_compareValues {category target significance : String} {old new : Option Json}
    {c : Change} (hc : c ∈ compareValues category old new target significance) : c.Shown := by
  unfold compareValues at hc
  split at hc
  · rename_i hne
    obtain rfl := List.mem_singleton.mp hc
    exact Change.shown_of_ne hne
  · cases hc

theorem shown_scoreChange {old new : ScanReport} {target : String} {c : Change}
    (hc : (scoreChange old new target).1 = some c) : c.Shown := by
  unfold scoreChange at hc
  cases hold : old.exposureScore with
  | none =>
    cases hnew : new.exposureScore with
    | none => simp [hold, hnew] at hc
    | some newScore =>
      simp only [hold, hnew, Option.some.injEq] at hc
      subst hc
      exact .inr (by simp [change])
  | some oldScore =>
    cases hnew : new.exposureScore with
    | none =>
      simp only [hold, hnew, Option.some.injEq] at hc
      subst hc
      exact .inl (by simp [change])
    | some newScore =>
      simp only [hold, hnew] at hc
      split at hc
      · split at hc
        · cases hc
          exact .inl (by simp [change])
        · cases hc
      · cases hc

/-- The entries of all sections together. -/
def ScanDiff.entries (d : ScanDiff) : List Change :=
  d.networkChanges ++ d.serviceChanges ++ d.certificateChanges ++ d.dnsChanges ++
    d.findingChanges ++ d.completenessChanges ++ d.scoreChange.toList

theorem shown_entries {old new : ScanReport} {target newTarget : String} {c : Change}
    (hc : c ∈ (compareReports old new target newTarget).entries) : c.Shown := by
  simp only [ScanDiff.entries, compareReports, List.mem_append] at hc
  obtain (((((hc | hc) | hc) | hc) | hc) | hc) | hc := hc
  · rcases List.mem_append.mp (mem_sortBy.mp hc) with hc | hc
    · exact shown_compareSets hc
    · exact shown_compareMaps hc
  · rcases List.mem_append.mp (mem_sortBy.mp hc) with hc | hc
    · exact shown_compareMaps hc
    · exact shown_compareMaps hc
  · exact shown_compareMaps hc
  · have hmem := mem_sortBy.mp hc
    rw [List.mem_append, List.mem_append] at hmem
    obtain (hc | hc) | hc := hmem
    · exact shown_compareSets hc
    · exact shown_compareValues hc
    · exact shown_compareValues hc
  · exact shown_compareMaps hc
  · exact shown_compareValues hc
  · exact shown_scoreChange (Option.mem_toList.mp hc)

/-- How many of the changes are added, removed and changed ones. -/
def tally (changes : List Change) : DiffSummary :=
  ⟨changes.countP Change.added, changes.countP Change.removed, changes.countP Change.changed⟩

theorem count_shown {c : Change} (h : c.Shown) (summary : DiffSummary) :
    summary.count c = ⟨summary.added + if c.added then 1 else 0,
      summary.removed + if c.removed then 1 else 0,
      summary.changed + if c.changed then 1 else 0⟩ := by
  unfold DiffSummary.count Change.added Change.removed Change.changed
  unfold Change.Shown at h
  cases hold : c.oldValue with
  | none =>
    cases hnew : c.newValue with
    | none => simp [hold, hnew] at h
    | some value => simp
  | some value =>
    cases hnew : c.newValue with
    | none => simp
    | some value' => simp

theorem foldl_count {changes : List Change} (h : ∀ c ∈ changes, c.Shown) :
    ∀ summary : DiffSummary, changes.foldl DiffSummary.count summary =
      ⟨summary.added + (tally changes).added, summary.removed + (tally changes).removed,
        summary.changed + (tally changes).changed⟩ := by
  induction changes with
  | nil =>
    intro summary
    rfl
  | cons c changes ih =>
    intro summary
    have hshown : c.Shown := h c List.mem_cons_self
    rw [List.foldl_cons, ih (fun d hd => h d (List.mem_cons_of_mem c hd)), count_shown hshown]
    simp only [tally, List.countP_cons, DiffSummary.mk.injEq]
    omega

theorem summary_compareReports (old new : ScanReport) (target newTarget : String) :
    (compareReports old new target newTarget).summary =
      tally (compareReports old new target newTarget).entries := by
  have hshown : ∀ c ∈ (compareReports old new target newTarget).entries, c.Shown :=
    fun c hc => shown_entries hc
  have hcounted : (compareReports old new target newTarget).summary =
      summarize (compareReports old new target newTarget).entries := by
    simp only [compareReports, ScanDiff.entries]
  rw [hcounted, summarize, foldl_count hshown]
  simp only [Nat.zero_add]

/-- Every comparison is an exact patch, and the counts of every diff are those of its entries. -/
theorem diff_exact_patch :
    (∀ category target significance (old new : OrdMap String Json),
      MapPatch old new (compareMaps category old new target significance)) ∧
    (∀ category target significance (old new : OrdSet String),
      SetPatch old new (compareSets category old new target significance)) ∧
    ∀ old new d, diffReports old new = .ok d →
      d.summary.added = d.entries.countP Change.added ∧
      d.summary.removed = d.entries.countP Change.removed ∧
      d.summary.changed = d.entries.countP Change.changed ∧
      ∀ c ∈ d.entries, c.added ∨ c.removed ∨ c.changed := by
  refine ⟨mapPatch_compareMaps, setPatch_compareSets, ?_⟩
  intro old new d hd
  obtain ⟨_, _, rfl⟩ := diffReports_ok_iff.mp hd
  have hsummary := summary_compareReports old new old.target.identity old.target.identity
  simp only [hsummary, tally, true_and]
  intro c hc
  have hshown := shown_entries hc
  unfold Change.Shown at hshown
  cases hold : c.oldValue <;> cases hnew : c.newValue <;>
    simp_all [Change.added, Change.removed, Change.changed]

def fixtureHostReport : ScanReport :=
  { fixtureReport with hosts := [⟨.v4 (BitVec.ofNat 32 1), []⟩] }

theorem diff_exact_patch_host :
    ∃ d, diffReports fixtureReport fixtureHostReport = .ok d ∧
      d.summary.added = d.entries.countP Change.added := by
  have hversion : fixtureReport.schemaVersion ∈ supportedSchemaVersions := by decide
  obtain ⟨family, hfamily⟩ := schemaFamily_supported hversion
  have hok : diffReports fixtureReport fixtureHostReport = .ok _ :=
    diffReports_ok_iff.mpr ⟨rfl, ⟨family, hfamily, hfamily⟩, rfl⟩
  exact ⟨_, hok, (diff_exact_patch.2.2 fixtureReport fixtureHostReport _ hok).1⟩

end Surface

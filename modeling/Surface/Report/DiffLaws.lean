import Surface.Patch
import Surface.Report.Diff

/-!
# Surface.Report.DiffLaws

Laws of the comparisons, each for any two maps, sets or values.

* `compareMaps_eq`, `compareSets_eq`: the changes are the differences of the two sides.
* `compareMaps_swap`, `compareSets_swap`, `compareValues_swap`: exchanging the sides exchanges the
  values of every change.
* `compareMaps_eq_nil_iff`, `compareValues_eq_nil_iff`: nothing is listed only for equal sides.
* `Keyed`: the changes of one comparison share their category and differ in their keys, so that
  `sortChanges_swap` can forget the order in which they were listed.
-/

namespace Surface

/-- The same change, seen from the other side. -/
def Change.swap (c : Change) : Change :=
  { c with oldValue := c.newValue, newValue := c.oldValue }

@[simp] theorem Change.swap_sortKey (c : Change) : c.swap.sortKey = c.sortKey := rfl

section Comparisons

variable (category target significance : String)

/-- The changes of two maps are their differences. -/
theorem compareMaps_eq (old new : OrdMap String Json) :
    compareMaps category old new target significance =
      (OrdMap.differences old new).map fun e => change category e.1 e.2.1 e.2.2 target significance := by
  unfold compareMaps OrdMap.differences
  rw [List.map_filterMap]
  refine List.filterMap_congr (fun key _ => ?_)
  unfold OrdMap.difference
  by_cases h : old.get key = new.get key
  · simp [h]
  · simp [h]

theorem compareMaps_swap (old new : OrdMap String Json) :
    compareMaps category new old target significance =
      (compareMaps category old new target significance).map Change.swap := by
  rw [compareMaps_eq, compareMaps_eq, OrdMap.differences_swap, List.map_map, List.map_map]
  rfl

theorem compareMaps_eq_nil_iff (old new : OrdMap String Json) :
    compareMaps category old new target significance = [] ↔ old = new := by
  rw [compareMaps_eq, List.map_eq_nil_iff, OrdMap.differences_eq_nil_iff]

def removal (key : String) : Change :=
  change category key (some (.string key)) none target significance

def addition (key : String) : Change :=
  change category key none (some (.string key)) target significance

theorem compareSets_eq (old new : OrdSet String) :
    compareSets category old new target significance =
      (old.minus new).map (removal category target significance) ++
        (new.minus old).map (addition category target significance) := rfl

theorem map_key_removal (keys : List String) :
    (keys.map (removal category target significance)).map Change.key = keys := by
  rw [List.map_map]
  exact List.map_id keys

theorem map_key_addition (keys : List String) :
    (keys.map (addition category target significance)).map Change.key = keys := by
  rw [List.map_map]
  exact List.map_id keys

theorem compareSets_swap (old new : OrdSet String) :
    (compareSets category new old target significance).Perm
      ((compareSets category old new target significance).map Change.swap) := by
  rw [compareSets_eq, compareSets_eq, List.map_append, List.map_map, List.map_map]
  exact List.perm_append_comm

theorem compareSets_self (s : OrdSet String) :
    compareSets category s s target significance = [] := by
  have hnone : (s.toList.filter fun key => key ∉ s) = [] := by
    rw [List.filter_eq_nil_iff]
    intro key hkey
    have hmem : key ∈ s := hkey
    simpa using hmem
  unfold compareSets
  rw [hnone]
  rfl

theorem compareValues_swap (old new : Option Json) :
    compareValues category new old target significance =
      (compareValues category old new target significance).map Change.swap := by
  unfold compareValues
  by_cases h : old = new
  · simp [h]
  · rw [if_pos (Ne.symm h), if_pos h]
    rfl

theorem compareValues_eq_nil_iff (old new : Option Json) :
    compareValues category old new target significance = [] ↔ old = new := by
  unfold compareValues
  by_cases h : old = new <;> simp [h]

end Comparisons

/-! ## Order of the changes -/

/-- The changes of one comparison. -/
structure Keyed (category : String) (changes : List Change) : Prop where
  category : ∀ c ∈ changes, c.category = category
  nodup : (changes.map Change.key).Nodup

section Keyed

variable (category target significance : String)

theorem keyed_compareMaps (old new : OrdMap String Json) :
    Keyed category (compareMaps category old new target significance) := by
  rw [compareMaps_eq]
  constructor
  · intro c hc
    obtain ⟨e, _, rfl⟩ := List.mem_map.mp hc
    rfl
  · rw [List.map_map]
    exact (OrdMap.differences_ascending old new).imp ne_of_lt

theorem keyed_compareSets (old new : OrdSet String) :
    Keyed category (compareSets category old new target significance) := by
  rw [compareSets_eq]
  constructor
  · intro c hc
    rcases List.mem_append.mp hc with hc | hc
    · obtain ⟨key, _, rfl⟩ := List.mem_map.mp hc
      rfl
    · obtain ⟨key, _, rfl⟩ := List.mem_map.mp hc
      rfl
  · rw [List.map_append, map_key_removal, map_key_addition, List.nodup_iff_count_le_one]
    intro key
    rw [OrdSet.count_minus]
    split <;> omega

theorem keyed_compareValues (old new : Option Json) :
    Keyed category (compareValues category old new target significance) := by
  unfold compareValues
  split
  · exact ⟨by simp [change], by simp⟩
  · exact ⟨by simp, by simp⟩

end Keyed

/-- No two changes share category and key. -/
def Distinct (changes : List Change) : Prop := (changes.map Change.sortKey).Nodup

theorem Keyed.distinct {category : String} {changes : List Change} (h : Keyed category changes) :
    Distinct changes := by
  have hmap : changes.map Change.sortKey =
      (changes.map Change.key).map fun key => toLex (category, key) := by
    rw [List.map_map]
    refine List.map_congr_left (fun c hc => ?_)
    simp [Change.sortKey, h.category c hc]
  unfold Distinct
  rw [hmap]
  refine h.nodup.map (fun key key' hkey => ?_)
  simpa using hkey

/-- Changes of different categories stay distinct together. -/
theorem Distinct.append {category : String} {changes more : List Change}
    (h : Distinct changes) (categories : List String) (hc : ∀ c ∈ changes, c.category ∈ categories)
    (hm : Keyed category more) (hnew : category ∉ categories) : Distinct (changes ++ more) := by
  unfold Distinct
  rw [List.map_append]
  refine List.Nodup.append h hm.distinct ?_
  intro key hleft hright
  obtain ⟨c, hmem, rfl⟩ := List.mem_map.mp hleft
  obtain ⟨d, hmem', hkey⟩ := List.mem_map.mp hright
  have hcat : d.category = c.category := congrArg (fun k => (ofLex k).1) hkey
  rw [hm.category d hmem'] at hcat
  exact hnew (hcat ▸ hc c hmem)

/-- Once sorted, distinct changes do not depend on the order in which they were listed. -/
theorem sortChanges_swap {changes changes' : List Change} (h : Distinct changes)
    (hperm : changes'.Perm (changes.map Change.swap)) :
    sortChanges changes' = (sortChanges changes).map Change.swap := by
  have hkeys : (changes.map Change.swap).map Change.sortKey = changes.map Change.sortKey := by
    rw [List.map_map]
    rfl
  have hnodup : (changes'.map Change.sortKey).Nodup := by
    rw [(hperm.map Change.sortKey).nodup_iff, hkeys]
    exact h
  unfold sortChanges
  rw [sortBy_eq_of_perm hperm hnodup]
  exact sortBy_map Change.swap_sortKey changes

theorem sortChanges_eq_nil {changes : List Change} : sortChanges changes = [] ↔ changes = [] :=
  sortBy_eq_nil

end Surface

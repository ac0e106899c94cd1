import Surface.Ordered

/-!
# Surface.Patch

Differences of ordered maps and ordered sets, and their application.

* `OrdMap.differences`: the keys at which two maps differ, each with both of its values.
* `OrdMap.patch_differences`: edited one after the other, the differences lead from the first map
  to the second.
* `OrdSet.patch_minus`: a set loses what only it has, and gains what only the other has.
-/

namespace Surface

universe u v

namespace OrdMap

variable {κ : Type u} {ν : Type v} [LinearOrder κ]

/-! ## Maps -/

theorem get_erase (m : OrdMap κ ν) (k j : κ) :
    (m.erase k).get j = if j = k then none else m.get j :=
  lookup_filter

theorem get_adjust (m : OrdMap κ ν) (k j : κ) (f : ν → ν) :
    (m.adjust k f).get j = if j = k then (m.get j).map f else m.get j :=
  lookup_editEntry

/-- Edit one entry, told its old and its new value: a new entry is inserted, a lost one erased, a
changed one replaced. -/
def edit (m : OrdMap κ ν) (k : κ) (old new : Option ν) : OrdMap κ ν :=
  match old, new with
  | none, some x => m.insert k x
  | some _, none => m.erase k
  | some _, some x => m.adjust k fun _ => x
  | none, none => m

/-- An edit whose old value is right leaves the new value. -/
theorem get_edit {m : OrdMap κ ν} {k : κ} {old : Option ν} (h : m.get k = old) (new : Option ν)
    (j : κ) : (m.edit k old new).get j = if j = k then new else m.get j := by
  cases old with
  | none =>
    cases new with
    | none =>
      by_cases hj : j = k
      · simp [edit, hj, h]
      · simp [edit, hj]
    | some x => exact get_insert m k j x
  | some y =>
    cases new with
    | none => exact get_erase m k j
    | some x =>
      simp only [edit, get_adjust]
      by_cases hj : j = k
      · simp [hj, h]
      · simp [hj]

/-- Apply edits from the first one on. -/
def patch (m : OrdMap κ ν) (edits : List (κ × Option ν × Option ν)) : OrdMap κ ν :=
  edits.foldl (fun m e => m.edit e.1 e.2.1 e.2.2) m

/-- A key of neither map has the same value in both. -/
theorem mem_ofList_keys {old new : OrdMap κ ν} {k : κ} (h : old.get k ≠ new.get k) :
    k ∈ OrdSet.ofList (old.keys ++ new.keys) := by
  rw [OrdSet.mem_ofList, List.mem_append, mem_keys, mem_keys]
  by_contra hnone
  rw [not_or, Option.not_isSome_iff_eq_none, Option.not_isSome_iff_eq_none] at hnone
  exact h (hnone.1.trans hnone.2.symm)

variable [DecidableEq ν]

/-- Both values of a key, where they differ. -/
def difference (old new : OrdMap κ ν) (k : κ) : Option (κ × Option ν × Option ν) :=
  if old.get k ≠ new.get k then some (k, old.get k, new.get k) else none

/-- The keys of either map at which the maps differ, ascending. -/
def differences (old new : OrdMap κ ν) : List (κ × Option ν × Option ν) :=
  (OrdSet.ofList (old.keys ++ new.keys)).toList.filterMap (difference old new)

theorem difference_eq_some {old new : OrdMap κ ν} {k : κ} {e : κ × Option ν × Option ν} :
    difference old new k = some e ↔ old.get k ≠ new.get k ∧ e = (k, old.get k, new.get k) := by
  unfold difference
  by_cases h : old.get k = new.get k
  · simp [h]
  · simp [h, eq_comm]

theorem differences_map_fst (old new : OrdMap κ ν) :
    (differences old new).map Prod.fst =
      (OrdSet.ofList (old.keys ++ new.keys)).toList.filter fun k => old.get k ≠ new.get k := by
  unfold differences
  rw [List.map_filterMap, ← List.filterMap_eq_filter]
  refine List.filterMap_congr (fun k _ => ?_)
  by_cases h : old.get k = new.get k
  · simp [difference, h, Option.guard]
  · simp [difference, h, Option.guard]

theorem differences_ascending (old new : OrdMap κ ν) :
    ((differences old new).map Prod.fst).Pairwise (· < ·) := by
  rw [differences_map_fst]
  exact (OrdSet.sorted _).filter _

/-- A difference is listed for exactly the keys at which the maps differ. -/
theorem mem_differences {old new : OrdMap κ ν} {e : κ × Option ν × Option ν} :
    e ∈ differences old new ↔
      old.get e.1 ≠ new.get e.1 ∧ e.2 = (old.get e.1, new.get e.1) := by
  unfold differences
  simp only [List.mem_filterMap, difference_eq_some]
  constructor
  · rintro ⟨k, _, hne, rfl⟩
    exact ⟨hne, rfl⟩
  · rintro ⟨hne, he⟩
    exact ⟨e.1, mem_ofList_keys hne, hne, Prod.ext rfl he⟩

/-- The differences of distinct keys, applied to a map that still has the old values there. -/
theorem get_patch_filterMap {old new : OrdMap κ ν} {ks : List κ} (hn : ks.Nodup) :
    ∀ m : OrdMap κ ν, (∀ k ∈ ks, m.get k = old.get k) → ∀ j,
      (m.patch (ks.filterMap (difference old new))).get j = if j ∈ ks then new.get j else m.get j := by
  induction ks with
  | nil =>
    intro m _ j
    simp [patch]
  | cons k ks ih =>
    intro m hm j
    obtain ⟨hk, hn⟩ := List.nodup_cons.mp hn
    have hhead : m.get k = old.get k := hm k List.mem_cons_self
    by_cases h : old.get k = new.get k
    · have hskip : difference old new k = none := if_neg (not_not.mpr h)
      rw [List.filterMap_cons_none hskip, ih hn m (fun i hi => hm i (List.mem_cons_of_mem k hi)) j]
      by_cases hj : j = k
      · subst hj
        simp [hk, hhead, h]
      · simp [hj]
    · have hstep : difference old new k = some (k, old.get k, new.get k) := if_pos h
      -- the edit of `k` leaves the other keys to the induction hypothesis
      have hrest : ∀ i ∈ ks, (m.edit k (old.get k) (new.get k)).get i = old.get i := by
        intro i hi
        have hik : i ≠ k := fun heq => hk (heq ▸ hi)
        rw [get_edit hhead, if_neg hik]
        exact hm i (List.mem_cons_of_mem k hi)
      have hrun := ih hn (m.edit k (old.get k) (new.get k)) hrest j
      rw [List.filterMap_cons_some hstep]
      simp only [patch, List.foldl_cons] at hrun ⊢
      rw [hrun, get_edit hhead]
      by_cases hj : j = k
      · subst hj
        simp [hk]
      · simp [hj]

/-- The differences lead from the first map to the second. -/
theorem patch_differences (old new : OrdMap κ ν) : old.patch (differences old new) = new := by
  refine ext_get (fun j => ?_)
  unfold differences
  rw [get_patch_filterMap (OrdSet.nodup _) old (fun _ _ => rfl) j]
  by_cases h : old.get j = new.get j
  · simp [h]
  · rw [if_pos (OrdSet.mem_def.mp (mem_ofList_keys h))]

theorem differences_eq_nil_iff {old new : OrdMap κ ν} : differences old new = [] ↔ old = new := by
  constructor
  · intro h
    have hpatch := patch_differences old new
    rw [h] at hpatch
    exact hpatch
  · rintro rfl
    refine List.eq_nil_iff_forall_not_mem.mpr (fun e he => ?_)
    exact (mem_differences.mp he).1 rfl

/-- Seen from the other side, the differences are the same with their values exchanged. -/
theorem differences_swap (old new : OrdMap κ ν) :
    differences new old = (differences old new).map fun e => (e.1, e.2.2, e.2.1) := by
  have hkeys : OrdSet.ofList (new.keys ++ old.keys) = OrdSet.ofList (old.keys ++ new.keys) :=
    OrdSet.ofList_congr (fun k => by simp [or_comm])
  unfold differences
  rw [hkeys, List.map_filterMap]
  refine List.filterMap_congr (fun k _ => ?_)
  unfold difference
  by_cases h : old.get k = new.get k
  · simp [h]
  · rw [if_pos (Ne.symm h), if_pos h]
    rfl

end OrdMap

/-! ## Sets -/

namespace OrdSet

variable {α : Type u} [LinearOrder α]

def erase (s : OrdSet α) (a : α) : OrdSet α :=
  ⟨s.toList.filter fun x => x ≠ a, s.sorted.filter _⟩

/-- The elements of one set that another one lacks, ascending. -/
def minus (s t : OrdSet α) : List α := s.toList.filter fun x => x ∉ t

@[simp] theorem mem_erase {a x : α} {s : OrdSet α} : x ∈ s.erase a ↔ x ≠ a ∧ x ∈ s := by
  simp only [mem_def, erase, List.mem_filter, decide_eq_true_eq]
  exact and_comm

@[simp] theorem mem_minus {a : α} {s t : OrdSet α} : a ∈ s.minus t ↔ a ∈ s ∧ a ∉ t := by
  simp [minus, mem_def]

theorem minus_ascending (s t : OrdSet α) : (s.minus t).Pairwise (· < ·) := s.sorted.filter _

theorem minus_nodup (s t : OrdSet α) : (s.minus t).Nodup := s.nodup.filter _

/-- Each element of exactly one of two sets is listed once, and no other element at all. -/
theorem count_minus (s t : OrdSet α) (a : α) :
    (s.minus t ++ t.minus s).count a = if a ∈ s ↔ a ∈ t then 0 else 1 := by
  rw [List.count_append, (s.minus_nodup t).count, (t.minus_nodup s).count]
  by_cases hs : a ∈ s <;> by_cases ht : a ∈ t <;> simp [hs, ht]

theorem mem_foldl_erase {l : List α} {a : α} :
    ∀ s : OrdSet α, a ∈ l.foldl erase s ↔ a ∈ s ∧ a ∉ l := by
  induction l with
  | nil =>
    intro s
    simp
  | cons b l ih =>
    intro s
    rw [List.foldl_cons, ih (s.erase b), mem_erase, List.mem_cons]
    tauto

/-- A set that loses what only it has and gains what only the other has becomes the other. -/
theorem patch_minus (s t : OrdSet α) :
    (t.minus s).foldl insert ((s.minus t).foldl erase s) = t := by
  refine ext_mem (fun a => ?_)
  rw [mem_foldl_insert, mem_foldl_erase, mem_minus, mem_minus]
  by_cases hs : a ∈ s <;> by_cases ht : a ∈ t <;> simp [hs, ht]

end OrdSet

end Surface

import Mathlib.Algebra.BigOperators.Group.Finset.Basic
import Surface.Ordered

/-!
# Surface.Distinct

The first occurrences of the elements of a list, and the first elements of its keys.

* `length_eraseDups`: there are as many first occurrences as elements.
* `mem_keepFirst_iff`: the elements kept are those that a search for their key finds.
* `sum_keepFirst`: a sum over the elements kept is one over the keys.
-/

namespace Surface

section Occurrences

variable {α : Type*} [DecidableEq α]

theorem nodup_eraseDups (l : List α) : l.eraseDups.Nodup := by
  induction hlength : l.length using Nat.strong_induction_on generalizing l with
  | _ length ih =>
    cases l with
    | nil => exact List.nodup_nil
    | cons a l =>
      rw [List.eraseDups_cons, List.nodup_cons, List.mem_eraseDups, List.mem_filter]
      refine ⟨by simp, ih _ ?_ _ rfl⟩
      rw [← hlength, List.length_cons]
      exact Nat.lt_succ_of_le (List.length_filter_le _ _)

theorem length_eraseDups (l : List α) : l.eraseDups.length = l.toFinset.card := by
  rw [← List.toFinset_card_of_nodup (nodup_eraseDups l)]
  congr 1
  ext a
  rw [List.mem_toFinset, List.mem_toFinset, List.mem_eraseDups]

/-- The first new element of a list, and the new ones behind it. -/
theorem eraseDups_filter_cons {kept : List α} {a : α} (h : a ∉ kept) (l : List α) :
    ((a :: l).filter (· ∉ kept)).eraseDups = a :: (l.filter (· ∉ kept ++ [a])).eraseDups := by
  rw [List.filter_cons_of_pos (by simpa using h), List.eraseDups_cons, List.filter_filter]
  congr 2
  refine List.filter_congr fun b _ => ?_
  simp [not_or, and_comm, beq_eq_decide]

end Occurrences

section Keys

variable {α κ : Type*} [LinearOrder κ]

theorem keepFirst_map {β : Type*} (key : β → κ) (f : α → β) (l : List α) :
    ∀ seen : OrdSet κ,
      keepFirst key seen (l.map f) = (keepFirst (fun a => key (f a)) seen l).map f := by
  induction l with
  | nil =>
    intro seen
    rfl
  | cons a l ih =>
    intro seen
    rw [List.map_cons]
    simp only [keepFirst]
    split
    · exact ih seen
    · rw [List.map_cons, ih]

/-- The elements kept are the first ones of keys that were not seen before. -/
theorem mem_keepFirst_seen (key : α → κ) (l : List α) (a : α) :
    ∀ seen : OrdSet κ, a ∈ keepFirst key seen l ↔
      key a ∉ seen ∧ l.find? (fun b => key b = key a) = some a := by
  induction l with
  | nil =>
    intro seen
    exact iff_of_false List.not_mem_nil fun h => nomatch h.2
  | cons b l ih =>
    intro seen
    simp only [keepFirst]
    by_cases hkey : key b = key a
    · rw [List.find?_cons_of_pos (by simpa using hkey), Option.some.injEq]
      split
      · rename_i hseen
        rw [ih]
        exact iff_of_false (fun h => h.1 (hkey ▸ hseen)) fun h => h.1 (hkey ▸ hseen)
      · rename_i hseen
        rw [List.mem_cons, ih]
        constructor
        · rintro (rfl | h)
          · exact ⟨hseen, rfl⟩
          · exact absurd (OrdSet.mem_insert.mpr (.inl hkey.symm)) h.1
        · exact fun h => .inl h.2.symm
    · have hne : a ≠ b := fun h => hkey (h ▸ rfl)
      rw [List.find?_cons_of_neg (by simpa using hkey)]
      split
      · exact ih seen
      · rw [List.mem_cons, ih, OrdSet.mem_insert, not_or, or_iff_right hne,
          and_iff_right fun h => hkey h.symm]

theorem mem_keepFirst_iff {key : α → κ} {l : List α} {a : α} :
    a ∈ keepFirst key .empty l ↔ l.find? (fun b => key b = key a) = some a := by
  rw [mem_keepFirst_seen]
  exact and_iff_right List.not_mem_nil

theorem mem_map_keepFirst {key : α → κ} {l : List α} {k : κ} :
    k ∈ (keepFirst key .empty l).map key ↔ k ∈ l.map key := by
  constructor
  · intro h
    obtain ⟨a, ha, rfl⟩ := List.mem_map.mp h
    exact List.mem_map_of_mem (of_mem_keepFirst ha).1
  · intro h
    obtain ⟨b, hb, rfl⟩ := List.mem_map.mp h
    have hfound : (l.find? fun a => key a = key b).isSome :=
      List.find?_isSome.mpr ⟨b, hb, decide_eq_true rfl⟩
    obtain ⟨a, ha⟩ := Option.isSome_iff_exists.mp hfound
    have hkey : key a = key b := by simpa using List.find?_some ha
    exact List.mem_map.mpr ⟨a, mem_keepFirst_iff.mpr (hkey ▸ ha), hkey⟩

/-- What the first element of a key weighs. -/
def firstWeight (key : α → κ) (weight : α → Nat) (l : List α) (k : κ) : Nat :=
  (l.find? fun a => key a = k).elim 0 weight

theorem firstWeight_of_mem {key : α → κ} {weight : α → Nat} {l : List α} {a : α}
    (h : a ∈ keepFirst key .empty l) : firstWeight key weight l (key a) = weight a := by
  rw [firstWeight, mem_keepFirst_iff.mp h]
  rfl

theorem firstWeight_pos_iff {key : α → κ} {weight : α → Nat} {l : List α} {k : κ} :
    0 < firstWeight key weight l k ↔
      ∃ a ∈ keepFirst key .empty l, key a = k ∧ 0 < weight a := by
  constructor
  · intro h
    rw [firstWeight] at h
    rcases hfound : l.find? (fun a => key a = k) with _ | a
    · rw [hfound] at h
      exact absurd h (Nat.lt_irrefl 0)
    · have hkey : key a = k := by simpa using List.find?_some hfound
      rw [hfound] at h
      exact ⟨a, mem_keepFirst_iff.mpr (hkey ▸ hfound), hkey, h⟩
  · rintro ⟨a, ha, rfl, hweight⟩
    rwa [firstWeight_of_mem ha]

theorem sum_keepFirst (key : α → κ) (weight : α → Nat) (l : List α) :
    ((keepFirst key .empty l).map weight).sum =
      ∑ k ∈ (l.map key).toFinset, firstWeight key weight l k := by
  have hkeys : (l.map key).toFinset = ((keepFirst key .empty l).map key).toFinset := by
    ext k
    rw [List.mem_toFinset, List.mem_toFinset, mem_map_keepFirst]
  rw [hkeys, List.sum_toFinset _ (keepFirst_nodup key l .empty), List.map_map]
  exact congrArg List.sum (List.map_congr_left fun a ha => (firstWeight_of_mem ha).symm)

/-- An element with a new key changes nothing about the others. -/
theorem firstWeight_insert {key : α → κ} {weight : α → Nat} {before after : List α} {a : α} {k : κ}
    (h : key a ≠ k) :
    firstWeight key weight (before ++ a :: after) k = firstWeight key weight (before ++ after) k := by
  rw [firstWeight, firstWeight, List.find?_append, List.find?_append,
    List.find?_cons_of_neg (by simpa using h)]

theorem sum_firstWeight_insert (key : α → κ) (weight : α → Nat) {before after : List α} {a : α}
    (h : key a ∉ (before ++ after).map key) :
    ∑ k ∈ ((before ++ after).map key).toFinset, firstWeight key weight (before ++ after) k ≤
      ∑ k ∈ ((before ++ a :: after).map key).toFinset,
        firstWeight key weight (before ++ a :: after) k := by
  have hkeys : ((before ++ a :: after).map key).toFinset =
      insert (key a) ((before ++ after).map key).toFinset := by
    ext k
    simp only [List.map_append, List.map_cons, List.mem_toFinset, List.mem_append, List.mem_cons,
      Finset.mem_insert]
    tauto
  rw [hkeys, Finset.sum_insert (by rwa [List.mem_toFinset])]
  refine Nat.le_add_left_of_le (Finset.sum_congr rfl fun k hk => ?_).le
  refine (firstWeight_insert fun hkey => ?_).symm
  rw [← hkey, List.mem_toFinset] at hk
  exact h hk

end Keys

end Surface

import Mathlib.Algebra.GroupWithZero.Nat
import Mathlib.Algebra.Order.BigOperators.Group.List
import Mathlib.Data.List.Pairwise
import Mathlib.Data.List.Sort
import Mathlib.Data.Prod.Lex
import Mathlib.Data.String.Basic

/-!
# Surface.Ordered

Ordered sets and ordered maps over any linear order, as lists that carry their own sortedness,
and the sort by a key.

* `OrdSet` / `OrdMap`: a strictly ascending list of elements, respectively of keyed entries. The
  proof is a field, so iteration order and distinctness never have to be shown again.
* `OrdSet.ext_mem` / `OrdMap.ext_get`: a set is determined by its members, a map by its lookups.
* `OrdSet.weight_le`: sizes and weights grow with the set.
* `OrdMap.get_ofList`: of several entries collected under one key the last one stays.
* `OrdMap.get_tally`: the counts of the elements of a list.
* `sortBy_eq_of_perm`: when keys are distinct, the sort forgets the order of its input.
* `sortBy_keepFirst_congr`: so it does of what deduplication by key leaves.
* `maxByKey_spec`: no key is greater than that of the chosen element.
-/

namespace Surface

universe u v

section Set

variable {α : Type u} [LinearOrder α]

/-- Insert into an ascending list; an element already present stays. -/
def insertAsc (a : α) : List α → List α
  | [] => [a]
  | b :: l => if a < b then a :: b :: l else if b < a then b :: insertAsc a l else b :: l

theorem mem_insertAsc {a x : α} {l : List α} : x ∈ insertAsc a l ↔ x = a ∨ x ∈ l := by
  induction l with
  | nil => simp [insertAsc]
  | cons b l ih =>
    simp only [insertAsc]
    split
    · simp
    · split
      · simp only [List.mem_cons, ih]; tauto
      · rename_i h₁ h₂
        have : a = b := le_antisymm (not_lt.mp h₂) (not_lt.mp h₁)
        subst this
        simp

theorem pairwise_insertAsc {a : α} {l : List α} (h : l.Pairwise (· < ·)) :
    (insertAsc a l).Pairwise (· < ·) := by
  induction l with
  | nil => simp [insertAsc]
  | cons b l ih =>
    obtain ⟨hb, hl⟩ := List.pairwise_cons.mp h
    simp only [insertAsc]
    split
    · rename_i hab
      refine List.pairwise_cons.mpr ⟨fun x hx => ?_, h⟩
      rcases List.mem_cons.mp hx with rfl | hx
      · exact hab
      · exact hab.trans (hb x hx)
    · split
      · rename_i hba
        refine List.pairwise_cons.mpr ⟨fun x hx => ?_, ih hl⟩
        rcases mem_insertAsc.mp hx with rfl | hx
        · exact hba
        · exact hb x hx
      · exact h

/-- A finite set kept as its ascending list of elements. -/
structure OrdSet (α : Type u) [LinearOrder α] where
  toList : List α
  sorted : toList.Pairwise (· < ·)

namespace OrdSet

instance : DecidableEq (OrdSet α) := fun s t =>
  decidable_of_iff (s.toList = t.toList) ⟨fun h => by cases s; cases t; simp_all, fun h => h ▸ rfl⟩

instance : Membership α (OrdSet α) := ⟨fun s a => a ∈ s.toList⟩

instance (a : α) (s : OrdSet α) : Decidable (a ∈ s) := inferInstanceAs (Decidable (a ∈ s.toList))

def empty : OrdSet α := ⟨[], .nil⟩

instance : Inhabited (OrdSet α) := ⟨empty⟩

def insert (s : OrdSet α) (a : α) : OrdSet α := ⟨insertAsc a s.toList, pairwise_insertAsc s.sorted⟩

/-- Collect a list into a set. -/
def ofList (l : List α) : OrdSet α := l.foldl insert empty

def isEmpty (s : OrdSet α) : Bool := s.toList.isEmpty

def size (s : OrdSet α) : Nat := s.toList.length

theorem mem_def {a : α} {s : OrdSet α} : a ∈ s ↔ a ∈ s.toList := Iff.rfl

@[simp] theorem toList_empty : (empty : OrdSet α).toList = [] := rfl

@[simp] theorem mem_insert {a x : α} {s : OrdSet α} : x ∈ s.insert a ↔ x = a ∨ x ∈ s :=
  mem_insertAsc

theorem nodup (s : OrdSet α) : s.toList.Nodup := s.sorted.imp (fun h => ne_of_lt h)

/-- A set is determined by its members. -/
theorem ext_mem {s t : OrdSet α} (h : ∀ a, a ∈ s ↔ a ∈ t) : s = t := by
  obtain ⟨l, hl⟩ := s
  obtain ⟨l', hl'⟩ := t
  have : l = l' := List.Pairwise.eq_of_mem_iff hl hl' (fun {a} => h a)
  subst this
  rfl

theorem mem_foldl_insert {a : α} {l : List α} {s : OrdSet α} :
    a ∈ l.foldl insert s ↔ a ∈ l ∨ a ∈ s := by
  induction l generalizing s with
  | nil => simp
  | cons b l ih => simp only [List.foldl_cons, ih, mem_insert, List.mem_cons]; tauto

@[simp] theorem mem_ofList {a : α} {l : List α} : a ∈ ofList l ↔ a ∈ l := by
  rw [ofList, mem_foldl_insert]
  simp [mem_def]

theorem ofList_congr {l l' : List α} (h : ∀ a, a ∈ l ↔ a ∈ l') : ofList l = ofList l' :=
  ext_mem (fun a => by simp [h a])

theorem insert_of_mem {a : α} {s : OrdSet α} (h : a ∈ s) : s.insert a = s :=
  ext_mem (fun x => by
    rw [mem_insert]
    constructor
    · rintro (rfl | hx)
      · exact h
      · exact hx
    · exact Or.inr)

theorem isEmpty_iff {s : OrdSet α} : s.isEmpty = true ↔ ∀ a, a ∉ s := by
  simp only [isEmpty, List.isEmpty_iff, List.eq_nil_iff_forall_not_mem]
  rfl

theorem ofList_append (l l' : List α) : ofList (l ++ l') = l'.foldl insert (ofList l) := by
  simp only [ofList, List.foldl_append]

/-- The smallest elements: those with few elements below them. -/
theorem mem_take_iff {s : OrdSet α} {n : Nat} {a : α} :
    a ∈ s.toList.take n ↔ a ∈ s ∧ s.toList.countP (· < a) < n := by
  obtain ⟨l, hl⟩ := s
  rw [mem_def]
  simp only
  induction l generalizing n with
  | nil => simp
  | cons b l ih =>
    obtain ⟨hb, hl'⟩ := List.pairwise_cons.mp hl
    cases n with
    | zero => simp
    | succ n =>
      rw [List.take_succ_cons, List.mem_cons, List.mem_cons, List.countP_cons, ih hl']
      by_cases hab : a = b
      · subst hab
        have hzero : l.countP (fun x => decide (x < a)) = 0 := by
          rw [List.countP_eq_zero]
          intro x hx
          simpa using (hb x hx).le
        simp [hzero]
      · simp only [hab, false_or]
        refine and_congr_right fun ha => ?_
        have hlt : b < a := hb a ha
        simp only [hlt, decide_true, if_true]
        omega

/-! ### Size and weight -/

/-- The total weight of the elements. -/
def weight (w : α → Nat) (s : OrdSet α) : Nat := (s.toList.map w).sum

theorem insert_perm {a : α} {s : OrdSet α} (h : a ∉ s) :
    (s.insert a).toList.Perm (a :: s.toList) := by
  have hnodup : (a :: s.toList).Nodup := List.nodup_cons.mpr ⟨h, s.nodup⟩
  refine (List.perm_ext_iff_of_nodup (s.insert a).nodup hnodup).mpr (fun x => ?_)
  rw [← mem_def, mem_insert, List.mem_cons, mem_def]

theorem weight_insert {w : α → Nat} {a : α} {s : OrdSet α} (h : a ∉ s) :
    (s.insert a).weight w = s.weight w + w a := by
  unfold weight
  rw [((insert_perm h).map w).sum_eq, List.map_cons, List.sum_cons, Nat.add_comm]

theorem size_insert {a : α} {s : OrdSet α} (h : a ∉ s) : (s.insert a).size = s.size + 1 := by
  unfold size
  rw [(insert_perm h).length_eq, List.length_cons]

theorem subperm {s t : OrdSet α} (h : ∀ a ∈ s, a ∈ t) : List.Subperm s.toList t.toList :=
  List.subperm_of_subset s.nodup (fun a ha => h a ha)

theorem size_le {s t : OrdSet α} (h : ∀ a ∈ s, a ∈ t) : s.size ≤ t.size := (subperm h).length_le

theorem size_ofList_le (l : List α) : (ofList l).size ≤ l.length :=
  (List.subperm_of_subset (nodup _) fun _ ha => mem_ofList.mp ha).length_le

/-- What both sets have, in their order. -/
def inter (s t : OrdSet α) : OrdSet α := ⟨s.toList.filter (· ∈ t), s.sorted.filter _⟩

theorem mem_inter {a : α} {s t : OrdSet α} : a ∈ s.inter t ↔ a ∈ s ∧ a ∈ t := by
  rw [mem_def, inter, List.mem_filter, decide_eq_true_iff]
  rfl

theorem weight_le {w : α → Nat} {s t : OrdSet α} (h : ∀ a ∈ s, a ∈ t) :
    s.weight w ≤ t.weight w := by
  obtain ⟨l, hperm, hsub⟩ := subperm h
  unfold weight
  rw [← (hperm.map w).sum_eq]
  exact (hsub.map w).sum_le_sum (fun _ _ => Nat.zero_le _)

/-- Between a set and a superset of the same size nothing was added. -/
theorem subset_of_size_le {s t : OrdSet α} (h : ∀ a ∈ s, a ∈ t) (hsize : t.size ≤ s.size) :
    ∀ a ∈ t, a ∈ s := by
  intro a ha
  have hperm : s.toList.Perm t.toList := (subperm h).perm_of_length_le hsize
  exact hperm.mem_iff.mpr ha

theorem size_foldl_insert_eq_iff {l : List α} {s : OrdSet α} :
    (l.foldl insert s).size = s.size ↔ ∀ a ∈ l, a ∈ s := by
  have hsub : ∀ a ∈ s, a ∈ l.foldl insert s := fun a ha => mem_foldl_insert.mpr (.inr ha)
  constructor
  · intro h a ha
    exact subset_of_size_le hsub (Nat.le_of_eq h) a (mem_foldl_insert.mpr (.inl ha))
  · intro h
    have heq : l.foldl insert s = s := ext_mem (fun a => by
      rw [mem_foldl_insert]
      exact ⟨fun ha => ha.elim (h a) id, .inr⟩)
    rw [heq]

end OrdSet

end Set

section Map

variable {κ : Type u} {ν : Type v} [LinearOrder κ]

/-- Insert an entry into a list ascending by key; an entry under the same key is replaced. -/
def upsertAsc (k : κ) (x : ν) : List (κ × ν) → List (κ × ν)
  | [] => [(k, x)]
  | e :: l =>
    if k < e.1 then (k, x) :: e :: l
    else if e.1 < k then e :: upsertAsc k x l
    else (k, x) :: l

theorem fst_mem_upsertAsc {k : κ} {x : ν} {e : κ × ν} {l : List (κ × ν)}
    (h : e ∈ upsertAsc k x l) : e = (k, x) ∨ e ∈ l := by
  induction l with
  | nil => simpa [upsertAsc] using h
  | cons d l ih =>
    simp only [upsertAsc] at h
    split at h
    · simpa using h
    · split at h
      · rcases List.mem_cons.mp h with rfl | h
        · simp
        · rcases ih h with h | h <;> simp [h]
      · rcases List.mem_cons.mp h with h | h <;> simp [h]

theorem pairwise_upsertAsc {k : κ} {x : ν} {l : List (κ × ν)}
    (h : l.Pairwise (fun a b => a.1 < b.1)) :
    (upsertAsc k x l).Pairwise (fun a b => a.1 < b.1) := by
  induction l with
  | nil => simp [upsertAsc]
  | cons d l ih =>
    obtain ⟨hd, hl⟩ := List.pairwise_cons.mp h
    simp only [upsertAsc]
    split
    · rename_i hk
      refine List.pairwise_cons.mpr ⟨fun e he => ?_, h⟩
      rcases List.mem_cons.mp he with rfl | he
      · exact hk
      · exact hk.trans (hd e he)
    · split
      · rename_i hk
        refine List.pairwise_cons.mpr ⟨fun e he => ?_, ih hl⟩
        rcases fst_mem_upsertAsc he with rfl | he
        · exact hk
        · exact hd e he
      · rename_i h₁ h₂
        have hk : d.1 = k := le_antisymm (not_lt.mp h₁) (not_lt.mp h₂)
        refine List.pairwise_cons.mpr ⟨fun e he => ?_, hl⟩
        simpa [← hk] using hd e he

theorem lookup_cons_ite {k j : κ} {x : ν} {l : List (κ × ν)} :
    ((k, x) :: l).lookup j = if j = k then some x else l.lookup j := by
  by_cases h : j = k
  · simp [h]
  · rw [List.lookup_cons, beq_eq_false_iff_ne.mpr h, if_neg h]

theorem lookup_upsertAsc {k j : κ} {x : ν} {l : List (κ × ν)}
    (h : l.Pairwise (fun a b => a.1 < b.1)) :
    (upsertAsc k x l).lookup j = if j = k then some x else l.lookup j := by
  induction l with
  | nil => rw [upsertAsc, lookup_cons_ite]
  | cons d l ih =>
    obtain ⟨hd, hl⟩ := List.pairwise_cons.mp h
    obtain ⟨dk, dx⟩ := d
    simp only [upsertAsc]
    split
    · rw [lookup_cons_ite]
    · split
      · rename_i hk
        have hk : dk < k := hk
        rw [lookup_cons_ite, lookup_cons_ite, ih hl]
        by_cases hj : j = k
        · subst hj
          simp [(ne_of_lt hk).symm]
        · simp [hj]
      · rename_i h₁ h₂
        have hk : dk = k := le_antisymm (not_lt.mp h₁) (not_lt.mp h₂)
        subst hk
        rw [lookup_cons_ite, lookup_cons_ite]
        by_cases hj : j = dk <;> simp [hj]

theorem length_upsertAsc_le (k : κ) (x : ν) (l : List (κ × ν)) :
    (upsertAsc k x l).length ≤ l.length + 1 := by
  induction l with
  | nil => simp [upsertAsc]
  | cons e l ih =>
    simp only [upsertAsc]
    split
    · simp
    · split
      · simpa using ih
      · simp

/-- A finite map kept as its list of entries in ascending key order. -/
structure OrdMap (κ : Type u) (ν : Type v) [LinearOrder κ] where
  entries : List (κ × ν)
  sorted : entries.Pairwise (fun a b => a.1 < b.1)

namespace OrdMap

instance [DecidableEq ν] : DecidableEq (OrdMap κ ν) := fun s t =>
  decidable_of_iff (s.entries = t.entries)
    ⟨fun h => by cases s; cases t; simp_all, fun h => h ▸ rfl⟩

def empty : OrdMap κ ν := ⟨[], .nil⟩

instance : Inhabited (OrdMap κ ν) := ⟨empty⟩

def get (m : OrdMap κ ν) (k : κ) : Option ν := m.entries.lookup k

def keys (m : OrdMap κ ν) : List κ := m.entries.map Prod.fst

def size (m : OrdMap κ ν) : Nat := m.entries.length

def insert (m : OrdMap κ ν) (k : κ) (x : ν) : OrdMap κ ν :=
  ⟨upsertAsc k x m.entries, pairwise_upsertAsc m.sorted⟩

/-- Collect entries into a map, later entries replacing earlier ones. -/
def ofList (l : List (κ × ν)) : OrdMap κ ν := l.foldl (fun m e => m.insert e.1 e.2) empty

@[simp] theorem get_empty (k : κ) : (empty : OrdMap κ ν).get k = none := rfl

theorem get_insert (m : OrdMap κ ν) (k j : κ) (x : ν) :
    (m.insert k x).get j = if j = k then some x else m.get j :=
  lookup_upsertAsc m.sorted

theorem size_insert_le (m : OrdMap κ ν) (k : κ) (x : ν) : (m.insert k x).size ≤ m.size + 1 :=
  length_upsertAsc_le k x m.entries

theorem lookup_isSome_iff {l : List (κ × ν)} {k : κ} :
    (l.lookup k).isSome = true ↔ k ∈ l.map Prod.fst := by
  induction l with
  | nil => simp
  | cons e l ih =>
    obtain ⟨ek, ex⟩ := e
    rw [lookup_cons_ite, List.map_cons, List.mem_cons, ← ih]
    by_cases h : k = ek <;> simp [h]

theorem lookup_eq_none {l : List (κ × ν)} {k : κ} (h : k ∉ l.map Prod.fst) :
    l.lookup k = none := by
  cases hc : l.lookup k with
  | none => rfl
  | some x => exact absurd (lookup_isSome_iff.mp (by simp [hc])) h

/-- Looking up in a list of keyed values finds the first element with the key. -/
theorem lookup_map {α : Type*} (key : α → κ) (value : α → ν) (l : List α) (k : κ) :
    (l.map fun a => (key a, value a)).lookup k = (l.find? fun a => key a = k).map value := by
  induction l with
  | nil => rfl
  | cons a l ih =>
    rw [List.map_cons, lookup_cons_ite, List.find?_cons, ih]
    by_cases h : key a = k
    · simp [h]
    · simp [h, Ne.symm h]

theorem mem_keys {m : OrdMap κ ν} {k : κ} : k ∈ m.keys ↔ (m.get k).isSome = true :=
  lookup_isSome_iff.symm

theorem mem_entries_iff {m : OrdMap κ ν} {k : κ} {x : ν} :
    (k, x) ∈ m.entries ↔ m.get k = some x := by
  obtain ⟨l, hl⟩ := m
  simp only [get]
  induction l with
  | nil => simp
  | cons d l ih =>
    obtain ⟨hd, hl'⟩ := List.pairwise_cons.mp hl
    obtain ⟨dk, dx⟩ := d
    by_cases h : k = dk
    · subst h
      have hout : ∀ y, (k, y) ∉ l := fun y hy => lt_irrefl k (hd (k, y) hy)
      rw [lookup_cons_ite, if_pos rfl]
      simp only [List.mem_cons, Prod.mk.injEq, true_and, hout, or_false]
      constructor
      · rintro rfl; rfl
      · intro h; exact (Option.some.inj h).symm
    · rw [lookup_cons_ite, if_neg h, ← ih hl']
      simp [h]

/-- A map is determined by its lookups. -/
theorem ext_get {m n : OrdMap κ ν} (h : ∀ k, m.get k = n.get k) : m = n := by
  have hmem : ∀ e, e ∈ m.entries ↔ e ∈ n.entries := by
    rintro ⟨k, x⟩
    rw [mem_entries_iff, mem_entries_iff, h k]
  obtain ⟨l, hl⟩ := m
  obtain ⟨l', hl'⟩ := n
  have : Std.Irrefl (fun a b : κ × ν => a.1 < b.1) := ⟨fun a => lt_irrefl a.1⟩
  have : Std.Antisymm (fun a b : κ × ν => a.1 < b.1) := ⟨fun a b hab hba => absurd hba hab.asymm⟩
  have : l = l' := List.Pairwise.eq_of_mem_iff hl hl' (fun {e} => hmem e)
  subst this
  rfl

theorem get_foldl_insert (l : List (κ × ν)) (m : OrdMap κ ν) (k : κ) :
    (l.foldl (fun m e => m.insert e.1 e.2) m).get k = (l.reverse.lookup k).or (m.get k) := by
  induction l generalizing m with
  | nil => simp
  | cons e l ih =>
    rw [List.foldl_cons, ih, List.reverse_cons, List.lookup_append, get_insert]
    obtain ⟨ek, ex⟩ := e
    rw [lookup_cons_ite]
    by_cases h : k = ek <;> cases l.reverse.lookup k <;> simp [h]

/-- Of several entries collected under one key the last one stays. -/
theorem get_ofList (l : List (κ × ν)) (k : κ) : (ofList l).get k = l.reverse.lookup k := by
  simp [ofList, get_foldl_insert]

/-- When no key repeats, the order of collection does not matter. -/
theorem lookup_reverse {l : List (κ × ν)} (h : (l.map Prod.fst).Nodup) (k : κ) :
    l.reverse.lookup k = l.lookup k := by
  induction l with
  | nil => rfl
  | cons e l ih =>
    obtain ⟨ek, ex⟩ := e
    obtain ⟨he, hl⟩ := List.nodup_cons.mp h
    rw [List.reverse_cons, List.lookup_append, ih hl]
    by_cases hk : k = ek
    · subst hk
      simp [lookup_eq_none he]
    · rw [lookup_cons_ite, lookup_cons_ite, if_neg hk, if_neg hk]
      simp

theorem mem_of_lookup {l : List (κ × ν)} {k : κ} {x : ν} (h : l.lookup k = some x) :
    (k, x) ∈ l := by
  induction l with
  | nil => cases h
  | cons e l ih =>
    obtain ⟨ek, ex⟩ := e
    rw [lookup_cons_ite] at h
    split at h
    · rename_i hk
      cases h
      rw [hk]
      exact List.mem_cons_self
    · exact List.mem_cons_of_mem _ (ih h)

/-- Collecting the entries of a map gives the map. -/
theorem ofList_entries (m : OrdMap κ ν) : ofList m.entries = m := by
  have hnodup : (m.entries.map Prod.fst).Nodup :=
    List.pairwise_map.mpr (m.sorted.imp fun h => ne_of_lt h)
  exact ext_get fun k => by rw [get_ofList, lookup_reverse hnodup, get]

/-! ### Editing -/

theorem lookup_filter {l : List (κ × ν)} {k j : κ} :
    (l.filter fun e => e.1 ≠ k).lookup j = if j = k then none else l.lookup j := by
  induction l with
  | nil => simp
  | cons e l ih =>
    obtain ⟨ek, ex⟩ := e
    rw [List.filter_cons, lookup_cons_ite]
    by_cases he : ek = k
    · subst he
      rw [if_neg (by simp), ih]
      by_cases hj : j = ek
      · rw [if_pos hj, if_pos hj]
      · rw [if_neg hj, if_neg hj, if_neg hj]
    · rw [if_pos (by simpa using he), lookup_cons_ite, ih]
      by_cases hj : j = ek
      · subst hj
        rw [if_pos rfl, if_neg he, if_pos rfl]
      · rw [if_neg hj, if_neg hj]

/-- Change the value of an entry, given its key. -/
def editEntry (k : κ) (f : ν → ν) (e : κ × ν) : κ × ν := if e.1 = k then (e.1, f e.2) else e

@[simp] theorem editEntry_fst (k : κ) (f : ν → ν) (e : κ × ν) : (editEntry k f e).1 = e.1 := by
  unfold editEntry
  split <;> rfl

theorem lookup_editEntry {l : List (κ × ν)} {k j : κ} {f : ν → ν} :
    (l.map (editEntry k f)).lookup j = if j = k then (l.lookup j).map f else l.lookup j := by
  induction l with
  | nil => simp
  | cons e l ih =>
    obtain ⟨ek, ex⟩ := e
    rw [List.map_cons]
    unfold editEntry at ih ⊢
    by_cases he : ek = k
    · subst he
      rw [if_pos rfl, lookup_cons_ite, lookup_cons_ite, ih]
      by_cases hj : j = ek
      · simp [hj]
      · simp [hj]
    · rw [if_neg he, lookup_cons_ite, lookup_cons_ite, ih]
      by_cases hj : j = ek
      · subst hj
        simp [he]
      · simp [hj]

def erase (m : OrdMap κ ν) (k : κ) : OrdMap κ ν :=
  ⟨m.entries.filter fun e => e.1 ≠ k, m.sorted.filter _⟩

def adjust (m : OrdMap κ ν) (k : κ) (f : ν → ν) : OrdMap κ ν :=
  ⟨m.entries.map (editEntry k f), List.pairwise_map.mpr (m.sorted.imp (by simp))⟩

theorem erase_ofList (l : List (κ × ν)) (k : κ) :
    (ofList l).erase k = ofList (l.filter fun e => e.1 ≠ k) := by
  refine ext_get (fun j => ?_)
  have herase : ((ofList l).erase k).get j = if j = k then none else (ofList l).get j :=
    lookup_filter
  rw [herase, get_ofList, get_ofList, ← List.filter_reverse, lookup_filter]

theorem adjust_ofList (l : List (κ × ν)) (k : κ) (f : ν → ν) :
    (ofList l).adjust k f = ofList (l.map (editEntry k f)) := by
  refine ext_get (fun j => ?_)
  have hadjust : ((ofList l).adjust k f).get j =
      if j = k then ((ofList l).get j).map f else (ofList l).get j := lookup_editEntry
  rw [hadjust, get_ofList, get_ofList, ← List.map_reverse, lookup_editEntry]

/-- Lists over the same distinct keys collect to the same map only when they are equal. -/
theorem ofList_inj {l l' : List (κ × ν)} (hk : l.map Prod.fst = l'.map Prod.fst)
    (hn : (l.map Prod.fst).Nodup) : ofList l = ofList l' ↔ l = l' := by
  refine ⟨fun h => ?_, fun h => by rw [h]⟩
  have hlookup : ∀ k, l.lookup k = l'.lookup k := by
    intro k
    have hget := congrArg (fun m => m.get k) h
    simp only [get_ofList] at hget
    rwa [lookup_reverse hn, lookup_reverse (hk ▸ hn)] at hget
  clear h
  induction l generalizing l' with
  | nil => exact (List.map_eq_nil_iff.mp hk.symm).symm
  | cons e l ih =>
    cases l' with
    | nil => simp at hk
    | cons e' l' =>
      obtain ⟨ek, ex⟩ := e
      obtain ⟨ek', ex'⟩ := e'
      simp only [List.map_cons, List.cons.injEq] at hk
      obtain ⟨rfl, hk⟩ := hk
      obtain ⟨hout, hn⟩ := List.nodup_cons.mp hn
      have hhead := hlookup ek
      rw [lookup_cons_ite, lookup_cons_ite, if_pos rfl, if_pos rfl] at hhead
      cases hhead
      refine congrArg _ (ih hk hn (fun k => ?_))
      have htail := hlookup k
      rw [lookup_cons_ite, lookup_cons_ite] at htail
      by_cases hkey : k = ek
      · subst hkey
        rw [lookup_eq_none hout, lookup_eq_none (hk ▸ hout)]
      · rwa [if_neg hkey, if_neg hkey] at htail

/-! ### Counting -/

/-- How often each element occurs. -/
def tally (l : List κ) : OrdMap κ Nat :=
  l.foldl (fun m k => m.insert k ((m.get k).getD 0 + 1)) empty

theorem get_tally (l : List κ) (k : κ) :
    (tally l).get k = if k ∈ l then some (l.countP fun j => decide (j = k)) else none := by
  have hrun : ∀ (l : List κ) (m : OrdMap κ Nat),
      (l.foldl (fun m k => m.insert k ((m.get k).getD 0 + 1)) m).get k =
        if k ∈ l then some ((m.get k).getD 0 + l.countP fun j => decide (j = k))
        else m.get k := by
    intro l
    induction l with
    | nil => intro m; rw [if_neg List.not_mem_nil]; rfl
    | cons j l ih =>
      intro m
      rw [List.foldl_cons, ih, get_insert, List.countP_cons]
      by_cases hkey : k = j
      · subst hkey
        rw [if_pos rfl, if_pos List.mem_cons_self, Option.getD_some, if_pos (decide_eq_true rfl)]
        by_cases hmem : k ∈ l
        · rw [if_pos hmem, Nat.add_assoc, Nat.add_comm 1]
        · have hnone : l.countP (fun j => decide (j = k)) = 0 :=
            List.countP_eq_zero.mpr fun j hj hsame => hmem (of_decide_eq_true hsame ▸ hj)
          rw [if_neg hmem, hnone]
      · have hother : ¬decide (j = k) = true := fun h => hkey (of_decide_eq_true h).symm
        rw [if_neg hkey, if_neg hother, Nat.add_zero]
        by_cases hmem : k ∈ l
        · rw [if_pos hmem, if_pos (List.mem_cons_of_mem j hmem)]
        · rw [if_neg hmem, if_neg (List.not_mem_cons_of_ne_of_not_mem hkey hmem)]
  rw [tally, hrun, get_empty, Option.getD_none, Nat.zero_add]

theorem mem_entries_tally {l : List κ} {k : κ} {n : Nat} :
    (k, n) ∈ (tally l).entries ↔ k ∈ l ∧ n = l.countP fun j => decide (j = k) := by
  rw [mem_entries_iff, get_tally]
  by_cases hmem : k ∈ l
  · rw [if_pos hmem, Option.some.injEq]
    exact ⟨fun h => ⟨hmem, h.symm⟩, fun h => h.2.symm⟩
  · rw [if_neg hmem]
    exact ⟨fun h => (nomatch h), fun h => absurd h.1 hmem⟩

theorem keys_tally (l : List κ) : (tally l).keys = (OrdSet.ofList l).toList := by
  have hset : (⟨(tally l).keys, List.pairwise_map.mpr (tally l).sorted⟩ : OrdSet κ) =
      OrdSet.ofList l := by
    refine OrdSet.ext_mem fun k => ?_
    rw [OrdSet.mem_ofList, OrdSet.mem_def, mem_keys, get_tally]
    by_cases hmem : k ∈ l <;> simp [hmem]
  exact congrArg OrdSet.toList hset

end OrdMap

end Map

/-! ## Sorting by a key -/

section Sorting

variable {α : Type u} {κ : Type v} [LinearOrder κ]

/-- The stable sort by a key. -/
def sortBy (key : α → κ) (l : List α) : List α := l.insertionSort (fun a b => key a ≤ key b)

theorem sortBy_perm (key : α → κ) (l : List α) : (sortBy key l).Perm l :=
  List.perm_insertionSort _ l

@[simp] theorem mem_sortBy {key : α → κ} {l : List α} {a : α} : a ∈ sortBy key l ↔ a ∈ l :=
  (sortBy_perm key l).mem_iff

@[simp] theorem sortBy_nil (key : α → κ) : sortBy key [] = [] := rfl

theorem sortBy_sorted (key : α → κ) (l : List α) :
    (sortBy key l).Pairwise (fun a b => key a ≤ key b) := by
  have : Std.Total (fun a b : α => key a ≤ key b) := ⟨fun a b => le_total (key a) (key b)⟩
  have : IsTrans α (fun a b : α => key a ≤ key b) := ⟨fun _ _ _ => le_trans⟩
  exact List.pairwise_insertionSort _ l

theorem sortBy_eq_nil {key : α → κ} {l : List α} : sortBy key l = [] ↔ l = [] :=
  ⟨fun h => (h ▸ sortBy_perm key l).nil_eq.symm, fun h => by rw [h]; rfl⟩

/-- With keys that tell different elements apart the sort depends only on which elements there
are. -/
theorem sortBy_eq_of_perm_of_inj {key : α → κ} {l l' : List α} (hp : l.Perm l')
    (hinj : ∀ a ∈ l, ∀ b ∈ l, key a = key b → a = b) : sortBy key l = sortBy key l' := by
  have hperm : (sortBy key l).Perm (sortBy key l') :=
    (sortBy_perm key l).trans (hp.trans (sortBy_perm key l').symm)
  refine hperm.eq_of_pairwise (fun a b ha hb hab hba => ?_) (sortBy_sorted key l)
    (sortBy_sorted key l')
  exact hinj a (mem_sortBy.mp ha) b (hp.mem_iff.mpr (mem_sortBy.mp hb)) (le_antisymm hab hba)

theorem sortBy_eq_of_perm {key : α → κ} {l l' : List α} (hp : l.Perm l')
    (hn : (l.map key).Nodup) : sortBy key l = sortBy key l' :=
  sortBy_eq_of_perm_of_inj hp fun _ ha _ hb h => List.inj_on_of_nodup_map hn ha hb h

theorem sortBy_strict {key : α → κ} {l : List α} (hn : (l.map key).Nodup) :
    (sortBy key l).Pairwise (fun a b => key a < key b) := by
  have hkeys : (sortBy key l).Pairwise fun a b => key a ≠ key b :=
    List.pairwise_map.mp (((sortBy_perm key l).map key).nodup_iff.mpr hn)
  exact (sortBy_sorted key l).imp₂ (fun _ _ hle hne => lt_of_le_of_ne hle hne) hkeys

/-- Along a strictly sorted list holds what holds wherever the keys increase. -/
theorem pairwise_iff_of_strict {key : α → κ} {l : List α} {R : α → α → Prop}
    (h : l.Pairwise fun a b => key a < key b) :
    l.Pairwise R ↔ ∀ a ∈ l, ∀ b ∈ l, key a < key b → R a b := by
  constructor
  · intro hR a ha b hb hlt
    have hboth : l.Pairwise fun a b => (key a < key b → R a b) ∧ (key b < key a → R b a) :=
      (h.and hR).imp fun hab => ⟨fun _ => hab.2, fun hba => absurd hba hab.1.asymm⟩
    have : Std.Symm fun a b => (key a < key b → R a b) ∧ (key b < key a → R b a) :=
      ⟨fun _ _ hab => hab.symm⟩
    have hne : a ≠ b := by
      rintro rfl
      exact lt_irrefl _ hlt
    exact (hboth.forall ha hb hne).1 hlt
  · exact fun hR => h.imp_of_mem fun ha hb hab => hR _ ha _ hb hab

/-- The place of an element in a strictly sorted list is the number of smaller elements. -/
theorem countP_lt_of_sorted {key : α → κ} {before after : List α} {a : α}
    (h : (before ++ a :: after).Pairwise (fun a b => key a < key b)) :
    (before ++ a :: after).countP (fun b => decide (key b < key a)) = before.length := by
  obtain ⟨_, htail, hcross⟩ := List.pairwise_append.mp h
  have hbefore : before.countP (fun b => decide (key b < key a)) = before.length :=
    List.countP_eq_length.mpr fun b hb => decide_eq_true (hcross b hb a List.mem_cons_self)
  have hafter : (a :: after).countP (fun b => decide (key b < key a)) = 0 := by
    refine List.countP_eq_zero.mpr fun b hb => ?_
    rw [decide_eq_true_eq, not_lt]
    rcases List.mem_cons.mp hb with rfl | hb
    · exact le_refl _
    · exact (List.rel_of_pairwise_cons htail hb).le
  rw [List.countP_append, hbefore, hafter, Nat.add_zero]

/-- A map that keeps keys commutes with the sort. -/
theorem sortBy_map {β : Type*} {key : α → κ} {key' : β → κ} {f : α → β}
    (h : ∀ a, key' (f a) = key a) (l : List α) :
    sortBy key' (l.map f) = (sortBy key l).map f :=
  (List.map_insertionSort (fun a b => key a ≤ key b) (fun a b => key' a ≤ key' b) f l
    (fun a _ b _ => by rw [h, h])).symm

/-- Drop every element whose key is that of the element kept last. -/
def dedupAfter (key : α → κ) (last : Option κ) : List α → List α
  | [] => []
  | a :: l =>
    if last = some (key a) then dedupAfter key last l
    else a :: dedupAfter key (some (key a)) l

/-- Of consecutive elements with equal keys only the first one stays. -/
def dedupBy (key : α → κ) (l : List α) : List α := dedupAfter key none l

theorem mem_of_mem_dedupAfter {key : α → κ} {last : Option κ} {l : List α} {a : α}
    (h : a ∈ dedupAfter key last l) : a ∈ l := by
  induction l generalizing last with
  | nil => exact h
  | cons b l ih =>
    simp only [dedupAfter] at h
    split at h
    · exact List.mem_cons_of_mem b (ih h)
    · rcases List.mem_cons.mp h with rfl | h
      · exact List.mem_cons_self
      · exact List.mem_cons_of_mem b (ih h)

theorem mem_of_mem_dedupBy {key : α → κ} {l : List α} {a : α} (h : a ∈ dedupBy key l) : a ∈ l :=
  mem_of_mem_dedupAfter h

/-- What is left after a key is ascending, and above the key. -/
theorem dedupAfter_strict {key : α → κ} {l : List α} (h : l.Pairwise (fun a b => key a ≤ key b)) :
    ∀ {last : Option κ}, (∀ k ∈ last, ∀ a ∈ l, k ≤ key a) →
      (dedupAfter key last l).Pairwise (fun a b => key a < key b) ∧
        ∀ k ∈ last, ∀ a ∈ dedupAfter key last l, k < key a := by
  induction l with
  | nil => exact fun _ => ⟨.nil, fun _ _ _ ha => absurd ha List.not_mem_nil⟩
  | cons b l ih =>
    intro last hlast
    obtain ⟨hb, hl⟩ := List.pairwise_cons.mp h
    simp only [dedupAfter]
    split
    · exact ih hl fun k hk a ha => hlast k hk a (List.mem_cons_of_mem b ha)
    · rename_i hne
      obtain ⟨hstrict, habove⟩ := @ih hl (some (key b)) fun k hk a ha => by
        cases hk
        exact hb a ha
      refine ⟨List.pairwise_cons.mpr ⟨habove _ rfl, hstrict⟩, fun k hk a ha => ?_⟩
      have hkb : k < key b :=
        lt_of_le_of_ne (hlast k hk b List.mem_cons_self) fun heq => hne (by rw [← heq, hk])
      rcases List.mem_cons.mp ha with rfl | ha
      · exact hkb
      · exact hkb.trans (habove _ rfl a ha)

theorem dedupBy_strict {key : α → κ} {l : List α} (h : l.Pairwise (fun a b => key a ≤ key b)) :
    (dedupBy key l).Pairwise (fun a b => key a < key b) :=
  (dedupAfter_strict h fun _ hk => by cases hk).1

/-- The first element of a key is the one that stays. -/
theorem find?_dedupAfter {key : α → κ} {l : List α} (h : l.Pairwise (fun a b => key a ≤ key b))
    {k : κ} : ∀ {last : Option κ}, last ≠ some k →
      (dedupAfter key last l).find? (fun a => decide (key a = k)) =
        l.find? fun a => decide (key a = k) := by
  induction l with
  | nil => exact fun _ => rfl
  | cons b l ih =>
    intro last hlast
    obtain ⟨hb, hl⟩ := List.pairwise_cons.mp h
    simp only [dedupAfter]
    split
    · rename_i heq
      have hbk : key b ≠ k := fun hbk => hlast (hbk ▸ heq)
      rw [ih hl hlast, List.find?_cons_of_neg (by simpa using hbk)]
    · by_cases hbk : key b = k
      · rw [List.find?_cons_of_pos (by simpa using hbk), List.find?_cons_of_pos (by simpa using hbk)]
      · rw [List.find?_cons_of_neg (by simpa using hbk), List.find?_cons_of_neg (by simpa using hbk)]
        exact ih hl fun heq => hbk (Option.some.inj heq)

theorem find?_dedupBy {key : α → κ} {l : List α} (h : l.Pairwise (fun a b => key a ≤ key b))
    (k : κ) : (dedupBy key l).find? (fun a => decide (key a = k)) =
      l.find? fun a => decide (key a = k) :=
  find?_dedupAfter h nofun

/-- The sort is stable: the first element of a key stays the first one. -/
theorem find?_sortBy (key : α → κ) (l : List α) (k : κ) :
    (sortBy key l).find? (fun a => decide (key a = k)) = l.find? fun a => decide (key a = k) := by
  have hinsert : ∀ (a : α) (l : List α),
      (l.orderedInsert (fun a b => key a ≤ key b) a).find? (fun a => decide (key a = k)) =
        (a :: l).find? fun a => decide (key a = k) := by
    intro a l
    induction l with
    | nil => rfl
    | cons b l ih =>
      rw [List.orderedInsert_cons]
      split
      · rfl
      · rename_i hlt
        -- an element in front of `a` has a smaller key
        have hne : key b = k → key a ≠ k := fun hb ha => hlt (le_of_eq (ha.trans hb.symm))
        by_cases hb : key b = k
        · rw [List.find?_cons_of_pos (by simpa using hb),
            List.find?_cons_of_neg (by simpa using hne hb),
            List.find?_cons_of_pos (by simpa using hb)]
        · rw [List.find?_cons_of_neg (by simpa using hb), ih]
          by_cases ha : key a = k
          · rw [List.find?_cons_of_pos (by simpa using ha), List.find?_cons_of_pos (by simpa using ha)]
          · rw [List.find?_cons_of_neg (by simpa using ha), List.find?_cons_of_neg (by simpa using ha),
              List.find?_cons_of_neg (by simpa using hb)]
  induction l with
  | nil => rfl
  | cons a l ih =>
    show ((sortBy key l).orderedInsert (fun a b => key a ≤ key b) a).find? _ = _
    rw [hinsert, List.find?_cons, List.find?_cons, ih]

/-- Add elements to a list that is kept by key: of two with one key the older stays. -/
def mergeBy (key : α → κ) (old new : List α) : List α := dedupBy key (sortBy key (old ++ new))

theorem mergeBy_strict (key : α → κ) (old new : List α) :
    (mergeBy key old new).Pairwise (fun a b => key a < key b) :=
  dedupBy_strict (sortBy_sorted key _)

/-- A merged list finds what the older elements and then the newer ones have. -/
theorem find?_mergeBy_append (key : α → κ) (old new : List α) (k : κ) :
    (mergeBy key old new).find? (fun a => decide (key a = k)) =
      (old ++ new).find? fun a => decide (key a = k) := by
  rw [mergeBy, find?_dedupBy (sortBy_sorted key _), find?_sortBy]

theorem mem_of_mem_mergeBy {key : α → κ} {old new : List α} {a : α}
    (h : a ∈ mergeBy key old new) : a ∈ old ∨ a ∈ new :=
  List.mem_append.mp (mem_sortBy.mp (mem_of_mem_dedupBy h))

theorem mem_map_mergeBy {key : α → κ} {old new : List α} {k : κ}
    (h : k ∈ old.map key ∨ k ∈ new.map key) : k ∈ (mergeBy key old new).map key := by
  have hmem : k ∈ (old ++ new).map key := by
    rw [List.map_append]
    exact List.mem_append.mpr h
  obtain ⟨a, ha, rfl⟩ := List.mem_map.mp hmem
  have hfound : ((mergeBy key old new).find? fun b => decide (key b = key a)).isSome = true := by
    rw [find?_mergeBy_append]
    exact List.find?_isSome.mpr ⟨a, ha, decide_eq_true rfl⟩
  obtain ⟨b, hb⟩ := Option.isSome_iff_exists.mp hfound
  exact List.mem_map.mpr ⟨b, List.mem_of_find?_eq_some hb, by simpa using List.find?_some hb⟩

theorem find?_mergeBy {key : α → κ} {old : List α} {k : κ} {a : α}
    (h : old.find? (fun a => decide (key a = k)) = some a) (new : List α) :
    (mergeBy key old new).find? (fun a => decide (key a = k)) = some a := by
  rw [mergeBy, find?_dedupBy (sortBy_sorted key _), find?_sortBy, List.find?_append, h]
  rfl

/-- Keep the elements whose keys are new, each key once. -/
def keepFirst (key : α → κ) (seen : OrdSet κ) : List α → List α
  | [] => []
  | a :: l =>
    if key a ∈ seen then keepFirst key seen l else a :: keepFirst key (seen.insert (key a)) l

theorem of_mem_keepFirst {key : α → κ} {l : List α} {a : α} :
    ∀ {seen : OrdSet κ}, a ∈ keepFirst key seen l → a ∈ l ∧ key a ∉ seen := by
  induction l with
  | nil =>
    intro seen h
    cases h
  | cons b l ih =>
    intro seen h
    simp only [keepFirst] at h
    split at h
    · obtain ⟨hl, hout⟩ := ih h
      exact ⟨List.mem_cons_of_mem b hl, hout⟩
    · rename_i hb
      rcases List.mem_cons.mp h with rfl | h
      · exact ⟨List.mem_cons_self, hb⟩
      · obtain ⟨hl, hout⟩ := ih h
        rw [OrdSet.mem_insert, not_or] at hout
        exact ⟨List.mem_cons_of_mem b hl, hout.2⟩

theorem keepFirst_nodup (key : α → κ) (l : List α) :
    ∀ seen : OrdSet κ, ((keepFirst key seen l).map key).Nodup := by
  induction l with
  | nil =>
    intro seen
    exact List.nodup_nil
  | cons b l ih =>
    intro seen
    simp only [keepFirst]
    split
    · exact ih seen
    · rw [List.map_cons, List.nodup_cons]
      refine ⟨fun hmem => ?_, ih _⟩
      obtain ⟨a, ha, hkey⟩ := List.mem_map.mp hmem
      exact (of_mem_keepFirst ha).2 (by simp [hkey])

/-- When equal keys mean equal elements, every element with a new key is kept. -/
theorem mem_keepFirst {key : α → κ} {l : List α}
    (hinj : ∀ a ∈ l, ∀ b ∈ l, key a = key b → a = b) {a : α} :
    ∀ {seen : OrdSet κ}, a ∈ keepFirst key seen l ↔ a ∈ l ∧ key a ∉ seen := by
  induction l with
  | nil =>
    intro seen
    simp [keepFirst]
  | cons b l ih =>
    intro seen
    have htail : ∀ x ∈ l, ∀ y ∈ l, key x = key y → x = y := fun x hx y hy =>
      hinj x (List.mem_cons_of_mem b hx) y (List.mem_cons_of_mem b hy)
    refine ⟨of_mem_keepFirst, ?_⟩
    rintro ⟨ha, hout⟩
    simp only [keepFirst]
    split
    · rename_i hb
      rcases List.mem_cons.mp ha with rfl | ha
      · exact absurd hb hout
      · exact (ih htail).mpr ⟨ha, hout⟩
    · by_cases hab : a = b
      · rw [hab]
        exact List.mem_cons_self
      · have hmem : a ∈ l := (List.mem_cons.mp ha).resolve_left hab
        have hkey : key a ≠ key b := fun h => hab (hinj a ha b List.mem_cons_self h)
        refine List.mem_cons_of_mem b ((ih htail).mpr ⟨hmem, ?_⟩)
        rw [OrdSet.mem_insert, not_or]
        exact ⟨hkey, hout⟩

theorem keepFirst_perm {key : α → κ} {l l' : List α} (hmem : ∀ a, a ∈ l ↔ a ∈ l')
    (hinj : ∀ a ∈ l, ∀ b ∈ l, key a = key b → a = b) :
    (keepFirst key .empty l).Perm (keepFirst key .empty l') := by
  have hinj' : ∀ a ∈ l', ∀ b ∈ l', key a = key b → a = b := fun a ha b hb =>
    hinj a ((hmem a).mpr ha) b ((hmem b).mpr hb)
  have hkept := keepFirst_nodup key l .empty
  have hkept' := keepFirst_nodup key l' .empty
  refine (List.perm_ext_iff_of_nodup hkept.of_map hkept'.of_map).mpr (fun a => ?_)
  rw [mem_keepFirst hinj, mem_keepFirst hinj', hmem a]

/-- The kept elements, sorted, depend only on which elements there are. -/
theorem sortBy_keepFirst_congr {ι : Type*} [LinearOrder ι] {key : α → κ} {order : α → ι}
    {l l' : List α} (hmem : ∀ a, a ∈ l ↔ a ∈ l')
    (hinj : ∀ a ∈ l, ∀ b ∈ l, key a = key b → a = b)
    (horder : ∀ a b, order a = order b → key a = key b) :
    sortBy order (keepFirst key .empty l) = sortBy order (keepFirst key .empty l') := by
  refine sortBy_eq_of_perm (keepFirst_perm hmem hinj) ?_
  refine List.Nodup.map_on (fun a ha b hb h => ?_) (keepFirst_nodup key l .empty).of_map
  exact hinj a (of_mem_keepFirst ha).1 b (of_mem_keepFirst hb).1 (horder a b h)

/-! ### The last maximum -/

/-- Of the elements with the greatest key the last one. -/
def maxByKey (key : α → κ) : List α → Option α
  | [] => none
  | a :: l =>
    match maxByKey key l with
    | none => some a
    | some b => if key b < key a then some a else some b

theorem maxByKey_eq_none {key : α → κ} {l : List α} : maxByKey key l = none ↔ l = [] := by
  cases l with
  | nil => simp [maxByKey]
  | cons a l =>
    simp only [maxByKey, reduceCtorEq, iff_false]
    split
    · exact fun h => nomatch h
    · split
      · exact fun h => nomatch h
      · exact fun h => nomatch h

theorem maxByKey_spec {key : α → κ} {l : List α} {a : α} (h : maxByKey key l = some a) :
    a ∈ l ∧ ∀ b ∈ l, key b ≤ key a := by
  induction l generalizing a with
  | nil => cases h
  | cons c l ih =>
    unfold maxByKey at h
    cases hl : maxByKey key l with
    | none =>
      rw [hl] at h
      cases h
      rw [maxByKey_eq_none.mp hl]
      simp
    | some b =>
      obtain ⟨hmem, hle⟩ := ih hl
      rw [hl] at h
      simp only at h
      split at h
      · rename_i hlt
        cases h
        refine ⟨List.mem_cons_self, fun d hd => ?_⟩
        rcases List.mem_cons.mp hd with rfl | hd
        · exact le_refl _
        · exact (hle d hd).trans hlt.le
      · rename_i hlt
        cases h
        refine ⟨List.mem_cons_of_mem c hmem, fun d hd => ?_⟩
        rcases List.mem_cons.mp hd with rfl | hd
        · exact not_lt.mp hlt
        · exact hle d hd

end Sorting

end Surface

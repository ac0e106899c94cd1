import Mathlib.Data.List.Forall2

/-!
# Surface.Fallible

Computations that can fail, and lists of them.

* `check_ok`, `lastCheck_ok`: a check in a block is passed when its condition is false.
* `outcomes_ok`, `outcomes_error`: what is said of the results and of the errors of a computation.
* `forM_ok_iff`: all checks of a list are passed.
* `mapM_ok_iff`: the list of results has the result of each element in its place.
* `foldlM_ok_exists`, `foldlM_ne_error`: a run through a list fails where one of its steps does.
* `anyM_some`: a search none of whose tests fails.
-/

namespace Surface

variable {ε α β γ : Type}

theorem bind_ok_iff {x : Except ε α} {f : α → Except ε β} {b : β} :
    x.bind f = .ok b ↔ ∃ a, x = .ok a ∧ f a = .ok b := by
  cases x with
  | error error => exact iff_of_false nofun fun ⟨_, h, _⟩ => (nomatch h)
  | ok a =>
    constructor
    · exact fun h => ⟨a, rfl, h⟩
    · rintro ⟨_, ha, h⟩
      cases ha
      exact h

theorem map_ok_iff {x : Except ε α} {f : α → β} {b : β} :
    x.map f = .ok b ↔ ∃ a, x = .ok a ∧ f a = b := by
  cases x with
  | error error => exact iff_of_false nofun fun ⟨_, h, _⟩ => (nomatch h)
  | ok a => simp [Except.map]

/-! ## Checks -/

/-- A check in front of the rest of a block. -/
theorem check_ok {b : Prop} [Decidable b] {error : ε} {k : γ → Except ε α} {q : Except ε α}
    {a : α} : (if b then throw error >>= k else q) = .ok a ↔ ¬ b ∧ q = .ok a := by
  by_cases h : b
  · rw [if_pos h]
    exact iff_of_false nofun fun hall => hall.1 h
  · rw [if_neg h]
    exact (and_iff_right h).symm

/-- A check at the end of a block. -/
theorem lastCheck_ok {b : Prop} [Decidable b] {error : ε} :
    (if b then throw error else pure () : Except ε Unit) = .ok () ↔ ¬ b := by
  by_cases h : b
  · rw [if_pos h]
    exact iff_of_false nofun (not_not_intro h)
  · rw [if_neg h]
    exact iff_of_true rfl h

/-! ## Errors that do not occur -/

theorem bind_ne_error {x : Except ε α} {f : α → Except ε β} {error : ε} (hx : x ≠ .error error)
    (hf : ∀ a, f a ≠ .error error) : x.bind f ≠ .error error := by
  cases x with
  | error e => exact fun h => hx (congrArg Except.error (Except.error.inj h))
  | ok a => exact hf a

theorem check_ne_error {b : Prop} [Decidable b] {error error' : ε} {k : γ → Except ε α}
    {q : Except ε α} (herror : error' ≠ error) (hq : q ≠ .error error) :
    (if b then throw error' >>= k else q) ≠ .error error := by
  by_cases h : b
  · rw [if_pos h]
    exact fun hthrow => herror (Except.error.inj hthrow)
  · rwa [if_neg h]

/-! ## What holds of either outcome -/

theorem outcomes_ok {p : α → Prop} {q : ε → Prop} {a : α} (h : p a) :
    (∀ a', (.ok a : Except ε α) = .ok a' → p a') ∧
      ∀ error, (.ok a : Except ε α) = .error error → q error :=
  ⟨fun _ heq => Except.ok.inj heq ▸ h, nofun⟩

theorem outcomes_error {p : α → Prop} {q : ε → Prop} {error : ε} (h : q error) :
    (∀ a, (.error error : Except ε α) = .ok a → p a) ∧
      ∀ error', (.error error : Except ε α) = .error error' → q error' :=
  ⟨nofun, fun _ heq => Except.error.inj heq ▸ h⟩

/-! ## Lists -/

theorem forM_ok_iff {check : α → Except ε Unit} {l : List α} :
    l.forM check = .ok () ↔ ∀ a ∈ l, check a = .ok () := by
  induction l with
  | nil => exact iff_of_true rfl fun _ h => (nomatch h)
  | cons a l ih =>
    have hcons : (a :: l).forM check = (check a).bind fun _ => l.forM check := rfl
    rw [hcons, bind_ok_iff, List.forall_mem_cons, ← ih]
    exact ⟨fun ⟨_, ha, hl⟩ => ⟨ha, hl⟩, fun ⟨ha, hl⟩ => ⟨_, ha, hl⟩⟩

theorem mapM_ok_iff {f : α → Except ε β} {l : List α} {r : List β} :
    l.mapM f = .ok r ↔ List.Forall₂ (fun a b => f a = .ok b) l r := by
  induction l generalizing r with
  | nil =>
    rw [List.forall₂_nil_left_iff]
    exact ⟨fun h => (Except.ok.inj h).symm, fun h => congrArg Except.ok h.symm⟩
  | cons a l ih =>
    have hcons : (a :: l).mapM f = (f a).bind fun b => (l.mapM f).map (b :: ·) := by
      rw [List.mapM_cons]
      rfl
    rw [hcons, bind_ok_iff, List.forall₂_cons_left_iff]
    refine exists_congr fun b => ?_
    rw [map_ok_iff]
    constructor
    · rintro ⟨ha, r', hr, rfl⟩
      exact ⟨r', ha, ih.mp hr, rfl⟩
    · rintro ⟨r', ha, hr, rfl⟩
      exact ⟨ha, r', ih.mpr hr, rfl⟩

theorem mem_of_mapM_ok {f : α → Except ε β} {l : List α} {r : List β} (h : l.mapM f = .ok r)
    {b : β} : b ∈ r ↔ ∃ a ∈ l, f a = .ok b := by
  rw [mapM_ok_iff] at h
  induction h with
  | nil => simp
  | cons ha _ ih => rw [List.mem_cons, ih, List.exists_mem_cons_iff, ha, Except.ok.injEq, eq_comm]

theorem foldlM_cons_ok {f : β → α → Except ε β} {a : α} {l : List α} {b c : β} :
    (a :: l).foldlM f b = .ok c ↔ ∃ b', f b a = .ok b' ∧ l.foldlM f b' = .ok c :=
  bind_ok_iff

/-- When a step depends on the element only for whether it fails, so does the whole run. -/
theorem foldlM_ok_exists {f : β → α → Except ε β} {p : α → Prop}
    (h : ∀ b a, (∃ b', f b a = .ok b') ↔ p a) {l : List α} :
    ∀ {b : β}, (∃ c, l.foldlM f b = .ok c) ↔ ∀ a ∈ l, p a := by
  induction l with
  | nil =>
    intro b
    exact iff_of_true ⟨b, rfl⟩ fun _ ha => (nomatch ha)
  | cons a l ih =>
    intro b
    simp only [foldlM_cons_ok]
    rw [List.forall_mem_cons, ← h b a]
    constructor
    · rintro ⟨c, b', hb', hc⟩
      exact ⟨⟨b', hb'⟩, ih.mp ⟨c, hc⟩⟩
    · rintro ⟨⟨b', hb'⟩, hall⟩
      obtain ⟨c, hc⟩ := ih.mpr hall
      exact ⟨c, b', hb', hc⟩

theorem foldlM_ne_error {f : β → α → Except ε β} {error : ε} (h : ∀ b a, f b a ≠ .error error)
    {l : List α} : ∀ {b : β}, l.foldlM f b ≠ .error error := by
  induction l with
  | nil => exact fun h => nomatch h
  | cons a l ih =>
    intro b
    rw [List.foldlM_cons]
    exact bind_ne_error (h _ a) fun _ => ih

/-- A search whose tests do not fail. -/
theorem anyM_some {check : α → Option Bool} {test : α → Bool} {l : List α}
    (h : ∀ a ∈ l, check a = some (test a)) : l.anyM check = some (l.any test) := by
  induction l with
  | nil => rfl
  | cons a l ih =>
    have hrest := ih fun b hb => h b (List.mem_cons_of_mem a hb)
    rw [List.anyM, h a List.mem_cons_self, List.any_cons]
    cases test a with
    | true => rfl
    | false => exact hrest

end Surface

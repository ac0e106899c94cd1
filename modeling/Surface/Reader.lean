import Mathlib.Data.List.Basic

/-!
# Surface.Reader

Readers that take an input from its front, and the exact formats they accept.

* `Feed`: what a state still has to offer, and the state after some of it has been read.
* `Reads feed p F`: the reader `p` returns `a` exactly on the inputs `w ++ v` with `F a w v`, and
  has then read `w`. There is a rule for each way to build a reader.
* `Ends`: a condition on every end of a run, the failures included.
* `Pointer`: feeds that are a position in a list.
* `times`: a reader repeated, for formats in which the value determines its encoding.
-/

namespace Surface

structure Feed (σ β : Type) where
  rest : σ → List β
  advance : σ → Nat → σ
  rest_advance : ∀ s n, rest (advance s n) = (rest s).drop n
  advance_zero : ∀ s, advance s 0 = s
  advance_advance : ∀ s m n, advance (advance s m) n = advance s (m + n)

/-- A reader keeps its state also when it fails. -/
abbrev Reader (σ ε α : Type) := ExceptT ε (StateM σ) α

namespace Reader

variable {σ β ε α γ : Type}

/-- The result of a reader and the state it leaves. -/
def outcome (p : Reader σ ε α) (s : σ) : Except ε α × σ := (p.run).run s

theorem outcome_mk (act : σ → Except ε α × σ) (s : σ) :
    outcome (ExceptT.mk act : Reader σ ε α) s = act s := rfl

theorem outcome_pure (a : α) (s : σ) : outcome (pure a : Reader σ ε α) s = (.ok a, s) := rfl

theorem outcome_throw (error : ε) (s : σ) :
    outcome (throw error : Reader σ ε α) s = (.error error, s) := rfl

theorem outcome_bind (p : Reader σ ε α) (f : α → Reader σ ε γ) (s : σ) :
    outcome (p >>= f) s =
      match outcome p s with
      | (.ok a, t) => outcome (f a) t
      | (.error error, t) => (.error error, t) := by
  have hbind : outcome (p >>= f) s =
      outcome (ExceptT.mk (ExceptT.bindCont f (outcome p s).1)) (outcome p s).2 := rfl
  rw [hbind]
  rcases outcome p s with ⟨r, t⟩
  cases r <;> rfl

/-! ## Every end -/

/-- The result of a reader and the state it leaves meet a condition, also when it fails. -/
def Ends (p : Reader σ ε α) (s : σ) (post : Except ε α → σ → Prop) : Prop :=
  post (outcome p s).1 (outcome p s).2

variable {s : σ}

theorem ends_pure {a : α} {post : Except ε α → σ → Prop} (h : post (.ok a) s) :
    Ends (pure a : Reader σ ε α) s post := h

theorem ends_throw {error : ε} {post : Except ε α → σ → Prop} (h : post (.error error) s) :
    Ends (throw error : Reader σ ε α) s post := h

theorem Ends.mono {p : Reader σ ε α} {post post' : Except ε α → σ → Prop} (h : Ends p s post)
    (hpost : ∀ r t, post r t → post' r t) : Ends p s post' := hpost _ _ h

theorem ends_bind {p : Reader σ ε α} {f : α → Reader σ ε γ} {post : Except ε γ → σ → Prop}
    (mid : α → σ → Prop)
    (hp : Ends p s fun r t =>
      match r with
      | .ok a => mid a t
      | .error error => post (.error error) t)
    (hf : ∀ a t, mid a t → Ends (f a) t post) : Ends (p >>= f) s post := by
  unfold Ends at hp ⊢
  rw [outcome_bind]
  rcases houtcome : outcome p s with ⟨r, t⟩
  rw [houtcome] at hp
  cases r with
  | ok a => exact hf a t hp
  | error error => exact hp

/-- A check in front of the rest of a block. -/
theorem ends_guard {b : Prop} [Decidable b] {error : ε} {k : γ → Reader σ ε α} {q : Reader σ ε α}
    {post : Except ε α → σ → Prop} (hthrow : b → post (.error error) s)
    (hq : ¬ b → Ends q s post) : Ends (if b then throw error >>= k else q) s post := by
  by_cases h : b
  · rw [if_pos h]
    exact hthrow h
  · rw [if_neg h]
    exact hq h

end Reader

section Reads

variable {σ β ε α γ : Type} (feed : Feed σ β)

/-- The reader returns `a` on an input exactly when the input is `w ++ v` with `F a w v`; it has
then read `w`. -/
def Reads (p : Reader σ ε α) (F : α → List β → List β → Prop) : Prop :=
  ∀ s a t, p.outcome s = (.ok a, t) ↔
    ∃ w v, feed.rest s = w ++ v ∧ F a w v ∧ t = feed.advance s w.length

variable {feed}

theorem Reads.congr {p : Reader σ ε α} {F G : α → List β → List β → Prop} (h : Reads feed p F)
    (hFG : ∀ a w v, F a w v ↔ G a w v) : Reads feed p G := by
  intro s a t
  simp only [h s a t, hFG]

theorem reads_pure (a : α) :
    Reads feed (pure a : Reader σ ε α) fun b w _ => b = a ∧ w = [] := by
  intro s b t
  rw [Reader.outcome_pure]
  constructor
  · intro h
    cases h
    exact ⟨[], feed.rest s, rfl, ⟨rfl, rfl⟩, (feed.advance_zero s).symm⟩
  · rintro ⟨w, v, _, ⟨rfl, rfl⟩, rfl⟩
    rw [List.length_nil, feed.advance_zero]

theorem reads_throw (error : ε) :
    Reads feed (throw error : Reader σ ε α) fun _ _ _ => False := by
  intro s b t
  rw [Reader.outcome_throw]
  constructor
  · intro h
    cases h
  · rintro ⟨_, _, _, hfalse, _⟩
    exact hfalse.elim

theorem Reads.bind {p : Reader σ ε α} {f : α → Reader σ ε γ} {F : α → List β → List β → Prop}
    {G : α → γ → List β → List β → Prop} (hp : Reads feed p F) (hf : ∀ a, Reads feed (f a) (G a)) :
    Reads feed (p >>= f) fun c w v =>
      ∃ a u u', w = u ++ u' ∧ F a u (u' ++ v) ∧ G a c u' v := by
  intro s c t
  rw [Reader.outcome_bind]
  constructor
  · intro h
    rcases hps : p.outcome s with ⟨r, m⟩
    rw [hps] at h
    cases r with
    | error error => cases h
    | ok a =>
      obtain ⟨u, v', hrest, hF, rfl⟩ := (hp s a m).mp hps
      obtain ⟨u', v, hrest', hG, rfl⟩ := (hf a _ c t).mp h
      rw [feed.rest_advance, hrest, List.drop_left] at hrest'
      subst hrest'
      refine ⟨u ++ u', v, ?_, ⟨a, u, u', rfl, hF, hG⟩, ?_⟩
      · rw [hrest, List.append_assoc]
      · rw [feed.advance_advance, List.length_append]
  · rintro ⟨w, v, hrest, ⟨a, u, u', rfl, hF, hG⟩, rfl⟩
    rw [List.append_assoc] at hrest
    rw [(hp s a _).mpr ⟨u, u' ++ v, hrest, hF, rfl⟩]
    refine (hf a _ c _).mpr ⟨u', v, ?_, hG, ?_⟩
    · rw [feed.rest_advance, hrest, List.drop_left]
    · rw [feed.advance_advance, List.length_append]

/-- A value that is there under a condition. -/
theorem reads_assert {b : Prop} [Decidable b] {a : α} {error : ε} :
    Reads feed (if b then pure a else throw error : Reader σ ε α) fun c w _ =>
      (b ∧ c = a) ∧ w = [] := by
  by_cases h : b
  · rw [if_pos h]
    exact (reads_pure a).congr fun _ _ _ => and_congr_left fun _ => (and_iff_right h).symm
  · rw [if_neg h]
    exact (reads_throw error).congr fun _ _ _ => iff_of_false id fun hall => h hall.1.1

/-- A check that fails with an error, in front of the rest of a block. -/
theorem Reads.guard {b : Prop} [Decidable b] {error : ε} {k : γ → Reader σ ε α}
    {q : Reader σ ε α} {G : α → List β → List β → Prop} (hq : ¬ b → Reads feed q G) :
    Reads feed (if b then throw error >>= k else q) fun a w v => ¬ b ∧ G a w v := by
  by_cases h : b
  · rw [if_pos h]
    have hthrow : Reads feed (throw error >>= k) fun _ _ _ => False := reads_throw error
    exact hthrow.congr fun _ _ _ => by simp [h]
  · rw [if_neg h]
    exact (hq h).congr fun _ _ _ => by simp [h]

/-- The reader repeated. -/
def times (p : Reader σ ε α) : Nat → Reader σ ε (List α)
  | 0 => pure []
  | n + 1 => do
    let a ← p
    let as ← times p n
    pure (a :: as)

theorem Reads.times {p : Reader σ ε α} {V : α → Prop} {encode : α → List β}
    (hp : Reads feed p fun a w _ => V a ∧ w = encode a) (n : Nat) :
    Reads feed (times p n) fun as w _ =>
      as.length = n ∧ (∀ a ∈ as, V a) ∧ w = as.flatMap encode := by
  induction n with
  | zero =>
    refine (reads_pure []).congr (fun as w _ => ?_)
    constructor
    · rintro ⟨rfl, rfl⟩
      simp
    · rintro ⟨hlength, _, rfl⟩
      have hnil : as = [] := List.eq_nil_of_length_eq_zero hlength
      subst hnil
      exact ⟨rfl, rfl⟩
  | succ n ih =>
    refine (hp.bind fun a => ih.bind fun as => reads_pure (a :: as)).congr (fun as w v => ?_)
    constructor
    · rintro ⟨a, u, u', rfl, ⟨hV, rfl⟩, as', u₁, u₂, rfl, ⟨hlength, hall, rfl⟩, rfl, rfl⟩
      refine ⟨by rw [List.length_cons, hlength], ?_, by simp⟩
      exact List.forall_mem_cons.mpr ⟨hV, hall⟩
    · rintro ⟨hlength, hall, rfl⟩
      cases as with
      | nil => cases hlength
      | cons a as =>
        obtain ⟨hV, hall⟩ := List.forall_mem_cons.mp hall
        refine ⟨a, encode a, as.flatMap encode, List.flatMap_cons, ⟨hV, rfl⟩, as, _, [], ?_,
          ⟨?_, hall, rfl⟩, rfl, rfl⟩
        · rw [List.append_nil]
        · simpa using hlength

end Reads

/-! ## Positions in a list -/

/-- A state that points into a list. -/
structure Pointer (σ β : Type) where
  items : σ → List β
  position : σ → Nat
  position_le : ∀ s, position s ≤ (items s).length
  move : (s : σ) → (n : Nat) → n ≤ (items s).length → σ
  items_move : ∀ s n h, items (move s n h) = items s
  position_move : ∀ s n h, position (move s n h) = n
  move_position : ∀ s, move s (position s) (position_le s) = s
  move_move : ∀ s m n hm hn hn', move (move s m hm) n hn = move s n hn'

namespace Pointer

variable {σ β ε α : Type} (pointer : Pointer σ β)

def feed : Feed σ β where
  rest s := (pointer.items s).drop (pointer.position s)
  advance s n := pointer.move s (min (pointer.position s + n) (pointer.items s).length)
    (Nat.min_le_right ..)
  rest_advance s n := by
    rw [pointer.items_move, pointer.position_move, List.drop_drop]
    by_cases h : pointer.position s + n ≤ (pointer.items s).length
    · rw [Nat.min_eq_left h]
    · rw [Nat.min_eq_right (by omega), List.drop_eq_nil_of_le (Nat.le_refl _),
        List.drop_eq_nil_of_le (by omega)]
  advance_zero s := by
    have hle := pointer.position_le s
    simp only [Nat.add_zero, Nat.min_eq_left hle]
    exact pointer.move_position s
  advance_advance s m n := by
    simp only [pointer.items_move, pointer.position_move]
    rw [pointer.move_move _ _ _ _ _ (Nat.min_le_right ..)]
    congr 1
    omega

/-- A reader that takes the next `n` items, if there are so many, and turns them into a value. -/
theorem reads_next {p : Reader σ ε α} {n : Nat} {V : List β → α → Prop}
    (hV : ∀ w a b, V w a → V w b → a = b)
    (hok : ∀ s (h : pointer.position s + n ≤ (pointer.items s).length),
      ∃ a, V (((pointer.items s).drop (pointer.position s)).take n) a ∧
        p.outcome s = (.ok a, pointer.move s (pointer.position s + n) h))
    (herror : ∀ s, ¬ pointer.position s + n ≤ (pointer.items s).length →
      ∃ error t, p.outcome s = (.error error, t)) :
    Reads pointer.feed p fun a w _ => w.length = n ∧ V w a := by
  intro s b t
  by_cases h : pointer.position s + n ≤ (pointer.items s).length
  · obtain ⟨a, ha, houtcome⟩ := hok s h
    rw [houtcome]
    have hadvance : pointer.feed.advance s n = pointer.move s (pointer.position s + n) h := by
      simp only [feed, Nat.min_eq_left h]
    constructor
    · intro heq
      cases heq
      have hlength : ((pointer.feed.rest s).take n).length = n := by
        simp only [feed, List.length_take, List.length_drop]
        omega
      refine ⟨_, _, (List.take_append_drop n _).symm, ⟨hlength, ha⟩, ?_⟩
      rw [hlength, hadvance]
    · rintro ⟨w, v, hrest, ⟨hlength, hb⟩, rfl⟩
      have hdrop : (pointer.items s).drop (pointer.position s) = w ++ v := hrest
      rw [hdrop, ← hlength, List.take_left] at ha
      rw [hlength, hadvance, hV w a b ha hb]
  · obtain ⟨error, u, houtcome⟩ := herror s h
    rw [houtcome]
    constructor
    · intro heq
      cases heq
    · rintro ⟨w, v, hrest, ⟨hlength, _⟩, _⟩
      have htotal := congrArg List.length hrest
      have hle := pointer.position_le s
      simp only [feed, List.length_drop, List.length_append] at htotal
      omega

end Pointer

end Surface

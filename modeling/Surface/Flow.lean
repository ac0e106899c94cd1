/-!
# Surface.Flow

Programs over a state that may stop early: a linear sequence of stages, each of which either hands
a value to the next one or ends the whole run with the state it has.

* `Flow σ α`: such a program; `stop` ends the run, `bind` sequences.
* `Flow.final`: the state in which the run ends, by an early stop or at its end.
* `Flow.holds`: the weakest precondition, with one postcondition for going on and one for
  stopping. `holds_bind` cuts a sequence into its parts, `final_iff` reads a fact about the final
  state as a precondition, in both directions.
* `Flow.Preserves`: what the program leaves alone, whether it goes on or stops.
-/

namespace Surface

universe u v w

/-- What one program part comes to: a value for the next part, or the end of the run. -/
inductive Outcome (σ : Type u) (α : Type v) where
  | next (a : α) (s : σ)
  | stopped (s : σ)

def Flow (σ : Type u) (α : Type v) := σ → Outcome σ α

namespace Flow

variable {σ : Type u} {α β : Type v}

def stop (f : σ → σ) : Flow σ α := fun s => .stopped (f s)

def read : Flow σ σ := fun s => .next s s

def modify (f : σ → σ) : Flow σ PUnit := fun s => .next ⟨⟩ (f s)

instance : Monad (Flow σ) where
  pure a := fun s => .next a s
  bind f g := fun s =>
    match f s with
    | .next a s' => g a s'
    | .stopped s' => .stopped s'

/-- The state in which the run ends. -/
def final (f : Flow σ α) (s : σ) : σ :=
  match f s with
  | .next _ s' => s'
  | .stopped s' => s'

/-- From `s` the program either goes on with `Q` or stops with `R`. -/
def holds (f : Flow σ α) (Q : α → σ → Prop) (R : σ → Prop) (s : σ) : Prop :=
  match f s with
  | .next a s' => Q a s'
  | .stopped s' => R s'

theorem final_iff {f : Flow σ α} {R : σ → Prop} {s : σ} :
    R (f.final s) ↔ f.holds (fun _ => R) R s := by
  simp only [final, holds]
  cases f s <;> rfl

@[simp] theorem holds_pure {a : α} {Q : α → σ → Prop} {R : σ → Prop} {s : σ} :
    (pure a : Flow σ α).holds Q R s ↔ Q a s := Iff.rfl

@[simp] theorem holds_bind {f : Flow σ α} {g : α → Flow σ β} {Q : β → σ → Prop} {R : σ → Prop}
    {s : σ} : (f >>= g).holds Q R s ↔ f.holds (fun a s' => (g a).holds Q R s') R s := by
  simp only [holds, bind]
  cases f s <;> rfl

@[simp] theorem holds_read {Q : σ → σ → Prop} {R : σ → Prop} {s : σ} :
    read.holds Q R s ↔ Q s s := Iff.rfl

@[simp] theorem holds_ite {c : Prop} [Decidable c] {f g : Flow σ α} {Q : α → σ → Prop}
    {R : σ → Prop} {s : σ} :
    (if c then f else g).holds Q R s ↔ if c then f.holds Q R s else g.holds Q R s := by
  split <;> rfl

/-- Weaken both postconditions. -/
theorem holds_mono {f : Flow σ α} {Q Q' : α → σ → Prop} {R R' : σ → Prop} {s : σ}
    (h : f.holds Q R s) (hQ : ∀ a s', Q a s' → Q' a s') (hR : ∀ s', R s' → R' s') :
    f.holds Q' R' s := by
  simp only [holds] at h ⊢
  cases hf : f s with
  | next a s' => rw [hf] at h; exact hQ a s' h
  | stopped s' => rw [hf] at h; exact hR s' h

theorem holds_and {f : Flow σ α} {Q Q' : α → σ → Prop} {R R' : σ → Prop} {s : σ}
    (h : f.holds Q R s) (h' : f.holds Q' R' s) :
    f.holds (fun a s' => Q a s' ∧ Q' a s') (fun s' => R s' ∧ R' s') s := by
  simp only [holds] at h h' ⊢
  cases hf : f s with
  | next a s' =>
    rw [hf] at h h'
    exact ⟨h, h'⟩
  | stopped s' =>
    rw [hf] at h h'
    exact ⟨h, h'⟩

/-- Two programs in a row, the second proved from what the first leaves behind. -/
theorem holds_seq {f : Flow σ α} {g : α → Flow σ β} {M : α → σ → Prop} {Q : β → σ → Prop}
    {R : σ → Prop} {s : σ} (hf : f.holds M R s) (hg : ∀ a s', M a s' → (g a).holds Q R s') :
    (f >>= g).holds Q R s :=
  holds_bind.mpr (holds_mono hf hg (fun _ h => h))

/-- The first program may stop for a reason of its own. -/
theorem holds_seq_of_stop {f : Flow σ α} {g : α → Flow σ β} {M : α → σ → Prop} {Q : β → σ → Prop}
    {R R' : σ → Prop} {s : σ} (hf : f.holds M R' s) (hR : ∀ s', R' s' → R s')
    (hg : ∀ a s', M a s' → (g a).holds Q R s') : (f >>= g).holds Q R s :=
  holds_seq (holds_mono hf (fun _ _ h => h) hR) hg

/-! ## What a program leaves alone -/

section Preserves

variable {τ : Type w} {view : σ → τ}

def Preserves (view : σ → τ) (f : Flow σ α) : Prop :=
  ∀ s, f.holds (fun _ s' => view s' = view s) (fun s' => view s' = view s) s

theorem preserves_pure (a : α) : (pure a : Flow σ α).Preserves view := fun _ => rfl

theorem preserves_read : (read : Flow σ σ).Preserves view := fun _ => rfl

theorem preserves_modify {f : σ → σ} (h : ∀ s, view (f s) = view s) : (modify f).Preserves view := h

theorem preserves_stop {f : σ → σ} (h : ∀ s, view (f s) = view s) :
    (stop f : Flow σ α).Preserves view := h

theorem Preserves.bind {f : Flow σ α} {g : α → Flow σ β} (hf : f.Preserves view)
    (hg : ∀ a, (g a).Preserves view) : (f >>= g).Preserves view := fun s =>
  holds_seq (hf s) fun a s' hs' =>
    holds_mono (hg a s') (fun _ _ h => h.trans hs') (fun _ h => h.trans hs')

theorem Preserves.ite {c : Prop} [Decidable c] {f g : Flow σ α} (hf : f.Preserves view)
    (hg : g.Preserves view) : (if c then f else g).Preserves view := by
  split
  · exact hf
  · exact hg

theorem Preserves.final {f : Flow σ α} (h : f.Preserves view) (s : σ) :
    view (f.final s) = view s :=
  final_iff.mpr (h s)

end Preserves

end Flow

end Surface

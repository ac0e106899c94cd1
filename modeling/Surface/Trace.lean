import Mathlib.Tactic.Basic

/-!
# Surface.Trace

Runs of a deterministic machine: every state it passes through while it works off a list of
operations, and the invariants of such runs.

* `trace step ops s`: the states passed, the first and the last one included.
* `allSteps`: every operation meets a condition in the state it is applied to.
* `trace_inv`, `trace_keeps`: an invariant the steps keep holds in every state passed.
* `allSteps_inv`: what the invariant and the condition give for one step holds of all of them.
* `trace_iff`: when leaving the invariant is visible at once, the whole run shows the property
  exactly when every step meets the condition.
-/

namespace Surface

universe u v

section Trace

variable {σ : Type u} {ι : Type v} (step : ι → σ → σ)

def trace : List ι → σ → List σ
  | [], s => [s]
  | i :: ops, s => s :: trace ops (step i s)

def allSteps (G : ι → σ → Prop) : List ι → σ → Prop
  | [], _ => True
  | i :: ops, s => G i s ∧ allSteps G ops (step i s)

theorem self_mem_trace (ops : List ι) (s : σ) : s ∈ trace step ops s := by
  cases ops <;> simp [trace]

theorem foldl_mem_trace (ops : List ι) (s : σ) :
    ops.foldl (fun s i => step i s) s ∈ trace step ops s := by
  induction ops generalizing s with
  | nil => exact List.mem_singleton_self s
  | cons i ops ih => exact List.mem_cons_of_mem s (ih (step i s))

variable {step}

theorem allSteps_append {G : ι → σ → Prop} {ops ops' : List ι} {s : σ} :
    allSteps step G (ops ++ ops') s ↔
      allSteps step G ops s ∧ allSteps step G ops' (ops.foldl (fun s i => step i s) s) := by
  induction ops generalizing s with
  | nil => exact (true_and _).to_iff.symm
  | cons i ops ih => simp only [List.cons_append, allSteps, ih, and_assoc, List.foldl_cons]

theorem trace_inv {Inv : σ → Prop} {G : ι → σ → Prop}
    (hkeep : ∀ i s, Inv s → G i s → Inv (step i s)) {ops : List ι} {s : σ} (hs : Inv s)
    (hG : allSteps step G ops s) : ∀ t ∈ trace step ops s, Inv t := by
  induction ops generalizing s with
  | nil =>
    intro t ht
    rw [trace, List.mem_singleton] at ht
    rw [ht]
    exact hs
  | cons i ops ih =>
    obtain ⟨hi, hrest⟩ := hG
    intro t ht
    rcases List.mem_cons.mp ht with rfl | ht
    · exact hs
    · exact ih (hkeep i s hs hi) hrest t ht

theorem allSteps_inv {Inv : σ → Prop} {G P : ι → σ → Prop}
    (hkeep : ∀ i s, Inv s → G i s → Inv (step i s)) (hP : ∀ i s, Inv s → G i s → P i s)
    {ops : List ι} {s : σ} (hs : Inv s) (hG : allSteps step G ops s) : allSteps step P ops s := by
  induction ops generalizing s with
  | nil => trivial
  | cons i ops ih => exact ⟨hP i s hs hG.1, ih (hkeep i s hs hG.1) hG.2⟩

/-- An invariant that every step keeps. -/
theorem trace_keeps {Inv : σ → Prop} (hkeep : ∀ i s, Inv s → Inv (step i s)) {ops : List ι}
    {s : σ} (hs : Inv s) : ∀ t ∈ trace step ops s, Inv t := by
  have hall : ∀ (ops : List ι) (s : σ), allSteps step (fun _ _ => True) ops s := by
    intro ops
    induction ops with
    | nil => exact fun _ => trivial
    | cons i ops ih => exact fun s => ⟨trivial, ih (step i s)⟩
  exact trace_inv (fun i s hinv _ => hkeep i s hinv) hs (hall ops s)

theorem trace_iff {Inv P : σ → Prop} {G : ι → σ → Prop} (hP : ∀ s, Inv s → P s)
    (hkeep : ∀ i s, Inv s → G i s → Inv (step i s))
    (hleave : ∀ i s, Inv s → ¬ G i s → ¬ P (step i s)) {ops : List ι} {s : σ} (hs : Inv s) :
    (∀ t ∈ trace step ops s, P t) ↔ allSteps step G ops s := by
  constructor
  · intro h
    induction ops generalizing s with
    | nil => trivial
    | cons i ops ih =>
      have htail : ∀ t ∈ trace step ops (step i s), P t :=
        fun t ht => h t (List.mem_cons_of_mem s ht)
      by_cases hi : G i s
      · exact ⟨hi, ih (hkeep i s hs hi) htail⟩
      · exact absurd (htail _ (self_mem_trace step ops _)) (hleave i s hs hi)
  · intro hG t ht
    exact hP t (trace_inv hkeep hs hG t ht)

end Trace

end Surface

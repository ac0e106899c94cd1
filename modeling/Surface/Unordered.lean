import Mathlib.Logic.Relation
import Mathlib.Data.List.Perm.Basic

/-!
# Surface.Unordered

A bounded number of tasks in flight, whose results are collected in the order of completion.

* `Buffer.Step`: an input is started while there is room, or some task in flight completes.
* `Buffer.Collects.perm`: whatever the order, the results are those of the inputs, each once.
* `Buffer.collects_of_perm`: with room for all inputs every order is possible.
* `Buffer.inFlight_le`: the bound is kept.
* `Buffer.can_finish`, `Buffer.Step.size_lt`: no run gets stuck, and none goes on forever.
* `writeBack_of_mem`: results written back to different places do not meet.
-/

namespace Surface

universe u v

/-- Inputs not started yet, inputs whose task is in flight, and the results so far. -/
structure Buffer (α : Type u) (β : Type v) where
  waiting : List α
  inFlight : List α
  results : List β

namespace Buffer

variable {α : Type u} {β : Type v}

def start (inputs : List α) : Buffer α β := ⟨inputs, [], []⟩

def finished (results : List β) : Buffer α β := ⟨[], [], results⟩

variable (bound : Nat) (task : α → β)

/-- Tasks start in the order of the inputs and complete in any order. -/
inductive Step : Buffer α β → Buffer α β → Prop where
  | launch (a : α) (waiting inFlight : List α) (results : List β) (h : inFlight.length < bound) :
      Step ⟨a :: waiting, inFlight, results⟩ ⟨waiting, inFlight ++ [a], results⟩
  | complete (waiting before : List α) (a : α) (after : List α) (results : List β) :
      Step ⟨waiting, before ++ a :: after, results⟩
        ⟨waiting, before ++ after, results ++ [task a]⟩

abbrev Steps : Buffer α β → Buffer α β → Prop := Relation.ReflTransGen (Step bound task)

/-- A complete run over the inputs collects these results in this order. -/
def Collects (inputs : List α) (results : List β) : Prop :=
  Steps bound task (start inputs) (finished results)

variable {bound task}

/-! ## Nothing lost, nothing repeated -/

/-- The results there are and those still to come. -/
def expected (task : α → β) (b : Buffer α β) : List β :=
  b.results ++ b.inFlight.map task ++ b.waiting.map task

theorem Step.expected_perm {b c : Buffer α β} (h : Step bound task b c) :
    (c.expected task).Perm (b.expected task) := by
  cases h with
  | launch a waiting inFlight results h => simp [expected]
  | complete waiting before a after results =>
    simp only [expected, List.map_append, List.map_cons, List.append_assoc, List.cons_append,
      List.nil_append]
    exact List.perm_middle.symm.append_left results

theorem Steps.expected_perm {b c : Buffer α β} (h : Steps bound task b c) :
    (c.expected task).Perm (b.expected task) := by
  induction h with
  | refl => exact .refl _
  | tail _ hstep ih => exact hstep.expected_perm.trans ih

theorem Collects.perm {inputs : List α} {results : List β} (h : Collects bound task inputs results) :
    results.Perm (inputs.map task) := by
  have hperm := Steps.expected_perm h
  simpa [expected, start, finished] using hperm

/-! ## The bound -/

theorem Step.inFlight_le {b c : Buffer α β} (h : Step bound task b c)
    (hb : b.inFlight.length ≤ bound) : c.inFlight.length ≤ bound := by
  cases h with
  | launch a waiting inFlight results h =>
    simp only [List.length_append, List.length_cons, List.length_nil]
    omega
  | complete waiting before a after results =>
    simp only [List.length_append, List.length_cons] at hb ⊢
    omega

theorem inFlight_le {inputs : List α} {b : Buffer α β} (h : Steps bound task (start inputs) b) :
    b.inFlight.length ≤ bound := by
  induction h with
  | refl => simp [start]
  | tail _ hstep ih => exact hstep.inFlight_le ih

/-! ## Completion -/

def size (b : Buffer α β) : Nat := 2 * b.waiting.length + b.inFlight.length

/-- Every step brings the run closer to its end. -/
theorem Step.size_lt {b c : Buffer α β} (h : Step bound task b c) : c.size < b.size := by
  cases h with
  | launch a waiting inFlight results h =>
    simp only [size, List.length_append, List.length_cons, List.length_nil]
    omega
  | complete waiting before a after results =>
    simp only [size, List.length_append, List.length_cons]
    omega

/-- As long as there is room for one task, an unfinished run can go on. -/
theorem exists_step (hbound : 0 < bound) (b : Buffer α β) :
    b = finished b.results ∨ ∃ c, Step bound task b c := by
  obtain ⟨waiting, inFlight, results⟩ := b
  cases inFlight with
  | cons a inFlight => exact .inr ⟨_, .complete waiting [] a inFlight results⟩
  | nil =>
    cases waiting with
    | nil => exact .inl rfl
    | cons a waiting => exact .inr ⟨_, .launch a waiting [] results hbound⟩

theorem can_finish (hbound : 0 < bound) (b : Buffer α β) :
    ∃ results, Steps bound task b (finished results) := by
  have hnext : b = finished b.results ∨ ∃ c, Step bound task b c := exists_step hbound b
  rcases hnext with h | ⟨c, hstep⟩
  · exact ⟨b.results, h ▸ .refl⟩
  · have hlt := hstep.size_lt
    obtain ⟨results, hrun⟩ := can_finish hbound c
    exact ⟨results, .head hstep hrun⟩
termination_by b.size

/-- One task after the other is one of the runs. -/
theorem collects_map (hbound : 0 < bound) (inputs : List α) :
    Collects bound task inputs (inputs.map task) := by
  have hrun : ∀ (inputs : List α) (results : List β),
      Steps bound task ⟨inputs, [], results⟩ (finished (results ++ inputs.map task)) := by
    intro inputs
    induction inputs with
    | nil =>
      intro results
      rw [List.map_nil, List.append_nil]
      exact .refl
    | cons a inputs ih =>
      intro results
      have hlaunch : Step bound task ⟨a :: inputs, [], results⟩ ⟨inputs, [a], results⟩ :=
        .launch a inputs [] results hbound
      have hcomplete : Step bound task ⟨inputs, [a], results⟩ ⟨inputs, [], results ++ [task a]⟩ :=
        .complete inputs [] a [] results
      refine .head hlaunch (.head hcomplete ?_)
      have hrest := ih (results ++ [task a])
      rwa [List.append_assoc, List.singleton_append] at hrest
  exact hrun inputs []

theorem launch_all (waiting inFlight : List α) (results : List β)
    (h : (inFlight ++ waiting).length ≤ bound) :
    Steps bound task ⟨waiting, inFlight, results⟩ ⟨[], inFlight ++ waiting, results⟩ := by
  induction waiting generalizing inFlight with
  | nil => rw [List.append_nil]
  | cons a waiting ih =>
    have hroom : inFlight.length < bound := by
      simp only [List.length_append, List.length_cons] at h
      omega
    rw [List.append_cons] at h ⊢
    exact .head (.launch a waiting inFlight results hroom) (ih (inFlight ++ [a]) h)

theorem complete_in_order {order inFlight : List α} (h : order.Perm inFlight)
    (results : List β) :
    Steps bound task ⟨[], inFlight, results⟩ (finished (results ++ order.map task)) := by
  induction order generalizing inFlight results with
  | nil =>
    obtain rfl := List.nil_perm.mp h
    rw [List.map_nil, List.append_nil]
    exact .refl
  | cons a order ih =>
    obtain ⟨before, after, rfl⟩ := List.append_of_mem (h.mem_iff.mp List.mem_cons_self)
    have hrest := ih (h.trans List.perm_middle).cons_inv (results ++ [task a])
    rw [List.append_assoc, List.singleton_append] at hrest
    exact .head (.complete [] before a after results) hrest

/-- With room for all inputs at once the tasks can complete in any order. -/
theorem collects_of_perm {inputs order : List α} (hbound : inputs.length ≤ bound)
    (h : order.Perm inputs) : Collects bound task inputs (order.map task) :=
  (launch_all inputs [] [] hbound).trans (complete_in_order h [])

end Buffer

/-! ## Results that are written back -/

section WriteBack

variable {α : Type u} {β : Type v} {update : β → α → α} {results : List (Nat × β)} {l : List α}

/-- Every result changes the element at its place. -/
def writeBack (update : β → α → α) (results : List (Nat × β)) (l : List α) : List α :=
  results.foldl (fun l result => l.modify result.1 (update result.2)) l

theorem writeBack_of_notMem {i : Nat} (h : ∀ result ∈ results, result.1 ≠ i) :
    (writeBack update results l)[i]? = l[i]? := by
  induction results generalizing l with
  | nil => rfl
  | cons result results ih =>
    obtain ⟨hhead, htail⟩ := List.forall_mem_cons.mp h
    exact (ih htail).trans (List.getElem?_modify_ne _ _ hhead)

/-- Of the results at different places one decides about each place. -/
theorem writeBack_of_mem (hnodup : (results.map Prod.fst).Nodup) {i : Nat} {b : β}
    (h : (i, b) ∈ results) : (writeBack update results l)[i]? = l[i]?.map (update b) := by
  induction results generalizing l with
  | nil => cases h
  | cons result results ih =>
    rw [List.map_cons, List.nodup_cons] at hnodup
    obtain ⟨hout, hnodup⟩ := hnodup
    have hother : ∀ other ∈ results, other.1 ≠ result.1 := fun other hmem hsame =>
      hout (hsame ▸ List.mem_map_of_mem hmem)
    rcases List.mem_cons.mp h with rfl | h
    · exact (writeBack_of_notMem hother).trans (List.getElem?_modify_eq ..)
    · refine (ih hnodup h).trans (congrArg (Option.map (update b)) ?_)
      exact List.getElem?_modify_ne _ _ (hother _ h).symm

end WriteBack

end Surface

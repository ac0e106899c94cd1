import Surface.Ordered
import Surface.Unordered

/-!
# Surface.Gather

Reading results one after the other, with the reasons of those that failed, until one of them ends
the reading.

* `gather_eq`: what is read when nothing ends the reading.
* `gather_perm`: the order of the results is then forgotten, but for that of the values.
* `gather_clear`: no reason and no end means that all of the results were values.
* `GathersFrom`: the same for the results of tasks that complete in any order.
* `GathersFrom.perm`: unless one of the tasks ends the reading, the order does not matter.
* `CollectsBy.eq`: values that are sorted by keys of their own do not tell the order either.
-/

namespace Surface

universe u v w

/-- What one result comes to: a value, a value with a reservation, a failure or the end. -/
inductive Verdict (α : Type u) (ρ : Type v) (σ : Type w) where
  | keep (value : α)
  | reserve (value : α) (reason : ρ)
  | fail (reason : ρ)
  | stop (cause : σ)

namespace Verdict

variable {α : Type u} {ρ : Type v} {σ : Type w}

def value? : Verdict α ρ σ → Option α
  | keep value => some value
  | reserve value _ => some value
  | fail _ => none
  | stop _ => none

def reason? : Verdict α ρ σ → Option ρ
  | keep _ => none
  | reserve _ reason => some reason
  | fail reason => some reason
  | stop _ => none

def cause? : Verdict α ρ σ → Option σ
  | stop cause => some cause
  | keep _ => none
  | reserve _ _ => none
  | fail _ => none

end Verdict

structure Gathered (α : Type u) (ρ : Type v) (σ : Type w) [LinearOrder ρ] where
  values : List α
  reasons : OrdSet ρ
  cause : Option σ

section Gather

variable {α : Type u} {ρ : Type v} {σ : Type w} [LinearOrder ρ]

def gather : List (Verdict α ρ σ) → Gathered α ρ σ → Gathered α ρ σ
  | [], gathered => gathered
  | .keep value :: rest, gathered =>
    gather rest { gathered with values := gathered.values ++ [value] }
  | .reserve value reason :: rest, gathered =>
    gather rest
      { gathered with
        values := gathered.values ++ [value]
        reasons := gathered.reasons.insert reason }
  | .fail reason :: rest, gathered =>
    gather rest { gathered with reasons := gathered.reasons.insert reason }
  | .stop cause :: _, gathered => { gathered with cause := some cause }

variable {verdicts verdicts' : List (Verdict α ρ σ)} {gathered : Gathered α ρ σ}

theorem gather_eq (h : ∀ verdict ∈ verdicts, verdict.cause? = none) :
    gather verdicts gathered =
      ⟨gathered.values ++ verdicts.filterMap Verdict.value?,
        (verdicts.filterMap Verdict.reason?).foldl OrdSet.insert gathered.reasons,
        gathered.cause⟩ := by
  induction verdicts generalizing gathered with
  | nil => simp [gather]
  | cons verdict verdicts ih =>
    obtain ⟨hhead, htail⟩ := List.forall_mem_cons.mp h
    cases verdict with
    | keep value => simp [gather, ih htail, List.filterMap_cons, Verdict.value?, Verdict.reason?]
    | reserve value reason => simp [gather, ih htail, Verdict.value?, Verdict.reason?]
    | fail reason => simp [gather, ih htail, List.filterMap_cons, Verdict.value?, Verdict.reason?]
    | stop cause => cases hhead

/-- In another order the same results leave the same values, in another order, and the same
reasons. -/
theorem gather_perm (hperm : verdicts.Perm verdicts')
    (h : ∀ verdict ∈ verdicts, verdict.cause? = none) :
    (gather verdicts gathered).values.Perm (gather verdicts' gathered).values ∧
      (gather verdicts gathered).reasons = (gather verdicts' gathered).reasons ∧
      (gather verdicts gathered).cause = (gather verdicts' gathered).cause := by
  have h' : ∀ verdict ∈ verdicts', verdict.cause? = none := fun verdict hmem =>
    h verdict (hperm.mem_iff.mpr hmem)
  rw [gather_eq h, gather_eq h']
  refine ⟨(hperm.filterMap _).append_left _, OrdSet.ext_mem fun reason => ?_, rfl⟩
  rw [OrdSet.mem_foldl_insert, OrdSet.mem_foldl_insert, (hperm.filterMap _).mem_iff]

/-- A value that is read is one of the results. -/
theorem mem_gather_values {value : α} (h : value ∈ (gather verdicts gathered).values) :
    value ∈ gathered.values ∨ ∃ verdict ∈ verdicts, verdict.value? = some value := by
  induction verdicts generalizing gathered with
  | nil => exact .inl h
  | cons verdict verdicts ih =>
    have hread : ∀ {read : α} {reasons : OrdSet ρ} {cause : Option σ},
        verdict.value? = some read →
        value ∈ (gather verdicts ⟨gathered.values ++ [read], reasons, cause⟩).values →
        value ∈ gathered.values ∨ ∃ other ∈ verdict :: verdicts, other.value? = some value := by
      intro read reasons cause hvalue hmem
      rcases ih hmem with hold | ⟨other, hother, hsome⟩
      · rcases List.mem_append.mp hold with hold | hnew
        · exact .inl hold
        · rw [List.mem_singleton.mp hnew]
          exact .inr ⟨verdict, List.mem_cons_self, hvalue⟩
      · exact .inr ⟨other, List.mem_cons_of_mem _ hother, hsome⟩
    cases verdict with
    | keep read => exact hread rfl h
    | reserve read reason => exact hread rfl h
    | fail reason =>
      rcases ih h with hold | ⟨other, hother, hsome⟩
      · exact .inl hold
      · exact .inr ⟨other, List.mem_cons_of_mem _ hother, hsome⟩
    | stop cause => exact .inl h

theorem gather_values_sublist (verdicts : List (Verdict α ρ σ)) (gathered : Gathered α ρ σ) :
    (gather verdicts gathered).values.Sublist
      (gathered.values ++ verdicts.filterMap Verdict.value?) := by
  induction verdicts generalizing gathered with
  | nil => exact List.sublist_append_left ..
  | cons verdict verdicts ih =>
    cases verdict with
    | keep value =>
      have hrest := ih { gathered with values := gathered.values ++ [value] }
      rwa [List.append_assoc] at hrest
    | reserve value reason =>
      have hrest := ih
        { gathered with
          values := gathered.values ++ [value]
          reasons := gathered.reasons.insert reason }
      rwa [List.append_assoc] at hrest
    | fail reason => exact ih { gathered with reasons := gathered.reasons.insert reason }
    | stop cause => exact List.sublist_append_left ..

/-- Reasons are never taken back. -/
theorem mem_gather_reasons {reason : ρ} (h : reason ∈ gathered.reasons) :
    reason ∈ (gather verdicts gathered).reasons := by
  induction verdicts generalizing gathered with
  | nil => exact h
  | cons verdict verdicts ih =>
    cases verdict with
    | keep value => exact ih h
    | reserve value other => exact ih (OrdSet.mem_insert.mpr (.inr h))
    | fail other => exact ih (OrdSet.mem_insert.mpr (.inr h))
    | stop cause => exact h

theorem gather_clear (hreasons : (gather verdicts gathered).reasons.isEmpty = true)
    (hcause : (gather verdicts gathered).cause = none) :
    gathered.reasons.isEmpty = true ∧ ∀ verdict ∈ verdicts, ∃ value, verdict = .keep value := by
  have hnone : ∀ {gathered : Gathered α ρ σ} {verdicts : List (Verdict α ρ σ)} {reason : ρ},
      reason ∈ gathered.reasons → ¬(gather verdicts gathered).reasons.isEmpty = true :=
    fun hmem hempty => OrdSet.isEmpty_iff.mp hempty _ (mem_gather_reasons hmem)
  induction verdicts generalizing gathered with
  | nil => exact ⟨hreasons, fun _ hmem => by cases hmem⟩
  | cons verdict verdicts ih =>
    cases verdict with
    | keep value =>
      obtain ⟨hstart, hall⟩ := ih hreasons hcause
      exact ⟨hstart, List.forall_mem_cons.mpr ⟨⟨value, rfl⟩, hall⟩⟩
    | reserve value reason =>
      rw [gather] at hreasons
      exact absurd hreasons (hnone (OrdSet.mem_insert.mpr (.inl rfl)))
    | fail reason =>
      rw [gather] at hreasons
      exact absurd hreasons (hnone (OrdSet.mem_insert.mpr (.inl rfl)))
    | stop cause => cases hcause

/-- Results that are all values are read as they are. -/
theorem gather_values (h : ∀ verdict ∈ verdicts, ∃ value, verdict = .keep value) :
    gather verdicts gathered =
      { gathered with values := gathered.values ++ verdicts.filterMap Verdict.value? } := by
  have hcause : ∀ verdict ∈ verdicts, verdict.cause? = none := fun verdict hmem => by
    obtain ⟨value, rfl⟩ := h verdict hmem
    rfl
  have hreasons : verdicts.filterMap Verdict.reason? = [] :=
    List.filterMap_eq_nil_iff.mpr fun verdict hmem => by
      obtain ⟨value, rfl⟩ := h verdict hmem
      rfl
  rw [gather_eq hcause, hreasons, List.foldl_nil]

end Gather

/-- Results keep the keys of what they are results of. -/
theorem map_filterMap_sublist {α : Type u} {β : Type v} {κ : Type w} {result : β → Option α}
    {key : α → κ} {key' : β → κ} (h : ∀ b a, result b = some a → key a = key' b) (l : List β) :
    ((l.filterMap result).map key).Sublist (l.map key') := by
  induction l with
  | nil => exact .slnil
  | cons b l ih =>
    rw [List.map_cons]
    cases hresult : result b with
    | none =>
      rw [List.filterMap_cons_none hresult]
      exact ih.cons _
    | some a =>
      rw [List.filterMap_cons_some hresult, List.map_cons, h b a hresult]
      exact ih.cons_cons _

/-! ## Results in the order of completion -/

section Tasks

variable {α β γ κ ρ σ : Type u} [LinearOrder ρ]

/-- The results of the tasks of these inputs are read in the order in which the tasks complete. -/
def GathersFrom (bound : Nat) (task : β → γ) (verdict : γ → Verdict α ρ σ) (inputs : List β)
    (start gathered : Gathered α ρ σ) : Prop :=
  ∃ results, Buffer.Collects bound task inputs results ∧
    gathered = gather (results.map verdict) start

variable {bound : Nat} {task : β → γ} {verdict : γ → Verdict α ρ σ} {inputs : List β}
  {start gathered gathered' : Gathered α ρ σ}

theorem exists_gathersFrom (hbound : 0 < bound) (task : β → γ) (verdict : γ → Verdict α ρ σ)
    (inputs : List β) (start : Gathered α ρ σ) :
    GathersFrom bound task verdict inputs start
      (gather ((inputs.map task).map verdict) start) :=
  ⟨_, Buffer.collects_map hbound inputs, rfl⟩

omit [LinearOrder ρ] in
theorem verdicts_perm (verdict : γ → Verdict α ρ σ) {results : List γ}
    (h : Buffer.Collects bound task inputs results) :
    (results.map verdict).Perm (inputs.map fun input => verdict (task input)) := by
  have hperm := h.perm.map verdict
  rwa [List.map_map] at hperm

theorem GathersFrom.values (h : GathersFrom bound task verdict inputs start gathered) {value : α}
    (hvalue : value ∈ gathered.values) :
    value ∈ start.values ∨ ∃ input ∈ inputs, (verdict (task input)).value? = some value := by
  obtain ⟨results, hrun, rfl⟩ := h
  refine (mem_gather_values hvalue).imp_right ?_
  rintro ⟨_, hverdict, hsome⟩
  obtain ⟨input, hinput, rfl⟩ := List.mem_map.mp ((verdicts_perm verdict hrun).mem_iff.mp hverdict)
  exact ⟨input, hinput, hsome⟩

theorem GathersFrom.reasons (h : GathersFrom bound task verdict inputs start gathered) {reason : ρ}
    (hreason : reason ∈ start.reasons) : reason ∈ gathered.reasons := by
  obtain ⟨results, -, rfl⟩ := h
  exact mem_gather_reasons hreason

theorem GathersFrom.nil (h : GathersFrom bound task verdict [] start gathered) :
    gathered = start := by
  obtain ⟨results, hrun, rfl⟩ := h
  rw [List.perm_nil.mp hrun.perm]
  rfl

/-- Without reasons and without an end, every task came to a value. -/
theorem GathersFrom.clear (h : GathersFrom bound task verdict inputs start gathered)
    (hreasons : gathered.reasons.isEmpty = true) (hcause : gathered.cause = none) :
    start.reasons.isEmpty = true ∧ start.cause = none ∧
      ∀ input ∈ inputs, ∃ value ∈ gathered.values, verdict (task input) = .keep value := by
  obtain ⟨results, hrun, rfl⟩ := h
  obtain ⟨hstart, hall⟩ := gather_clear hreasons hcause
  have hread : gather (results.map verdict) start =
      { start with values := start.values ++ (results.map verdict).filterMap Verdict.value? } :=
    gather_values hall
  rw [hread] at hcause ⊢
  refine ⟨hstart, hcause, fun input hinput => ?_⟩
  have hverdict := (verdicts_perm verdict hrun).mem_iff.mpr (List.mem_map_of_mem hinput)
  obtain ⟨value, hkeep⟩ := hall _ hverdict
  have hvalue : (verdict (task input)).value? = some value := by rw [hkeep]; rfl
  exact ⟨value, List.mem_append.mpr (.inr (List.mem_filterMap.mpr ⟨_, hverdict, hvalue⟩)), hkeep⟩

theorem GathersFrom.perm (h : GathersFrom bound task verdict inputs start gathered)
    (h' : GathersFrom bound task verdict inputs start gathered')
    (hends : ∀ input ∈ inputs, (verdict (task input)).cause? = none) :
    gathered.values.Perm gathered'.values ∧ gathered.reasons = gathered'.reasons ∧
      gathered.cause = gathered'.cause := by
  obtain ⟨results, hrun, rfl⟩ := h
  obtain ⟨results', hrun', rfl⟩ := h'
  refine gather_perm ((verdicts_perm verdict hrun).trans (verdicts_perm verdict hrun').symm) ?_
  intro _ hverdict
  obtain ⟨input, hinput, rfl⟩ := List.mem_map.mp ((verdicts_perm verdict hrun).mem_iff.mp hverdict)
  exact hends input hinput

/-- Inputs with different keys come to values with different keys. -/
theorem GathersFrom.nodup (h : GathersFrom bound task verdict inputs start gathered) {key : α → κ}
    {key' : β → κ} (hkeys : ∀ input value, (verdict (task input)).value? = some value →
      key value = key' input) (hstart : start.values = []) (hnodup : (inputs.map key').Nodup) :
    (gathered.values.map key).Nodup := by
  obtain ⟨results, hrun, rfl⟩ := h
  have hvalues : ((results.map verdict).filterMap Verdict.value?).Perm
      (inputs.filterMap fun input => (verdict (task input)).value?) := by
    have hperm := (verdicts_perm verdict hrun).filterMap Verdict.value?
    rwa [List.filterMap_map (l := inputs)] at hperm
  have hall := (hvalues.map key).nodup_iff.mpr
    (hnodup.sublist (map_filterMap_sublist hkeys inputs))
  have hsub := gather_values_sublist (results.map verdict) start
  rw [hstart, List.nil_append] at hsub
  exact hall.sublist (hsub.map key)

end Tasks

/-! ## Values in the order of their keys -/

section Keyed

variable {α β : Type u} {κ : Type w} [LinearOrder κ]

/-- Tasks that complete in any order, and what they come to sorted by a key. -/
def CollectsBy (key : α → κ) (bound : Nat) (task : β → Option α) (inputs : List β)
    (values : List α) : Prop :=
  ∃ results, Buffer.Collects bound task inputs results ∧
    values = sortBy key (results.filterMap id)

/-- One task after the other. -/
def collectBy (key : α → κ) (task : β → Option α) (inputs : List β) : List α :=
  sortBy key (inputs.filterMap task)

variable {key : α → κ} {bound : Nat} {task : β → Option α} {inputs : List β} {values : List α}

theorem collectsBy_collectBy (hbound : 0 < bound) (inputs : List β) :
    CollectsBy key bound task inputs (collectBy key task inputs) := by
  refine ⟨inputs.map task, Buffer.collects_map hbound inputs, ?_⟩
  rw [List.filterMap_map]
  rfl

theorem CollectsBy.perm (h : CollectsBy key bound task inputs values) :
    values.Perm (inputs.filterMap task) := by
  obtain ⟨results, hrun, rfl⟩ := h
  have hperm := hrun.perm.filterMap id
  rw [List.filterMap_map] at hperm
  exact (sortBy_perm key _).trans hperm

theorem CollectsBy.mem_iff (h : CollectsBy key bound task inputs values) {a : α} :
    a ∈ values ↔ ∃ input ∈ inputs, task input = some a := by
  rw [h.perm.mem_iff, List.mem_filterMap]

omit [LinearOrder κ] in
/-- Inputs at different places come to values with different keys. -/
theorem filterMap_keys_nodup {place : β → κ}
    (hplace : ∀ input a, task input = some a → key a = place input)
    (hnodup : (inputs.map place).Nodup) : ((inputs.filterMap task).map key).Nodup :=
  hnodup.sublist (map_filterMap_sublist hplace inputs)

theorem CollectsBy.eq (h : CollectsBy key bound task inputs values) (place : β → κ)
    (hplace : ∀ input a, task input = some a → key a = place input)
    (hnodup : (inputs.map place).Nodup) : values = collectBy key task inputs := by
  have hperm := h.perm
  obtain ⟨results, hrun, rfl⟩ := h
  have hvalues := (sortBy_perm key _).symm.trans hperm
  refine sortBy_eq_of_perm hvalues ((hvalues.map key).nodup_iff.mpr ?_)
  exact filterMap_keys_nodup hplace hnodup

theorem CollectsBy.nodup (h : CollectsBy key bound task inputs values) (place : β → κ)
    (hplace : ∀ input a, task input = some a → key a = place input)
    (hnodup : (inputs.map place).Nodup) : (values.map key).Nodup :=
  (h.perm.map key).nodup_iff.mpr (filterMap_keys_nodup hplace hnodup)

end Keyed

end Surface

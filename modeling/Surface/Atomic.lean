import Mathlib.Tactic.Basic
import Mathlib.Logic.Function.Basic
import Surface.Trace

/-!
# Surface.Atomic

Programs made of atomic steps on a state, run alone or side by side.

* `Program`: a step has a label, changes the state, and chooses the rest by the state it met.
* `visited`, `outcome`: the state after each step of a run alone, and its end. A run that is
  stopped between two steps leaves the start or one of `visited`.
* `Meets`: a condition on every state passed and one on the end; `meets_iff` ties it to runs, and
  there is a rule for each way to build a program.
* `Within`: a bound on the number of steps.
* `Every`, `Until`: a condition on all steps, and on those before a last part.
* `Pool`: several programs on one state, one step at a time in the order of a schedule.
* `Cooperates`, `Cooperative.ok_iff`: programs that only ask of others to keep a relation. A step
  outside its guard is an error, so the guards decide whether all of them succeed.
-/

namespace Surface

inductive Program (ι σ α : Type) where
  | done (a : α)
  | step (label : ι) (update : σ → σ) (next : σ → Program ι σ α)

namespace Program

variable {ι σ α β ε : Type}

def bind : Program ι σ α → (α → Program ι σ β) → Program ι σ β
  | .done a, f => f a
  | .step label update next, f => .step label update fun s => (next s).bind f

instance : Monad (Program ι σ) where
  pure := .done
  bind := bind

/-- One step with a result. -/
def atomic (label : ι) (act : σ → α × σ) : Program ι σ α :=
  .step label (fun s => (act s).2) fun s => .done (act s).1

/-- The error of a program that has failed. -/
def error? : Program ι σ (Except ε α) → Option ε
  | .done (.error error) => some error
  | _ => none

/-! ## A run alone -/

def visited : Program ι σ α → σ → List (ι × σ)
  | .done _, _ => []
  | .step label update next, s => (label, update s) :: (next s).visited (update s)

def outcome : Program ι σ α → σ → α × σ
  | .done a, s => (a, s)
  | .step _ update next, s => (next s).outcome (update s)

/-- From `s`, the state after every step meets `during`, and the end meets `post`. -/
def Meets : Program ι σ α → σ → (ι → σ → Prop) → (α → σ → Prop) → Prop
  | .done a, s, _, post => post a s
  | .step label update next, s, during, post =>
    during label (update s) ∧ (next s).Meets (update s) during post

variable {during : ι → σ → Prop} {post : α → σ → Prop} {s : σ}

theorem meets_iff {p : Program ι σ α} :
    p.Meets s during post ↔
      (∀ x ∈ p.visited s, during x.1 x.2) ∧ post (p.outcome s).1 (p.outcome s).2 := by
  induction p generalizing s with
  | done a => simp [Meets, visited, outcome]
  | step label update next ih =>
    simp only [Meets, visited, outcome, List.forall_mem_cons]
    rw [ih s, and_assoc]

@[simp] theorem meets_atomic {label : ι} {act : σ → α × σ} :
    (atomic label act).Meets s during post ↔ during label (act s).2 ∧ post (act s).1 (act s).2 :=
  Iff.rfl

@[simp] theorem meets_bind {p : Program ι σ α} {f : α → Program ι σ β} {post : β → σ → Prop} :
    (p >>= f).Meets s during post ↔
      p.Meets s during fun a t => (f a).Meets t during post := by
  induction p generalizing s with
  | done a => rfl
  | step label update next ih => exact and_congr Iff.rfl (ih s)

/-- What follows an error of a fallible program is not run. -/
@[simp] theorem meets_run_bind {x : ExceptT ε (Program ι σ) α}
    {f : α → ExceptT ε (Program ι σ) β} {post : Except ε β → σ → Prop} :
    (x >>= f).run.Meets s during post ↔
      x.run.Meets s during fun r t =>
        match r with
        | .ok a => (f a).run.Meets t during post
        | .error error => post (.error error) t := by
  have hbind : (x >>= f).run = x.run >>= ExceptT.bindCont f := rfl
  have hpost : ∀ (r : Except ε α) (t : σ), (Meets (ExceptT.bindCont f r) t during post) =
      match r with
      | .ok a => (f a).run.Meets t during post
      | .error error => post (.error error) t := by
    intro r t
    cases r <;> rfl
  rw [hbind, meets_bind]
  simp only [hpost]

@[simp] theorem meets_lift_bind {p : Program ι σ α} {f : α → ExceptT ε (Program ι σ) β}
    {post : Except ε β → σ → Prop} :
    (ExceptT.lift p >>= f).run.Meets s during post ↔
      p.Meets s during fun a t => (f a).run.Meets t during post := by
  have hbind : (ExceptT.lift p >>= f).run = (p >>= fun a => (f a).run) := by
    show (p.bind fun a => done (.ok a)).bind (ExceptT.bindCont f) = p.bind fun a => (f a).run
    induction p with
    | done a => rfl
    | step label update next ih =>
      simp only [bind, step.injEq, true_and]
      funext t
      exact ih t
  rw [hbind, meets_bind]

theorem Meets.mono {p : Program ι σ α} {during' : ι → σ → Prop} {post' : α → σ → Prop}
    (h : p.Meets s during post) (hduring : ∀ i t, during i t → during' i t)
    (hpost : ∀ a t, post a t → post' a t) : p.Meets s during' post' := by
  rw [meets_iff] at h ⊢
  exact ⟨fun x hx => hduring _ _ (h.1 x hx), hpost _ _ h.2⟩

/-- The rule for a step whose errors need no more than `during`. -/
theorem Meets.run_bind (mid : α → σ → Prop) {x : ExceptT ε (Program ι σ) α}
    {f : α → ExceptT ε (Program ι σ) β} {post : Except ε β → σ → Prop}
    (hx : x.run.Meets s during fun r t => ∀ a, r = .ok a → mid a t)
    (hf : ∀ a t, mid a t → (f a).run.Meets t during post)
    (herror : ∀ error t, post (.error error) t) : (x >>= f).run.Meets s during post := by
  refine meets_run_bind.mpr (hx.mono (fun _ _ h => h) (fun r t h => ?_))
  cases r with
  | ok a => exact hf a t (h a rfl)
  | error error => exact herror error t

/-! ## The length of a run -/

/-- The program ends within so many steps, whatever states it meets. -/
def Within : Nat → Program ι σ α → Prop
  | _, .done _ => True
  | 0, .step _ _ _ => False
  | n + 1, .step _ _ next => ∀ s, Within n (next s)

theorem Within.mono {p : Program ι σ α} : ∀ {m n : Nat}, Within m p → m ≤ n → Within n p := by
  induction p with
  | done a =>
    intro m n _ _
    cases n <;> trivial
  | step label update next ih =>
    intro m n h hle
    cases m with
    | zero => exact h.elim
    | succ m =>
      cases n with
      | zero => omega
      | succ n => exact fun s => ih s (h s) (by omega)

theorem within_atomic {label : ι} {act : σ → α × σ} : Within 1 (atomic label act) :=
  fun _ => trivial

theorem Within.bind {p : Program ι σ α} {f : α → Program ι σ β} {n : Nat}
    (hf : ∀ a, Within n (f a)) : ∀ {m : Nat}, Within m p → Within (m + n) (p >>= f) := by
  induction p with
  | done a =>
    intro m _
    exact (hf a).mono (Nat.le_add_left n m)
  | step label update next ih =>
    intro m h
    cases m with
    | zero => exact h.elim
    | succ m =>
      rw [Nat.succ_add]
      exact fun s => ih s (h s)

theorem Within.run_bind {x : ExceptT ε (Program ι σ) α} {f : α → ExceptT ε (Program ι σ) β}
    {m n : Nat} (hx : Within m x.run) (hf : ∀ a, Within n (f a).run) :
    Within (m + n) (x >>= f).run := by
  refine Within.bind (f := ExceptT.bindCont f) (fun r => ?_) hx
  cases r with
  | ok a => exact hf a
  | error error => cases n <;> trivial

/-! ## The labels of the steps -/

section Labels

variable {P : ι → Prop}

/-- All steps have labels in `P`, whatever states they meet. -/
def Every (P : ι → Prop) : Program ι σ α → Prop
  | .done _ => True
  | .step label _ next => P label ∧ ∀ s, (next s).Every P

theorem every_atomic {label : ι} {act : σ → α × σ} :
    (atomic label act).Every P ↔ P label :=
  and_iff_left fun _ => trivial

theorem Every.bind {p : Program ι σ α} {f : α → Program ι σ β} (hp : p.Every P)
    (hf : ∀ a, (f a).Every P) : (p >>= f).Every P := by
  induction p with
  | done a => exact hf a
  | step label update next ih => exact ⟨hp.1, fun s => ih s (hp.2 s)⟩

theorem Every.run_bind {x : ExceptT ε (Program ι σ) α} {f : α → ExceptT ε (Program ι σ) β}
    (hx : x.run.Every P) (hf : ∀ a, (f a).run.Every P) : (x >>= f).run.Every P := by
  refine Every.bind (f := ExceptT.bindCont f) hx (fun r => ?_)
  cases r with
  | ok a => exact hf a
  | error error => trivial

/-- Steps with labels in `P`, up to an error or to where the program goes on as `last`. -/
inductive Until (P : ι → Prop) (last : Program ι σ (Except ε α)) :
    Program ι σ (Except ε α) → Prop where
  | last : Until P last last
  | error (error : ε) : Until P last (.done (.error error))
  | step {label : ι} {update : σ → σ} {next : σ → Program ι σ (Except ε α)} (hlabel : P label)
      (hnext : ∀ s, Until P last (next s)) : Until P last (.step label update next)

theorem Until.run_bind {last : Program ι σ (Except ε β)} {x : ExceptT ε (Program ι σ) α}
    {f : α → ExceptT ε (Program ι σ) β} (hx : x.run.Every P)
    (hf : ∀ a, Until P last (f a).run) : Until P last (x >>= f).run := by
  have hgoal : ∀ p : Program ι σ (Except ε α), p.Every P →
      Until P last (p.bind (ExceptT.bindCont f)) := by
    intro p
    induction p with
    | done r =>
      intro _
      cases r with
      | ok a => exact hf a
      | error error => exact .error error
    | step label update next ih => exact fun h => .step h.1 fun s => ih s (h.2 s)
  exact hgoal x.run hx

end Labels

/-! ## Steps of others in between -/

variable (R : σ → σ → Prop) (G : ι → σ → Prop)

/-- Under the interference `R`, a step that meets its guard is itself such an interference, a step
that does not ends the program with an error, and nothing else does. -/
def Cooperates : Program ι σ (Except ε α) → σ → (α → σ → Prop) → Prop
  | .done r, s, post => ∃ a, r = .ok a ∧ ∀ t, R s t → post a t
  | .step label update next, s, post => ∀ t, R s t →
    (G label t → R t (update t) ∧ (next t).Cooperates (update t) post) ∧
      (¬ G label t → ∃ error, next t = .done (.error error))

variable {R G}

theorem Cooperates.interfere (htrans : ∀ a b c, R a b → R b c → R a c)
    {p : Program ι σ (Except ε α)} {post : α → σ → Prop} {s t : σ}
    (h : p.Cooperates R G s post) (hst : R s t) : p.Cooperates R G t post := by
  cases p with
  | done r =>
    obtain ⟨a, hr, hpost⟩ := h
    exact ⟨a, hr, fun u htu => hpost u (htrans s t u hst htu)⟩
  | step label update next => exact fun u htu => h u (htrans s t u hst htu)

theorem cooperates_atomic {label : ι} {act : σ → Except ε α × σ} {post : α → σ → Prop} {s : σ} :
    (atomic label act).Cooperates R G s post ↔ ∀ t, R s t →
      (G label t → R t (act t).2 ∧ ∃ a, (act t).1 = .ok a ∧ ∀ u, R (act t).2 u → post a u) ∧
        (¬ G label t → ∃ error, (act t).1 = .error error) := by
  simp only [atomic, Cooperates, done.injEq]

theorem Cooperates.bind (hrefl : ∀ s, R s s) {x : ExceptT ε (Program ι σ) α}
    {f : α → ExceptT ε (Program ι σ) β} {mid : α → σ → Prop} {post : β → σ → Prop}
    (hf : ∀ a t, mid a t → (f a).run.Cooperates R G t post) {s : σ}
    (hx : x.run.Cooperates R G s mid) : (x >>= f).run.Cooperates R G s post := by
  have hgoal : ∀ (p : Program ι σ (Except ε α)) (s : σ), p.Cooperates R G s mid →
      (p.bind (ExceptT.bindCont f)).Cooperates R G s post := by
    intro p
    induction p with
    | done r =>
      intro s h
      obtain ⟨a, hr, hmid⟩ := h
      subst hr
      exact hf a s (hmid s (hrefl s))
    | step label update next ih =>
      intro s h t hst
      obtain ⟨hkeep, hstray⟩ := h t hst
      refine ⟨fun hG => ⟨(hkeep hG).1, ih t _ (hkeep hG).2⟩, fun hG => ?_⟩
      obtain ⟨error, herror⟩ := hstray hG
      refine ⟨error, ?_⟩
      show (next t).bind (ExceptT.bindCont f) = _
      rw [herror]
      rfl
  exact hgoal x.run s hx

end Program

/-! ## Programs side by side -/

structure Pool (κ ι σ α : Type) where
  state : σ
  programs : κ → Program ι σ α

namespace Pool

variable {κ ι σ α ε : Type} [DecidableEq κ]

/-- The next step of one program; one that has ended does nothing. -/
def step (c : κ) (pool : Pool κ ι σ α) : Pool κ ι σ α :=
  match pool.programs c with
  | .done _ => pool
  | .step _ update next =>
    ⟨update pool.state, Function.update pool.programs c (next pool.state)⟩

def run (schedule : List κ) (pool : Pool κ ι σ α) : Pool κ ι σ α :=
  schedule.foldl (fun pool c => pool.step c) pool

/-- The step a program is about to take meets a condition. -/
def Ready (G : ι → σ → Prop) (c : κ) (pool : Pool κ ι σ α) : Prop :=
  match pool.programs c with
  | .done _ => True
  | .step label _ _ => G label pool.state

theorem step_done {pool : Pool κ ι σ α} {c : κ} {a : α} (h : pool.programs c = .done a) :
    pool.step c = pool := by
  unfold step
  rw [h]

theorem step_step {pool : Pool κ ι σ α} {c : κ} {label : ι} {update : σ → σ}
    {next : σ → Program ι σ α} (h : pool.programs c = .step label update next) :
    pool.step c = ⟨update pool.state, Function.update pool.programs c (next pool.state)⟩ := by
  unfold step
  rw [h]

theorem programs_step_self {pool : Pool κ ι σ α} {c : κ} {label : ι} {update : σ → σ}
    {next : σ → Program ι σ α} (h : pool.programs c = .step label update next) :
    (pool.step c).programs c = next pool.state := by
  rw [step_step h]
  exact Function.update_self ..

/-- A step of one program leaves the others where they are. -/
theorem programs_step_of_ne {pool : Pool κ ι σ α} {c d : κ} (h : c ≠ d) :
    (pool.step d).programs c = pool.programs c := by
  cases hd : pool.programs d with
  | done a => rw [step_done hd]
  | step label update next =>
    rw [step_step hd]
    exact Function.update_of_ne h _ _

/-- What has ended stays as it is. -/
theorem done_step {pool : Pool κ ι σ α} {c d : κ} {a : α} (h : pool.programs c = .done a) :
    (pool.step d).programs c = .done a := by
  by_cases hd : c = d
  · subst hd
    rw [step_done h, h]
  · rw [programs_step_of_ne hd, h]

theorem done_run {c : κ} {a : α} {schedule : List κ} :
    ∀ {pool : Pool κ ι σ α}, pool.programs c = .done a →
      (pool.run schedule).programs c = .done a := by
  induction schedule with
  | nil => exact fun h => h
  | cons d schedule ih => exact fun h => ih (done_step h)

/-- A program that gets as many turns as it has steps comes to its end. -/
theorem run_done {c : κ} {schedule : List κ} :
    ∀ {pool : Pool κ ι σ α} {n : Nat}, (pool.programs c).Within n → n ≤ schedule.count c →
      ∃ a, (pool.run schedule).programs c = .done a := by
  induction schedule with
  | nil =>
    intro pool n hwithin hle
    have hzero : n = 0 := by simpa using hle
    subst hzero
    cases hc : pool.programs c with
    | done a => exact ⟨a, hc⟩
    | step label update next =>
      rw [hc] at hwithin
      exact hwithin.elim
  | cons d schedule ih =>
    intro pool n hwithin hle
    cases hc : pool.programs c with
    | done a => exact ⟨a, done_run hc⟩
    | step label update next =>
      by_cases hd : d = c
      · subst hd
        rw [hc] at hwithin
        cases n with
        | zero => exact hwithin.elim
        | succ n =>
          rw [List.count_cons_self] at hle
          have hnext : ((pool.step d).programs d).Within n := by
            rw [step_step hc]
            simpa using hwithin pool.state
          exact ih hnext (by omega)
      · rw [List.count_cons_of_ne hd] at hle
        have hsame : ((pool.step d).programs c).Within n := by
          rwa [programs_step_of_ne (Ne.symm hd)]
        exact ih hsame hle

/-! ## Cooperation -/

/-- Every program cooperates from the state the pool is in. -/
def Cooperative (R : σ → σ → Prop) (G : ι → σ → Prop) (post : α → σ → Prop)
    (pool : Pool κ ι σ (Except ε α)) : Prop :=
  ∀ c, (pool.programs c).Cooperates R G pool.state post

variable {R : σ → σ → Prop} {G : ι → σ → Prop} {post : α → σ → Prop}
  {pool : Pool κ ι σ (Except ε α)}

/-- A step of one program that meets its guard is an interference to the others. -/
theorem Cooperative.step (hrefl : ∀ s, R s s) (htrans : ∀ a b c, R a b → R b c → R a c) (c : κ)
    (h : pool.Cooperative R G post) (hready : pool.Ready G c) :
    (pool.step c).Cooperative R G post := by
  cases hc : pool.programs c with
  | done r => rwa [step_done hc]
  | step label update next =>
    rw [step_step hc]
    rw [Ready, hc] at hready
    have hown := h c
    rw [hc] at hown
    obtain ⟨hinterference, hnext⟩ := (hown pool.state (hrefl _)).1 hready
    intro d
    by_cases hd : d = c
    · subst hd
      simpa using hnext
    · simpa [Function.update_of_ne hd] using (h d).interfere htrans hinterference

theorem Cooperative.stray (hrefl : ∀ s, R s s) {c : κ} (h : pool.Cooperative R G post)
    (hready : ¬ pool.Ready G c) : ∃ error, (pool.step c).programs c = .done (.error error) := by
  cases hc : pool.programs c with
  | done r =>
    rw [Ready, hc] at hready
    exact absurd trivial hready
  | step label update next =>
    rw [Ready, hc] at hready
    have hown := h c
    rw [hc] at hown
    obtain ⟨error, herror⟩ := (hown pool.state (hrefl _)).2 hready
    refine ⟨error, ?_⟩
    rw [step_step hc]
    simpa using herror

theorem Cooperative.run (hrefl : ∀ s, R s s) (htrans : ∀ a b c, R a b → R b c → R a c)
    {schedule : List κ} : ∀ {pool : Pool κ ι σ (Except ε α)}, pool.Cooperative R G post →
      allSteps Pool.step (fun c pool => pool.Ready G c) schedule pool →
      (pool.run schedule).Cooperative R G post := by
  induction schedule with
  | nil => exact fun h _ => h
  | cons c schedule ih =>
    intro pool h hready
    exact ih (h.step hrefl htrans c hready.1) hready.2

/-- No program fails as long as every step meets its guard, and only then. -/
theorem Cooperative.ok_iff (hrefl : ∀ s, R s s) (htrans : ∀ a b c, R a b → R b c → R a c)
    {schedule : List κ} : ∀ {pool : Pool κ ι σ (Except ε α)}, pool.Cooperative R G post →
      (∀ c, ∃ r, (pool.run schedule).programs c = .done r) →
      ((∀ c, ∃ a, (pool.run schedule).programs c = .done (.ok a)) ↔
        allSteps Pool.step (fun c pool => pool.Ready G c) schedule pool) := by
  intro pool h hdone
  constructor
  · intro hok
    induction schedule generalizing pool with
    | nil => trivial
    | cons c schedule ih =>
      by_cases hready : pool.Ready G c
      · exact ⟨hready, ih (h.step hrefl htrans c hready) hdone hok⟩
      · obtain ⟨error, herror⟩ := h.stray hrefl hready
        obtain ⟨a, ha⟩ := hok c
        have hend : ((pool.step c).run schedule).programs c = .done (.error error) :=
          done_run herror
        change ((pool.step c).run schedule).programs c = .done (.ok a) at ha
        rw [hend] at ha
        cases ha
  · intro hready c
    obtain ⟨r, hr⟩ := hdone c
    have hend := h.run hrefl htrans hready c
    rw [hr] at hend
    obtain ⟨a, ha, _⟩ := hend
    exact ⟨a, by rw [hr, ha]⟩

omit [DecidableEq κ] in
/-- The result of a program that has ended, in the state of the pool. -/
theorem Cooperative.result (hrefl : ∀ s, R s s) {c : κ} {a : α} (h : pool.Cooperative R G post)
    (hc : pool.programs c = .done (.ok a)) : post a pool.state := by
  have hend := h c
  rw [hc] at hend
  obtain ⟨b, hb, hpost⟩ := hend
  cases hb
  exact hpost _ (hrefl _)

end Pool

end Surface

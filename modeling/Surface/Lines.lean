import Surface.Template

/-!
# Surface.Lines

The lines of a text that is written to a terminal.

* `Clean`: no control character but the line feed, so nothing moves the cursor or changes a color.
* `SameLines`: two clean texts with as many lines.
* `cleanTerminal`: what is cleaned stays within its line, whatever it was.
-/

namespace Surface

/-- Without control characters but line feeds. -/
def Clean (text : String) : Prop := ∀ c ∈ text.toList, isControl c = true → c = '\n'

/-- Every line ends with its line feed. -/
def lineCount (text : String) : Nat := text.toList.count '\n'

def SameLines (a b : String) : Prop := Clean a ∧ Clean b ∧ lineCount a = lineCount b

theorem clean_empty : Clean "" := fun c hc => absurd hc (by simp)

theorem Clean.append {a b : String} (ha : Clean a) (hb : Clean b) : Clean (a ++ b) := by
  intro c hc
  rw [String.toList_append, List.mem_append] at hc
  exact hc.elim (ha c) (hb c)

theorem lineCount_append (a b : String) : lineCount (a ++ b) = lineCount a + lineCount b := by
  rw [lineCount, String.toList_append, List.count_append]
  rfl

theorem sameLines_stable : Stable SameLines where
  empty := ⟨clean_empty, clean_empty, rfl⟩
  append := by
    rintro a b a' b' ⟨ha, hb, hab⟩ ⟨ha', hb', hab'⟩
    refine ⟨ha.append ha', hb.append hb', ?_⟩
    rw [lineCount_append, lineCount_append, hab, hab']

theorem clean_literal {text : String} {cs : List Char} (htext : text = String.ofList cs)
    (h : cs.all (fun c => !isControl c || c == '\n') = true) : Clean text := by
  refine of_literal (P := fun cs => ∀ c ∈ cs, isControl c = true → c = '\n') htext ?_
  intro c hc hcontrol
  have hc' := List.all_eq_true.mp h c hc
  rw [hcontrol, Bool.not_true, Bool.false_or] at hc'
  exact beq_iff_eq.mp hc'

@[simp low] theorem sameLines_self {text : String} : SameLines text text ↔ Clean text :=
  ⟨fun h => h.1, fun h => ⟨h, h, rfl⟩⟩

theorem sameLines_literal {text : String} {cs : List Char} (htext : text = String.ofList cs)
    (h : cs.all (fun c => !isControl c || c == '\n') = true) : SameLines text text :=
  sameLines_self.mpr (clean_literal htext h)

/-! ## Texts within a line -/

/-- Without control characters, so without line feeds. -/
def Flat (text : String) : Prop := ∀ c ∈ text.toList, isControl c = false

@[simp] theorem Inert.flat {text : String} (h : Inert text) : Flat text := fun c hc => by
  have hinert := h c hc
  rw [isInert, Bool.and_eq_true, Bool.not_eq_true'] at hinert
  exact hinert.1

@[simp] theorem Flat.clean {text : String} (h : Flat text) : Clean text := fun c hc hcontrol =>
  absurd hcontrol (by simp [h c hc])

@[simp] theorem Inert.clean {text : String} (h : Inert text) : Clean text := h.flat.clean

theorem Flat.lineCount_eq {text : String} (h : Flat text) : lineCount text = 0 :=
  List.count_eq_zero.mpr fun hmem => absurd (h '\n' hmem) (by decide)

@[simp] theorem Flat.same {a b : String} (ha : Flat a) (hb : Flat b) : SameLines a b :=
  ⟨ha.clean, hb.clean, ha.lineCount_eq.trans hb.lineCount_eq.symm⟩

theorem flat_join {parts : List String} (h : ∀ part ∈ parts, Flat part) : Flat (join parts) := by
  induction parts with
  | nil => exact fun c hc => absurd hc List.not_mem_nil
  | cons part parts ih =>
    intro c hc
    rw [join, String.toList_append, List.mem_append] at hc
    rcases hc with hc | hc
    · exact h part List.mem_cons_self c hc
    · exact ih (fun part hpart => h part (List.mem_cons_of_mem _ hpart)) c hc

/-- Every control character becomes a space. -/
def cleanTerminal (value : String) : String :=
  String.ofList (value.toList.map fun c => if isControl c then ' ' else c)

@[simp] theorem cleanTerminal_flat (value : String) : Flat (cleanTerminal value) := by
  intro c hc
  rw [cleanTerminal, String.toList_ofList] at hc
  obtain ⟨d, _, rfl⟩ := List.mem_map.mp hc
  by_cases hd : isControl d = true
  · rw [if_pos hd]
    rfl
  · rw [if_neg hd]
    exact Bool.eq_false_iff.mpr hd

end Surface

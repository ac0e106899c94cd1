import Mathlib.Data.List.Forall2
import Surface.Text

/-!
# Surface.Template

Texts put together from parts, and relations between two such texts.

* `join`: parts one after the other. A format string is its texts and its arguments in turn.
* `fragments`: a text for each element of a list.
* `Stable`: relations that hold of joined texts when they hold of the parts.
* `Inert`: texts that mean nothing to a terminal or a browser.
-/

namespace Surface

def join : List String → String
  | [] => ""
  | part :: parts => part ++ join parts

/-- One fragment for each element. -/
def fragments {α : Type} (fragment : α → String) (l : List α) : String := join (l.map fragment)

theorem join_ne_empty {part : String} (hpart : part ≠ "") (parts : List String) :
    join (part :: parts) ≠ "" := by
  rw [join]
  exact fun h => hpart (String.append_eq_empty_iff.mp h).1

/-- What holds of the characters a literal is written with holds of the characters it has. -/
theorem of_literal {P : List Char → Prop} {text : String} {cs : List Char}
    (htext : text = String.ofList cs) (h : P cs) : P text.toList := by
  rw [htext, String.toList_ofList]
  exact h

/-- A relation between texts that are put together in the same way. -/
structure Stable (R : String → String → Prop) : Prop where
  empty : R "" ""
  append : ∀ {a b a' b' : String}, R a b → R a' b' → R (a ++ a') (b ++ b')

namespace Stable

variable {R : String → String → Prop} {α β : Type}

theorem join (hR : Stable R) {parts parts' : List String} (h : List.Forall₂ R parts parts') :
    R (join parts) (join parts') := by
  induction h with
  | nil => exact hR.empty
  | cons hpart _ ih => exact hR.append hpart ih

theorem fragments (hR : Stable R) {f : α → String} {g : β → String} {l : List α} {l' : List β}
    (h : List.Forall₂ (fun a b => R (f a) (g b)) l l') :
    R (Surface.fragments f l) (Surface.fragments g l') :=
  hR.join (List.forall₂_map_left_iff.mpr (List.forall₂_map_right_iff.mpr h))

end Stable

/-! ## Parts of a text -/

/-- One text stands somewhere in another. -/
def PartOf (part text : String) : Prop := part.toList <:+: text.toList

namespace PartOf

theorem trans {a b c : String} (hab : PartOf a b) (hbc : PartOf b c) : PartOf a c :=
  List.IsInfix.trans hab hbc

theorem ne_empty {a b : String} (h : PartOf a b) (ha : a ≠ "") : b ≠ "" := by
  rintro rfl
  exact ha (String.toList_eq_nil_iff.mp (List.infix_nil.mp h))

end PartOf

theorem toList_join (parts : List String) : (join parts).toList = parts.flatMap String.toList := by
  induction parts with
  | nil => rfl
  | cons part parts ih => rw [join, String.toList_append, ih, List.flatMap_cons]

/-- Neighbouring parts stand next to each other in the joined text. -/
theorem partOf_join {middle parts : List String} (h : middle <:+: parts) :
    PartOf (join middle) (join parts) := by
  obtain ⟨front, back, rfl⟩ := h
  refine ⟨front.flatMap String.toList, back.flatMap String.toList, ?_⟩
  rw [toList_join, toList_join, List.flatMap_append, List.flatMap_append]

/-- `count` parts from `start` on. -/
theorem partOf_slice {middle parts : List String} (start count : Nat)
    (h : (parts.drop start).take count = middle) : PartOf (join middle) (join parts) := by
  subst h
  exact partOf_join ((List.take_prefix _ _).isInfix.trans (List.drop_suffix _ _).isInfix)

theorem partOf_of_mem {part : String} {parts : List String} (h : part ∈ parts) :
    PartOf part (join parts) := by
  obtain ⟨front, back, rfl⟩ := List.append_of_mem h
  have hmiddle : [part] <:+: front ++ part :: back := ⟨front, back, by simp⟩
  simpa [join] using partOf_join hmiddle

/-! ## Inert texts -/

def isInert (c : Char) : Bool := !isControl c && c != '<'

/-- Without control characters and without the character that starts markup. -/
def Inert (text : String) : Prop := ∀ c ∈ text.toList, isInert c = true

theorem inert_literal {text : String} {cs : List Char} (htext : text = String.ofList cs)
    (h : cs.all isInert = true) : Inert text :=
  of_literal (P := fun cs => ∀ c ∈ cs, isInert c = true) htext (List.all_eq_true.mp h)

theorem inert_of_chars {text : String} (chars : List Char) (hchars : chars.all isInert = true)
    (h : ∀ c ∈ text.toList, c ∈ chars) : Inert text := fun c hc =>
  List.all_eq_true.mp hchars c (h c hc)

theorem Inert.append {a b : String} (ha : Inert a) (hb : Inert b) : Inert (a ++ b) := by
  intro c hc
  rw [String.toList_append, List.mem_append] at hc
  exact hc.elim (ha c) (hb c)

theorem inert_ite {c : Prop} [Decidable c] {a b : String} (ha : Inert a) (hb : Inert b) :
    Inert (if c then a else b) := by
  split
  · exact ha
  · exact hb

/-- The text of an option. -/
theorem inert_getD {α : Type} {f : α → String} {otherwise : String} (h : ∀ a, Inert (f a))
    (hotherwise : Inert otherwise) (o : Option α) : Inert ((o.map f).getD otherwise) := by
  cases o with
  | none => exact hotherwise
  | some a => exact h a

end Surface

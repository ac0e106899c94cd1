import Surface.Template

/-!
# Surface.Markup

The markup of a text in the sense of HTML: what stands between the angle brackets.

* `Markup.read`: one character of a tokenizer that collects the tags, each with its attributes.
* `SameMarkup`: two texts whose tags are the same, with nothing left open.
* `escapeHtml`: what is escaped holds no markup, whatever it was.
-/

namespace Surface

inductive MarkupState where
  | text
  /-- In a tag of which some characters were read. -/
  | tag (seen : List Char)
  /-- In a quoted attribute value of such a tag. -/
  | quoted (mark : Char) (seen : List Char)
deriving DecidableEq

/-- The tags read so far, and where the reading is. -/
structure Markup where
  tags : List (List Char)
  state : MarkupState
deriving DecidableEq

namespace Markup

def start : Markup := ⟨[], .text⟩

def read (markup : Markup) (c : Char) : Markup :=
  match markup.state with
  | .text => if c = '<' then { markup with state := .tag [] } else markup
  | .tag seen =>
    if c = '>' then ⟨markup.tags ++ [seen], .text⟩
    else if c = '"' ∨ c = '\'' then { markup with state := .quoted c (seen ++ [c]) }
    else { markup with state := .tag (seen ++ [c]) }
  | .quoted mark seen =>
    { markup with state := if c = mark then .tag (seen ++ [c]) else .quoted mark (seen ++ [c]) }

/-- Tags in front of those that are read. -/
def after (markup : Markup) (tags : List (List Char)) : Markup :=
  { markup with tags := tags ++ markup.tags }

theorem read_after (markup : Markup) (tags : List (List Char)) (c : Char) :
    (markup.after tags).read c = (markup.read c).after tags := by
  obtain ⟨old, state⟩ := markup
  cases state with
  | text =>
    simp only [after, read]
    split <;> rfl
  | tag seen =>
    simp only [after, read]
    split
    · rw [List.append_assoc]
    · split <;> rfl
  | quoted mark seen => rfl

theorem foldl_read_after (cs : List Char) (markup : Markup) (tags : List (List Char)) :
    cs.foldl read (markup.after tags) = (cs.foldl read markup).after tags := by
  induction cs generalizing markup with
  | nil => rfl
  | cons c cs ih => rw [List.foldl_cons, read_after, ih, List.foldl_cons]

end Markup

/-- The markup of a text. -/
def markup (text : String) : Markup := text.toList.foldl Markup.read .start

/-- After a text that leaves nothing open the tags of the next one follow. -/
theorem markup_append {a b : String} (ha : (markup a).state = .text) :
    markup (a ++ b) = (markup b).after (markup a).tags := by
  have hstart : markup a = Markup.start.after (markup a).tags := by
    unfold Markup.after Markup.start
    rw [List.append_nil, ← ha]
  rw [markup, String.toList_append, List.foldl_append]
  change b.toList.foldl Markup.read (markup a) = _
  rw [hstart, Markup.foldl_read_after]
  rw [← hstart]
  rfl

/-! ## Texts with the same markup -/

/-- The same tags, and nothing left open. -/
def SameMarkup (a b : String) : Prop := (markup a).state = .text ∧ markup a = markup b

theorem SameMarkup.symm {a b : String} (h : SameMarkup a b) : SameMarkup b a :=
  ⟨h.2 ▸ h.1, h.2.symm⟩

theorem SameMarkup.trans {a b c : String} (hab : SameMarkup a b) (hbc : SameMarkup b c) :
    SameMarkup a c := ⟨hab.1, hab.2.trans hbc.2⟩

theorem sameMarkup_stable : Stable SameMarkup where
  empty := ⟨rfl, rfl⟩
  append := by
    rintro a b a' b' ⟨ha, hab⟩ ⟨ha', hab'⟩
    have hb : (markup b).state = .text := hab ▸ ha
    refine ⟨?_, ?_⟩
    · rw [markup_append ha]
      exact ha'
    · rw [markup_append ha, markup_append hb, hab, hab']

/-- Nothing is left open. -/
def Closed (text : String) : Prop := (markup text).state = .text

@[simp low] theorem sameMarkup_self {text : String} : SameMarkup text text ↔ Closed text :=
  ⟨fun h => h.1, fun h => ⟨h, rfl⟩⟩

theorem closed_literal {text : String} {cs : List Char} (htext : text = String.ofList cs)
    (h : (cs.foldl Markup.read .start).state = .text) : Closed text :=
  of_literal (P := fun cs => (cs.foldl Markup.read .start).state = .text) htext h

theorem sameMarkup_literal {text : String} {cs : List Char} (htext : text = String.ofList cs)
    (h : (cs.foldl Markup.read .start).state = .text) : SameMarkup text text :=
  sameMarkup_self.mpr (closed_literal htext h)

/-- A text without markup. -/
def Plain (text : String) : Prop := '<' ∉ text.toList

instance (text : String) : Decidable (Plain text) :=
  inferInstanceAs (Decidable ('<' ∉ text.toList))

theorem Plain.markup_eq {text : String} (h : Plain text) : markup text = .start := by
  unfold Plain at h
  unfold markup
  generalize text.toList = cs at h
  induction cs with
  | nil => rfl
  | cons c cs ih =>
    rw [List.mem_cons, not_or] at h
    have hread : Markup.start.read c = .start := if_neg (Ne.symm h.1)
    rw [List.foldl_cons, hread, ih h.2]

@[simp] theorem Plain.closed {text : String} (h : Plain text) : Closed text := by
  rw [Closed, h.markup_eq]
  rfl

/-- Texts without markup are all alike. -/
@[simp] theorem Plain.same {a b : String} (ha : Plain a) (hb : Plain b) : SameMarkup a b := by
  refine ⟨ha.closed, ?_⟩
  rw [ha.markup_eq, hb.markup_eq]

@[simp] theorem Inert.plain {text : String} (h : Inert text) : Plain text := fun hmem =>
  absurd (h '<' hmem) (by decide)

@[simp] theorem Inert.closed {text : String} (h : Inert text) : Closed text := h.plain.closed

theorem plain_join {parts : List String} (h : ∀ part ∈ parts, Plain part) : Plain (join parts) := by
  induction parts with
  | nil => exact List.not_mem_nil
  | cons part parts ih =>
    unfold Plain
    rw [join, String.toList_append, List.mem_append]
    rintro (hmem | hmem)
    · exact h part List.mem_cons_self hmem
    · exact ih (fun part hpart => h part (List.mem_cons_of_mem _ hpart)) hmem

theorem plain_intercalate {sep : String} {l : List String} (hsep : Plain sep)
    (h : ∀ text ∈ l, Plain text) : Plain (sep.intercalate l) := by
  intro hmem
  rcases mem_intercalate hmem with hmem | ⟨text, htext, hmem⟩
  · exact hsep hmem
  · exact h text htext hmem

/-! ## Items

An empty list of items may have another text in its place, so whether a list is empty has to be
seen from the text.
-/

/-- Items with the same markup, neither of them empty. -/
structure SameItem (a b : String) : Prop where
  left : a ≠ ""
  right : b ≠ ""
  same : SameMarkup a b

theorem sameItem_join {first : String} {parts parts' : List String} (hfirst : first ≠ "")
    (h : List.Forall₂ SameMarkup (first :: parts) (first :: parts')) :
    SameItem (join (first :: parts)) (join (first :: parts')) :=
  ⟨join_ne_empty hfirst parts, join_ne_empty hfirst parts', sameMarkup_stable.join h⟩

theorem sameMarkup_items {items items' : List String} (h : List.Forall₂ SameItem items items') :
    SameMarkup (join items) (join items') :=
  sameMarkup_stable.join (h.imp fun _ _ hitem => hitem.same)

theorem isEmpty_items {items items' : List String} (h : List.Forall₂ SameItem items items') :
    (join items).isEmpty = (join items').isEmpty := by
  cases h with
  | nil => rfl
  | cons hitem _ =>
    rw [String.isEmpty_eq_false_iff.mpr (join_ne_empty hitem.left _),
      String.isEmpty_eq_false_iff.mpr (join_ne_empty hitem.right _)]

/-! ## Escaping -/

def replaceChar (c : Char) (replacement text : String) : String :=
  String.ofList (text.toList.flatMap fun d => if d = c then replacement.toList else [d])

/-- Without control characters, and with every character that could start or end markup replaced. -/
def escapeHtml (value : String) : String :=
  replaceChar '\'' "&#39;" (replaceChar '"' "&quot;" (replaceChar '>' "&gt;"
    (replaceChar '<' "&lt;" (replaceChar '&' "&amp;"
      (String.ofList (value.toList.filter fun c => !isControl c))))))

theorem plain_replaceChar {c : Char} {replacement text : String} (hreplacement : Plain replacement)
    (h : c = '<' ∨ Plain text) : Plain (replaceChar c replacement text) := by
  unfold Plain replaceChar
  rw [String.toList_ofList, List.mem_flatMap]
  rintro ⟨d, hd, hmem⟩
  split at hmem
  · exact hreplacement hmem
  · rename_i hne
    have hd' : d = '<' := (List.mem_singleton.mp hmem).symm
    rcases h with rfl | h
    · exact hne hd'
    · exact h (hd' ▸ hd)

/-- The character that starts markup is replaced, and no later replacement brings it back. -/
@[simp] theorem plain_escapeHtml (value : String) : Plain (escapeHtml value) := by
  have hlt (text : String) : Plain (replaceChar '<' "&lt;" text) :=
    plain_replaceChar (by decide) (.inl rfl)
  have hgt {text : String} (h : Plain text) : Plain (replaceChar '>' "&gt;" text) :=
    plain_replaceChar (by decide) (.inr h)
  have hquot {text : String} (h : Plain text) : Plain (replaceChar '"' "&quot;" text) :=
    plain_replaceChar (by decide) (.inr h)
  exact plain_replaceChar (by decide) (.inr (hquot (hgt (hlt _))))

end Surface

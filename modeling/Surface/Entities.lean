import Surface.Markup

/-!
# Surface.Entities

Characters replaced one after the other, and the escaping of HTML as such a replacement.

* `replaceEach_eq`: replacements that produce none of the characters replaced later act on each
  character by itself.
* `decodeEntities`: the reader of the five entities.
* `escapeHtml_escaped`: what is escaped holds entities and harmless characters alone, and reads
  back as the text without its control characters.
-/

namespace Surface

/-! ## Successive replacements -/

section Replacements

universe u

variable {α : Type u} [DecidableEq α]

/-- The table applied to one element. -/
def substitute (table : List (α × List α)) (a : α) : List α :=
  match table with
  | [] => [a]
  | entry :: rest => if a = entry.1 then entry.2 else substitute rest a

def replaceIn (entry : α × List α) (l : List α) : List α :=
  l.flatMap fun a => if a = entry.1 then entry.2 else [a]

/-- The replacements of the table, in its order. -/
def replaceEach (table : List (α × List α)) (l : List α) : List α :=
  table.foldl (fun l entry => replaceIn entry l) l

/-- No replacement produces an element that is replaced later. -/
def Settled (table : List (α × List α)) : Prop :=
  table.Pairwise fun entry later => later.1 ∉ entry.2

theorem substitute_eq_self {table : List (α × List α)} {a : α}
    (h : ∀ entry ∈ table, a ≠ entry.1) : substitute table a = [a] := by
  induction table with
  | nil => rfl
  | cons entry rest ih =>
    obtain ⟨hentry, hrest⟩ := List.forall_mem_cons.mp h
    rw [substitute, if_neg hentry, ih hrest]

theorem replaceEach_eq {table : List (α × List α)} (h : Settled table) (l : List α) :
    replaceEach table l = l.flatMap (substitute table) := by
  induction table generalizing l with
  | nil => exact (List.flatMap_singleton' l).symm
  | cons entry rest ih =>
    obtain ⟨hlater, hrest⟩ := List.pairwise_cons.mp h
    have hkept : entry.2.flatMap (substitute rest) = entry.2 := by
      refine (List.flatMap_congr fun a ha => ?_).trans (List.flatMap_singleton' _)
      exact substitute_eq_self fun later hmem heq => hlater later hmem (heq ▸ ha)
    have hstep : replaceEach (entry :: rest) l = replaceEach rest (replaceIn entry l) := rfl
    rw [hstep, ih hrest, replaceIn, List.flatMap_assoc]
    refine List.flatMap_congr fun a _ => ?_
    rw [substitute]
    split
    · exact hkept
    · exact List.flatMap_singleton _ _

end Replacements

/-! ## Entities -/

def entities : List (Char × List Char) :=
  [('&', ['&', 'a', 'm', 'p', ';']), ('<', ['&', 'l', 't', ';']), ('>', ['&', 'g', 't', ';']),
    ('"', ['&', 'q', 'u', 'o', 't', ';']), ('\'', ['&', '#', '3', '9', ';'])]

/-- A character as it stands in the escaped text. -/
def escapeChar (c : Char) : List Char := substitute entities c

/-- The text whose entities are the five; anything else stands for itself. -/
def decodeEntities : List Char → List Char
  | '&' :: 'a' :: 'm' :: 'p' :: ';' :: rest => '&' :: decodeEntities rest
  | '&' :: 'l' :: 't' :: ';' :: rest => '<' :: decodeEntities rest
  | '&' :: 'g' :: 't' :: ';' :: rest => '>' :: decodeEntities rest
  | '&' :: 'q' :: 'u' :: 'o' :: 't' :: ';' :: rest => '"' :: decodeEntities rest
  | '&' :: '#' :: '3' :: '9' :: ';' :: rest => '\'' :: decodeEntities rest
  | c :: rest => c :: decodeEntities rest
  | [] => []

/-- The characters of a text that are escaped at all. -/
def visibleChars (value : String) : List Char := value.toList.filter fun c => !isControl c

theorem entities_settled : Settled entities := by
  unfold Settled
  decide

theorem replaceChar_toList (c : Char) (replacement text : String) :
    (replaceChar c replacement text).toList = replaceIn (c, replacement.toList) text.toList :=
  String.toList_ofList

theorem escapeHtml_toList (value : String) :
    (escapeHtml value).toList = (visibleChars value).flatMap escapeChar := by
  have hchars : (visibleChars value).flatMap escapeChar =
      replaceEach entities (visibleChars value) := (replaceEach_eq entities_settled _).symm
  have hamp : "&amp;".toList = ['&', 'a', 'm', 'p', ';'] := rfl
  have hlt : "&lt;".toList = ['&', 'l', 't', ';'] := rfl
  have hgt : "&gt;".toList = ['&', 'g', 't', ';'] := rfl
  have hquot : "&quot;".toList = ['&', 'q', 'u', 'o', 't', ';'] := rfl
  have hapos : "&#39;".toList = ['&', '#', '3', '9', ';'] := rfl
  rw [hchars]
  simp only [escapeHtml, replaceChar_toList, String.toList_ofList, hamp, hlt, hgt, hquot, hapos]
  unfold replaceEach entities visibleChars
  simp only [List.foldl_cons, List.foldl_nil]

/-- One of the five entities, or a character that needs none. -/
theorem escapeChar_cases (c : Char) : (c, escapeChar c) ∈ entities ∨
    (∀ entry ∈ entities, c ≠ entry.1) ∧ escapeChar c = [c] := by
  by_cases h : ∀ entry ∈ entities, c ≠ entry.1
  · exact .inr ⟨h, substitute_eq_self h⟩
  · simp only [not_forall, not_not] at h
    obtain ⟨entry, hentry, rfl⟩ := h
    left
    revert entry
    decide

theorem decodeEntities_escapeChar (c : Char) (rest : List Char) :
    decodeEntities (escapeChar c ++ rest) = c :: decodeEntities rest := by
  rcases escapeChar_cases c with h | ⟨h, hsame⟩
  · simp only [entities, List.mem_cons, Prod.mk.injEq, List.not_mem_nil, or_false] at h
    rcases h with ⟨rfl, h⟩ | ⟨rfl, h⟩ | ⟨rfl, h⟩ | ⟨rfl, h⟩ | ⟨rfl, h⟩ <;> rw [h] <;> rfl
  · have hamp : c ≠ '&' := h _ List.mem_cons_self
    rw [hsame, List.singleton_append]
    rw [decodeEntities]
    all_goals
      intros
      contradiction

theorem decodeEntities_flatMap (l : List Char) : decodeEntities (l.flatMap escapeChar) = l := by
  induction l with
  | nil => rfl
  | cons c l ih => rw [List.flatMap_cons, decodeEntities_escapeChar, ih]

/-! ## What is left in an escaped text -/

/-- A character that neither starts nor ends markup and controls nothing. -/
def isInertChar (c : Char) : Bool := !(['<', '>', '"', '\''].contains c) && !isControl c

theorem entities_inert : (entities.all fun entry => entry.2.all isInertChar) = true := by decide

/-- An entity starts with its only ampersand. -/
theorem entities_ampersand : (entities.all fun entry =>
    decide (entry.2.head? = some '&') && !entry.2.tail.contains '&') = true := by decide

theorem escapeChar_inert {c d : Char} (hc : isControl c = false) (h : d ∈ escapeChar c) :
    isInertChar d = true := by
  rcases escapeChar_cases c with hentity | ⟨hother, hsame⟩
  · exact List.all_eq_true.mp (List.all_eq_true.mp entities_inert _ hentity) d h
  · rw [hsame, List.mem_singleton] at h
    simp only [entities, List.forall_mem_cons] at hother
    obtain ⟨-, hlt, hgt, hquot, hapos, -⟩ := hother
    simp [h, isInertChar, hc, hlt, hgt, hquot, hapos]

/-- What starts with an element that a text lacks starts behind it. -/
theorem suffix_of_notMem {α : Type} {a : α} {front back after : List α} (ha : a ∉ front)
    (h : a :: after <:+ front ++ back) : a :: after <:+ back := by
  induction front with
  | nil => exact h
  | cons b front ih =>
    rw [List.mem_cons, not_or] at ha
    rcases List.suffix_cons_iff.mp h with heq | h
    · exact absurd (List.cons.inj heq).1 ha.1
    · exact ih ha.2 h

theorem ampersand_entity {l after : List Char} (h : '&' :: after <:+ l.flatMap escapeChar) :
    ∃ entry ∈ entities, entry.2 <+: '&' :: after := by
  induction l with
  | nil => cases List.suffix_nil.mp h
  | cons c l ih =>
    rw [List.flatMap_cons] at h
    rcases escapeChar_cases c with hentity | ⟨hother, hsame⟩
    · have hshape := List.all_eq_true.mp entities_ampersand _ hentity
      simp only [Bool.and_eq_true, decide_eq_true_eq, Bool.not_eq_true'] at hshape
      obtain ⟨hhead, htail⟩ := hshape
      obtain ⟨tail, hescape⟩ : ∃ tail, escapeChar c = '&' :: tail := List.head?_eq_some_iff.mp hhead
      rw [hescape] at h htail hentity
      rcases List.suffix_cons_iff.mp h with heq | h
      · exact ⟨_, hentity, heq ▸ List.prefix_append _ _⟩
      · exact ih (suffix_of_notMem (by simpa using htail) h)
    · rw [hsame, List.singleton_append] at h
      rcases List.suffix_cons_iff.mp h with heq | h
      · exact absurd (List.cons.inj heq).1.symm (hother _ List.mem_cons_self)
      · exact ih h

/-- What is left of a text that was escaped. -/
structure Escaped (value escaped : String) : Prop where
  eachChar : escaped.toList = (visibleChars value).flatMap escapeChar
  inert : ∀ c ∈ escaped.toList,
    c ≠ '<' ∧ c ≠ '>' ∧ c ≠ '"' ∧ c ≠ '\'' ∧ isControl c = false
  ampersands : ∀ after, '&' :: after <:+ escaped.toList →
    ∃ entry ∈ entities, entry.2 <+: '&' :: after
  decoded : decodeEntities escaped.toList = visibleChars value

theorem escapeHtml_escaped (value : String) : Escaped value (escapeHtml value) where
  eachChar := escapeHtml_toList value
  inert := by
    intro c hc
    rw [escapeHtml_toList, List.mem_flatMap] at hc
    obtain ⟨source, hsource, hc⟩ := hc
    have hcontrol : isControl source = false := by
      simpa using (List.mem_filter.mp hsource).2
    have hinert := escapeChar_inert hcontrol hc
    simpa [isInertChar, and_assoc] using hinert
  ampersands := by
    intro after h
    rw [escapeHtml_toList] at h
    exact ampersand_entity h
  decoded := by rw [escapeHtml_toList, decodeEntities_flatMap]

end Surface

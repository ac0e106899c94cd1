import Surface.Text

/-!
# Surface.TagList

Records of tags with semicolons between them, each tag a name and a value with an equals sign
between them, and blanks around these signs.

* `Tag`, `Gaps`: a tag without the blanks around it, and the blanks.
* `TagRecord.text`: a record as it is written.
* `exists_tagRecord`: every text with an equals sign in each part is such a record.
* `readTag_text`: what a reader finds that trims the parts between the semicolons, and not the two
  sides of the equals sign.
-/

namespace Surface

def isBlank (c : Char) : Bool := c == ' ' || c == '\t'

structure Blanks where
  chars : List Char
  blank : ∀ c ∈ chars, isBlank c = true

def Blanks.none : Blanks := ⟨[], nofun⟩

def Blanks.space : Blanks := ⟨[' '], List.forall_mem_singleton.mpr rfl⟩

/-- No blank is the first or the last character. -/
def NoBlankEnds (cs : List Char) : Prop :=
  (∀ c ∈ cs.head?, isBlank c = false) ∧ ∀ c ∈ cs.getLast?, isBlank c = false

theorem noBlankEnds_of_all {cs : List Char} (h : cs.all (fun c => !isBlank c) = true) :
    NoBlankEnds cs := by
  have hall : ∀ c ∈ cs, isBlank c = false := by simpa using h
  exact ⟨fun c hc => hall c (List.mem_of_mem_head? hc),
    fun c hc => hall c (List.mem_of_mem_getLast? hc)⟩

theorem noSeparators_of_all {name : List Char}
    (h : name.all (fun c => c != ';' && c != '=') = true) : ∀ c ∈ name, c ≠ ';' ∧ c ≠ '=' := by
  simpa using h

structure Tag where
  name : List Char
  value : List Char
  name_plain : ∀ c ∈ name, c ≠ ';' ∧ c ≠ '='
  value_plain : ';' ∉ value
  name_ends : NoBlankEnds name
  value_ends : NoBlankEnds value

/-- The blanks in front of a tag, before and after its equals sign, and behind the tag. -/
structure Gaps where
  front : Blanks := .none
  before : Blanks := .none
  after : Blanks := .none
  back : Blanks := .none

structure SpelledTag where
  tag : Tag
  gaps : Gaps

def SpelledTag.text (spelled : SpelledTag) : List Char :=
  (spelled.gaps.front.chars ++ (spelled.tag.name ++ spelled.gaps.before.chars)) ++
    '=' :: (spelled.gaps.after.chars ++ spelled.tag.value ++ spelled.gaps.back.chars)

/-- Tags, and the blanks behind a last semicolon if there is one. -/
structure TagRecord where
  tags : List SpelledTag
  closing : Option Blanks
  nonempty : tags ≠ []

namespace TagRecord

def parts (record : TagRecord) : List (List Char) :=
  record.tags.map SpelledTag.text ++ record.closing.toList.map Blanks.chars

def text (record : TagRecord) : String := String.ofList ([';'].intercalate record.parts)

/-- The same record but for its blanks. -/
def SameTags (record record' : TagRecord) : Prop :=
  record.tags.map SpelledTag.tag = record'.tags.map SpelledTag.tag ∧
    record.closing.isSome = record'.closing.isSome

end TagRecord

/-- The name and the value of a part between semicolons. -/
def readTag (part : List Char) : Option (List Char × List Char) := splitOnce '=' (trimSpaces part)

/-! ## Blanks -/

theorem isUnicodeSpace_of_isBlank {c : Char} (h : isBlank c = true) : isUnicodeSpace c = true := by
  rcases Bool.or_eq_true_iff.mp h with h | h
  · rw [beq_iff_eq.mp h]
    decide
  · rw [beq_iff_eq.mp h]
    decide

theorem Blanks.space_of_mem (blanks : Blanks) :
    ∀ c ∈ blanks.chars, isUnicodeSpace c = true := fun c hc =>
  isUnicodeSpace_of_isBlank (blanks.blank c hc)

theorem Blanks.notMem (blanks : Blanks) {c : Char} (h : isBlank c = false) : c ∉ blanks.chars := by
  intro hc
  rw [blanks.blank c hc] at h
  cases h

/-- A text that is empty or has a blank in it is none of the words. -/
theorem notMem_of_wordChars {words : List String}
    (hwords : (words.all fun word => word != "" && word.toList.all fun c => !isBlank c) = true)
    {cs : List Char} (h : cs = [] ∨ ∃ c ∈ cs, isBlank c = true) : String.ofList cs ∉ words := by
  intro hmem
  obtain ⟨hne, hplain⟩ := Bool.and_eq_true_iff.mp (List.all_eq_true.mp hwords _ hmem)
  rcases h with rfl | ⟨c, hc, hblank⟩
  · exact bne_iff_ne.mp hne rfl
  · have hword := List.all_eq_true.mp hplain c (by rwa [String.toList_ofList])
    rw [hblank] at hword
    cases hword

/-! ## Parts -/

namespace SpelledTag

def readName (spelled : SpelledTag) : List Char :=
  (spelled.tag.name ++ spelled.gaps.before.chars).dropWhile isUnicodeSpace

def readValue (spelled : SpelledTag) : List Char :=
  (spelled.gaps.after.chars ++ spelled.tag.value).rdropWhile isUnicodeSpace

theorem noSemicolon (spelled : SpelledTag) : ';' ∉ spelled.text := by
  have hblank : ∀ blanks : Blanks, ';' ∉ blanks.chars := fun blanks => blanks.notMem rfl
  have hname : ';' ∉ spelled.tag.name := fun h => (spelled.tag.name_plain _ h).1 rfl
  simp [text, hblank, hname, spelled.tag.value_plain]

theorem readTag_text (spelled : SpelledTag) :
    readTag spelled.text = some (spelled.readName, spelled.readValue) := by
  have hequals : '=' ∉ spelled.readName := by
    intro h
    rcases List.mem_append.mp ((List.dropWhile_suffix _).subset h) with h | h
    · exact (spelled.tag.name_plain _ h).2 rfl
    · exact spelled.gaps.before.notMem rfl h
  rw [readTag, text, trimSpaces_around (by decide),
    List.dropWhile_append_of_pos spelled.gaps.front.space_of_mem,
    rdropWhile_append_of_pos spelled.gaps.back.space_of_mem]
  exact splitOnce_append hequals

/-- Without blanks before the equals sign the name is read. -/
theorem readName_of_none {spelled : SpelledTag} (h : spelled.gaps.before.chars = []) :
    spelled.readName = spelled.tag.name.dropWhile isUnicodeSpace := by
  rw [readName, h, List.append_nil]

/-- With blanks there, they are read as a part of the name. -/
theorem readName_of_blanks {spelled : SpelledTag} (h : spelled.gaps.before.chars ≠ []) :
    spelled.readName = [] ∨ ∃ c ∈ spelled.readName, isBlank c = true := by
  rw [readName, List.dropWhile_append]
  split
  · exact .inl (List.dropWhile_eq_nil_iff.mpr spelled.gaps.before.space_of_mem)
  · obtain ⟨c, rest, hchars⟩ := List.exists_cons_of_ne_nil h
    have hc : c ∈ spelled.gaps.before.chars := hchars ▸ List.mem_cons_self
    exact .inr ⟨c, List.mem_append_right _ hc, spelled.gaps.before.blank c hc⟩

theorem readValue_of_none {spelled : SpelledTag} (h : spelled.gaps.after.chars = []) :
    spelled.readValue = spelled.tag.value.rdropWhile isUnicodeSpace := by
  rw [readValue, h, List.nil_append]

/-- With blanks after the equals sign, one of them is the first character of the value. -/
theorem readValue_of_blanks {spelled : SpelledTag} (h : spelled.gaps.after.chars ≠ []) :
    spelled.readValue = [] ∨ ∃ c rest, spelled.readValue = c :: rest ∧ isBlank c = true := by
  obtain ⟨c, rest, hchars⟩ := List.exists_cons_of_ne_nil h
  have hblank := spelled.gaps.after.blank c (hchars ▸ List.mem_cons_self)
  rcases hread : spelled.readValue with _ | ⟨d, value⟩
  · exact .inl rfl
  · obtain ⟨more, hmore⟩ := List.rdropWhile_prefix isUnicodeSpace
      (spelled.gaps.after.chars ++ spelled.tag.value)
    rw [← readValue, hread, hchars] at hmore
    obtain ⟨rfl, -⟩ := List.cons.inj hmore
    exact .inr ⟨d, value, rfl, hblank⟩

end SpelledTag

/-- Without blanks. -/
def Tag.plain (tag : Tag) : SpelledTag := ⟨tag, {}⟩

theorem Tag.plain_readName (tag : Tag) :
    tag.plain.readName = tag.name.dropWhile isUnicodeSpace := SpelledTag.readName_of_none rfl

theorem Tag.plain_readValue (tag : Tag) :
    tag.plain.readValue = tag.value.rdropWhile isUnicodeSpace := SpelledTag.readValue_of_none rfl

/-- With a blank in front of the equals sign. -/
def Tag.spaced (tag : Tag) : SpelledTag := ⟨tag, { before := .space }⟩

theorem Tag.spaced_before (tag : Tag) : tag.spaced.gaps.before.chars ≠ [] := List.cons_ne_nil _ _

/-! ## Records -/

namespace TagRecord

variable (record : TagRecord)

theorem splitOn_text : record.text.toList.splitOn ';' = record.parts := by
  rw [text, String.toList_ofList]
  refine List.splitOn_intercalate ';' (fun part hpart => ?_) ?_
  · rcases List.mem_append.mp hpart with hpart | hpart
    · obtain ⟨spelled, -, rfl⟩ := List.mem_map.mp hpart
      exact spelled.noSemicolon
    · obtain ⟨blanks, -, rfl⟩ := List.mem_map.mp hpart
      exact blanks.notMem rfl
  · rw [parts, Ne, List.append_eq_nil_iff, List.map_eq_nil_iff]
    exact fun h => record.nonempty h.1

theorem readTag_closing {part : List Char}
    (h : part ∈ record.closing.toList.map Blanks.chars) : readTag part = none := by
  obtain ⟨blanks, -, rfl⟩ := List.mem_map.mp h
  have htrim : trimSpaces (blanks.chars ++ [] ++ []) = [] :=
    trimSpaces_surrounded blanks.space_of_mem nofun nofun
  rw [List.append_nil, List.append_nil] at htrim
  rw [readTag, htrim]
  rfl

theorem text_ne_empty : record.text ≠ "" := by
  intro h
  have hparts := record.splitOn_text
  rw [h] at hparts
  obtain ⟨spelled, rest, htags⟩ := List.exists_cons_of_ne_nil record.nonempty
  have hpart : spelled.text ∈ record.parts := by
    rw [parts, htags]
    exact List.mem_append_left _ List.mem_cons_self
  rw [← hparts] at hpart
  have hempty : spelled.text = [] := List.mem_singleton.mp hpart
  simp [SpelledTag.text] at hempty

/-- A run through the parts that leaves out those without a tag. -/
theorem foldl_parts {β : Type*} {step : β → List Char → β}
    (h : ∀ state part, readTag part = none → step state part = state) (start : β) :
    record.parts.foldl step start = (record.tags.map SpelledTag.text).foldl step start := by
  rw [parts, List.foldl_append]
  generalize (record.tags.map SpelledTag.text).foldl step start = state
  rcases hclosing : record.closing with _ | blanks
  · rfl
  · exact h state _ (record.readTag_closing (by rw [hclosing]; exact List.mem_singleton.mpr rfl))

theorem filterMap_parts : record.parts.filterMap readTag =
    record.tags.map fun spelled => (spelled.readName, spelled.readValue) := by
  have hclosing : (record.closing.toList.map Blanks.chars).filterMap readTag = [] :=
    List.filterMap_eq_nil_iff.mpr fun _ hpart => record.readTag_closing hpart
  rw [parts, List.filterMap_append, hclosing, List.append_nil, List.filterMap_map]
  exact List.filterMap_eq_map_iff_forall_eq_some.mpr fun spelled _ => spelled.readTag_text

/-! ## Other spellings -/

theorem SameTags.forall {record record' : TagRecord} (h : record.SameTags record')
    (p : Tag → Prop) (hall : ∀ spelled ∈ record.tags, p spelled.tag) :
    ∀ spelled ∈ record'.tags, p spelled.tag := by
  intro spelled hspelled
  have hmem := List.mem_map_of_mem (f := SpelledTag.tag) hspelled
  rw [← h.1] at hmem
  obtain ⟨original, horiginal, htag⟩ := List.mem_map.mp hmem
  exact htag ▸ hall original horiginal

/-- No name of a record has to be read. -/
theorem exists_spaced : ∃ record' : TagRecord, record.SameTags record' ∧
    ∀ spelled ∈ record'.tags, spelled.gaps.before.chars ≠ [] := by
  refine ⟨⟨record.tags.map fun spelled => spelled.tag.spaced, record.closing,
    List.map_eq_nil_iff.not.mpr record.nonempty⟩, ⟨?_, rfl⟩, ?_⟩
  · rw [List.map_map]
    rfl
  · intro spelled hspelled
    obtain ⟨original, -, rfl⟩ := List.mem_map.mp hspelled
    exact original.tag.spaced_before

/-- No name has to be read but a given one. -/
theorem exists_only {record : TagRecord} {spelled : SpelledTag} (h : spelled ∈ record.tags) :
    ∃ (record' : TagRecord) (before after : List SpelledTag), record.SameTags record' ∧
      record'.tags = before ++ spelled.tag.plain :: after ∧
      ∀ other ∈ before ++ after, other.gaps.before.chars ≠ [] := by
  obtain ⟨before, after, htags⟩ := List.append_of_mem h
  refine ⟨⟨before.map (fun other => other.tag.spaced) ++ spelled.tag.plain ::
    after.map (fun other => other.tag.spaced), record.closing, by simp⟩, _, _, ⟨?_, rfl⟩, rfl, ?_⟩
  · rw [htags, List.map_append, List.map_append, List.map_cons, List.map_cons, List.map_map,
      List.map_map]
    rfl
  · intro other hother
    rw [← List.map_append] at hother
    obtain ⟨original, -, rfl⟩ := List.mem_map.mp hother
    exact original.tag.spaced_before

/-- The blanks around the equals signs of some tags are the same in both records. -/
def Kept (matters : Tag → Prop) (record record' : TagRecord) : Prop :=
  List.Forall₂ (fun spelled spelled' => spelled.tag = spelled'.tag ∧
    (matters spelled.tag → spelled.gaps.before.chars = spelled'.gaps.before.chars ∧
      spelled.gaps.after.chars = spelled'.gaps.after.chars)) record.tags record'.tags

end TagRecord

/-! ## Texts with a tag in every part -/

/-- What is between blanks, and the blanks. -/
theorem exists_blanks (cs : List Char) : ∃ (before after : Blanks) (middle : List Char),
    cs = before.chars ++ middle ++ after.chars ∧ NoBlankEnds middle := by
  obtain ⟨before, after, hcs, hbefore, hafter⟩ := trimMatches_append isBlank cs
  exact ⟨⟨before, hbefore⟩, ⟨after, hafter⟩, _, hcs,
    fun _ hc => trimMatches_head hc, fun _ hc => trimMatches_last hc⟩

theorem exists_spelledTag {part : List Char} (hequals : '=' ∈ part) (hsemicolon : ';' ∉ part) :
    ∃ spelled : SpelledTag, spelled.text = part := by
  obtain ⟨front, back, rfl, hfront⟩ := List.eq_append_cons_of_mem hequals
  obtain ⟨before, before', name, rfl, hname⟩ := exists_blanks front
  obtain ⟨after, after', value, rfl, hvalue⟩ := exists_blanks back
  have hsemicolonName : ';' ∉ name := fun h => hsemicolon (by simp [h])
  have hequalsName : '=' ∉ name := fun h => hfront (by simp [h])
  refine ⟨⟨⟨name, value, fun c hc => ⟨ne_of_mem_of_not_mem hc hsemicolonName,
    ne_of_mem_of_not_mem hc hequalsName⟩, fun h => hsemicolon (by simp [h]), hname, hvalue⟩,
    ⟨before, before', after, after'⟩⟩, ?_⟩
  simp [SpelledTag.text]

/-- Every text whose parts all have an equals sign is a record of tags. -/
theorem exists_tagRecord {text : String} (h : ∀ part ∈ text.toList.splitOn ';', '=' ∈ part) :
    ∃ record : TagRecord, record.text = text := by
  have hparts : ∀ parts : List (List Char), (∀ part ∈ parts, '=' ∈ part ∧ ';' ∉ part) →
      ∃ tags : List SpelledTag, tags.map SpelledTag.text = parts := by
    intro parts hall
    induction parts with
    | nil => exact ⟨[], rfl⟩
    | cons part rest ih =>
      obtain ⟨hequals, hsemicolon⟩ := hall part List.mem_cons_self
      obtain ⟨spelled, hspelled⟩ := exists_spelledTag hequals hsemicolon
      obtain ⟨tags, htags⟩ := ih fun part' hpart' => hall part' (List.mem_cons_of_mem _ hpart')
      exact ⟨spelled :: tags, by rw [List.map_cons, hspelled, htags]⟩
  obtain ⟨tags, htags⟩ := hparts _ fun part hpart =>
    ⟨h part hpart, notMem_of_mem_splitOn hpart⟩
  have hne : tags ≠ [] := by
    rintro rfl
    exact List.splitOn_ne_nil _ _ htags.symm
  refine ⟨⟨tags, none, hne⟩, String.toList_injective ?_⟩
  rw [TagRecord.text, TagRecord.parts, htags, String.toList_ofList]
  exact (congrArg _ (List.append_nil _)).trans (List.intercalate_splitOn ';')

end Surface

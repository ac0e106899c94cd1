import Surface.Dns.Mail
import Surface.Findings
import Surface.Intelligence.Dkim
import Surface.TagList

/-!
# Surface.Dns.MailBlanks

What the blanks around the separators of DMARC and DKIM records do to their interpretation.

* `parseDmarc_text`, `parseDkim_text`: the interpretation, from the tags and their blanks.
* `mailRecords_blanks`: blanks around semicolons change nothing; blanks around an equals sign are
  read as a part of the name or of the value.
-/

namespace Surface

/-! ## DMARC -/

/-- What is interpreted of a record, without its text. -/
def DmarcObservation.interpreted (observation : DmarcObservation) : DmarcObservation :=
  { observation with record := "" }

def noDmarc : DmarcObservation where
  record := ""
  policy := none
  subdomainPolicy := none
  percentage := none
  aggregateReports := []
  adkim := none
  aspf := none

/-- The names that are interpreted whatever their value is. -/
def dmarcWords : List String := ["p", "sp", "rua", "adkim", "aspf"]

def dmarcName (name : List Char) : String := String.ofList (lowerChars name)

/-- The percentage that a value of the tag stands for. -/
def dmarcPercentage (value : List Char) : Option Nat := (parseU8 value).filter (· ≤ 100)

theorem dmarcPart_of_none {part : List Char} (h : readTag part = none)
    (result : DmarcObservation) : dmarcPart result part = result := by
  rw [readTag] at h
  rw [dmarcPart, h]

theorem dmarcPart_congr {part part' : List Char} (h : readTag part = readTag part')
    (result : DmarcObservation) : dmarcPart result part = dmarcPart result part' := by
  rw [readTag, readTag] at h
  rw [dmarcPart, dmarcPart, h]

theorem dmarcPart_record (record : String) (result : DmarcObservation) (part : List Char) :
    dmarcPart { result with record := record } part =
      { dmarcPart result part with record := record } := by
  unfold dmarcPart
  split
  · rfl
  · split <;> rfl

theorem dmarcPart_unknown {part name value : List Char} (h : readTag part = some (name, value))
    (hname : dmarcName name ∉ "pct" :: dmarcWords) (result : DmarcObservation) :
    dmarcPart result part = result := by
  have hne : ∀ word ∈ "pct" :: dmarcWords, String.ofList (lowerChars name) ≠ word :=
    fun word hword (heq : dmarcName name = word) => hname (heq ▸ hword)
  rw [readTag] at h
  rw [dmarcPart, h]
  simp only
  split <;> first | rfl | exact absurd ‹_› (hne _ (by decide))

theorem dmarcPart_pct {part name value : List Char} (h : readTag part = some (name, value))
    (hname : dmarcName name = "pct") (result : DmarcObservation) :
    dmarcPart result part = { result with percentage := dmarcPercentage value } := by
  rw [readTag] at h
  rw [dmarcName] at hname
  rw [dmarcPart, h]
  simp only [hname]
  rfl

theorem dmarcPart_ne {part name value : List Char} (h : readTag part = some (name, value))
    (hname : dmarcName name ∈ dmarcWords) : dmarcPart noDmarc part ≠ noDmarc := by
  rw [readTag] at h
  rw [dmarcName] at hname
  rw [dmarcPart, h]
  have hreports : (((value.splitOn ',').map trimSpaces).take maxDmarcDestinations).map
      (fun destination => String.ofList (destination.take maxDmarcDestinationChars)) ≠ [] := by
    intro hnil
    rw [List.map_eq_nil_iff, List.take_eq_nil_iff, List.map_eq_nil_iff] at hnil
    exact hnil.elim (by decide) (List.splitOn_ne_nil _ _)
  simp only
  split
  · exact fun heq => Option.some_ne_none _ (congrArg DmarcObservation.policy heq)
  · exact fun heq => Option.some_ne_none _ (congrArg DmarcObservation.subdomainPolicy heq)
  · rename_i hpct
    rw [hpct] at hname
    exact absurd hname (by decide)
  · exact fun heq => hreports (congrArg DmarcObservation.aggregateReports heq)
  · exact fun heq => Option.some_ne_none _ (congrArg DmarcObservation.adkim heq)
  · exact fun heq => Option.some_ne_none _ (congrArg DmarcObservation.aspf heq)
  · rename_i hp hsp _ hrua hadkim haspf
    simp only [dmarcWords, List.mem_cons, List.not_mem_nil, or_false] at hname
    rcases hname with hname | hname | hname | hname | hname
    exacts [(hp hname).elim, (hsp hname).elim, (hrua hname).elim, (hadkim hname).elim,
      (haspf hname).elim]

/-- A tag that leaves an empty interpretation empty, however it is spelled. -/
def DmarcInert (tag : Tag) : Prop :=
  dmarcName (tag.name.dropWhile isUnicodeSpace) ∉ dmarcWords ∧
    (dmarcName (tag.name.dropWhile isUnicodeSpace) = "pct" →
      dmarcPercentage (tag.value.rdropWhile isUnicodeSpace) = none)

theorem toLower_of_isBlank {c : Char} (h : isBlank c = true) : c.toLower = c := by
  rcases Bool.or_eq_true_iff.mp h with hspace | htab
  · rw [beq_iff_eq.mp hspace]
    decide
  · rw [beq_iff_eq.mp htab]
    decide

/-- No name that is interpreted is empty or has a blank in it. -/
theorem dmarcName_notMem {name : List Char} (h : name = [] ∨ ∃ c ∈ name, isBlank c = true) :
    dmarcName name ∉ "pct" :: dmarcWords := by
  refine notMem_of_wordChars (by decide) ?_
  rcases h with rfl | ⟨c, hc, hblank⟩
  · exact .inl rfl
  · exact .inr ⟨c, List.mem_map.mpr ⟨c, hc, toLower_of_isBlank hblank⟩, hblank⟩

/-- A value that a blank is put in front of is no percentage. -/
theorem dmarcPercentage_blank {value : List Char}
    (h : value = [] ∨ ∃ c rest, value = c :: rest ∧ isBlank c = true) :
    dmarcPercentage value = none := by
  rcases h with rfl | ⟨c, rest, rfl, hblank⟩
  · rfl
  · rcases Bool.or_eq_true_iff.mp hblank with hspace | htab
    · rw [beq_iff_eq.mp hspace]
      rfl
    · rw [beq_iff_eq.mp htab]
      rfl

theorem parseDmarc_text (record : TagRecord) :
    (parseDmarc record.text).interpreted =
      (record.tags.map SpelledTag.text).foldl dmarcPart noDmarc := by
  have hrun : ∀ (parts : List (List Char)) (result : DmarcObservation) (text : String),
      parts.foldl dmarcPart { result with record := text } =
        { parts.foldl dmarcPart result with record := text } := by
    intro parts
    induction parts with
    | nil => exact fun _ _ => rfl
    | cons part rest ih =>
      intro result text
      rw [List.foldl_cons, dmarcPart_record, ih, List.foldl_cons]
  have hempty := hrun record.parts noDmarc ""
  rw [← record.foldl_parts fun state part h => dmarcPart_of_none h state]
  have htext := hrun record.parts noDmarc record.text
  rw [parseDmarc, record.splitOn_text]
  exact (congrArg DmarcObservation.interpreted htext).trans hempty.symm

/-- A tag whose name is not interpreted, with the blanks in front of its equals sign. -/
theorem dmarcPart_ignored {spelled : SpelledTag}
    (h : spelled.gaps.before.chars ≠ [] ∨
      dmarcName (spelled.tag.name.dropWhile isUnicodeSpace) ∉ "pct" :: dmarcWords)
    (result : DmarcObservation) : dmarcPart result spelled.text = result := by
  refine dmarcPart_unknown spelled.readTag_text ?_ result
  by_cases hbefore : spelled.gaps.before.chars = []
  · rw [spelled.readName_of_none hbefore]
    exact h.resolve_left (not_not_intro hbefore)
  · exact dmarcName_notMem (spelled.readName_of_blanks hbefore)

theorem dmarcPart_inert {spelled : SpelledTag} (h : DmarcInert spelled.tag) :
    dmarcPart noDmarc spelled.text = noDmarc := by
  by_cases hignored : spelled.gaps.before.chars ≠ [] ∨
      dmarcName (spelled.tag.name.dropWhile isUnicodeSpace) ∉ "pct" :: dmarcWords
  · exact dmarcPart_ignored hignored noDmarc
  · rw [not_or, not_not, not_not, List.mem_cons] at hignored
    have hpct := hignored.2.resolve_right h.1
    rw [← spelled.readName_of_none hignored.1] at hpct
    rw [dmarcPart_pct spelled.readTag_text hpct]
    have hvalue : dmarcPercentage spelled.readValue = none := by
      by_cases hafter : spelled.gaps.after.chars = []
      · rw [spelled.readValue_of_none hafter]
        exact h.2 (by rwa [← spelled.readName_of_none hignored.1])
      · exact dmarcPercentage_blank (spelled.readValue_of_blanks hafter)
    rw [hvalue]
    rfl

/-- Nothing that is interpreted depends on the blanks. -/
def DmarcUnchanged (record : TagRecord) : Prop :=
  ∀ record', record.SameTags record' →
    (parseDmarc record'.text).interpreted = (parseDmarc record.text).interpreted

theorem foldl_ignored {spelled : List SpelledTag}
    (h : ∀ other ∈ spelled, other.gaps.before.chars ≠ []) (result : DmarcObservation) :
    (spelled.map SpelledTag.text).foldl dmarcPart result = result := by
  induction spelled with
  | nil => rfl
  | cons other rest ih =>
    rw [List.map_cons, List.foldl_cons, dmarcPart_ignored (.inl (h other List.mem_cons_self))]
    exact ih fun other hother => h other (List.mem_cons_of_mem _ hother)

theorem dmarcUnchanged_iff (record : TagRecord) :
    DmarcUnchanged record ↔ ∀ spelled ∈ record.tags, DmarcInert spelled.tag := by
  constructor
  · intro h spelled hspelled
    obtain ⟨spaced, hspaced, hall⟩ := record.exists_spaced
    obtain ⟨only, before, after, honly, htags, hothers⟩ := TagRecord.exists_only hspelled
    have hnone : dmarcPart noDmarc spelled.tag.plain.text = noDmarc := by
      have hsame := (h only honly).trans (h spaced hspaced).symm
      rw [parseDmarc_text, parseDmarc_text, foldl_ignored hall, htags, List.map_append,
        List.map_cons, List.foldl_append, List.foldl_cons,
        foldl_ignored fun other hother => hothers other (List.mem_append_left _ hother),
        foldl_ignored fun other hother => hothers other (List.mem_append_right _ hother)] at hsame
      exact hsame
    have hread := spelled.tag.plain.readTag_text
    rw [spelled.tag.plain_readName, spelled.tag.plain_readValue] at hread
    refine ⟨fun hword => dmarcPart_ne hread hword hnone, fun hpct => ?_⟩
    rw [dmarcPart_pct hread hpct] at hnone
    exact congrArg DmarcObservation.percentage hnone
  · intro h record' hsame
    have hempty : ∀ tags : List SpelledTag, (∀ spelled ∈ tags, DmarcInert spelled.tag) →
        (tags.map SpelledTag.text).foldl dmarcPart noDmarc = noDmarc := by
      intro tags
      induction tags with
      | nil => exact fun _ => rfl
      | cons spelled rest ih =>
        intro hall
        rw [List.map_cons, List.foldl_cons, dmarcPart_inert (hall spelled List.mem_cons_self)]
        exact ih fun other hother => hall other (List.mem_cons_of_mem _ hother)
    rw [parseDmarc_text, parseDmarc_text, hempty _ h, hempty _ (hsame.forall DmarcInert h)]

/-! ## DKIM -/

def dkimWords : List String := ["v", "k", "p"]

def dkimName (name : List Char) : String := String.ofList name

/-- The value of the last tag with a name. -/
def dkimValue (tags : List SpelledTag) (word : String) : Option String :=
  (OrdMap.ofList (tags.map fun spelled =>
    (dkimName spelled.readName, String.ofList spelled.readValue))).get word

theorem dkimValue_eq (tags : List SpelledTag) (word : String) :
    dkimValue tags word = (tags.reverse.map fun spelled =>
      (dkimName spelled.readName, String.ofList spelled.readValue)).lookup word := by
  rw [dkimValue, OrdMap.get_ofList, List.map_reverse]

/-- What is said of a key, from the values of its tags. -/
def dkimObservation (sha256 : List UInt8 → List UInt8) (selector : String) (records : Nat)
    (value : String → Option String) : DkimObservation where
  selector := selector
  records := records
  version := value "v"
  keyType := value "k"
  publicKeyFingerprint :=
    ((value "p").filter (· ≠ "")).map fun key => "sha256:" ++ hex (sha256 (utf8Bytes key))
  revoked := decide (value "p" = some "")
  malformed := decide (1 < records) || (decide (value "v" ≠ some "DKIM1") || (value "p").isNone)

section Dkim

variable (sha256 : List UInt8 → List UInt8) (selector : String) (rest : List String)

theorem parseDkim_text (record : TagRecord) :
    parseDkim sha256 selector (record.text :: rest) =
      dkimObservation sha256 selector (rest.length + 1) (dkimValue record.tags) := by
  have htags : ((record.text.toList.splitOn ';').filterMap fun part =>
      (splitOnce '=' (trimSpaces part)).map fun tag => (String.ofList tag.1, String.ofList tag.2)) =
      record.tags.map fun spelled =>
        (dkimName spelled.readName, String.ofList spelled.readValue) := by
    have hread := congrArg
      (List.map fun tag : List Char × List Char => (String.ofList tag.1, String.ofList tag.2))
      record.filterMap_parts
    rw [List.map_filterMap, List.map_map] at hread
    rw [record.splitOn_text]
    exact hread
  simp only [parseDkim, List.headD_cons, htags, List.length_cons, ne_eq, record.text_ne_empty,
    not_false_eq_true, decide_true, Bool.true_and]
  rfl

/-- A tag whose name DKIM gives a meaning. -/
def DkimRead (tag : Tag) : Prop := dkimName (tag.name.dropWhile isUnicodeSpace) ∈ dkimWords

theorem dkimName_notMem {name : List Char} (h : name = [] ∨ ∃ c ∈ name, isBlank c = true) :
    dkimName name ∉ dkimWords := notMem_of_wordChars (by decide) h

theorem dkimName_ignored {spelled : SpelledTag}
    (h : spelled.gaps.before.chars ≠ [] ∨ ¬DkimRead spelled.tag) :
    dkimName spelled.readName ∉ dkimWords := by
  by_cases hbefore : spelled.gaps.before.chars = []
  · rw [spelled.readName_of_none hbefore]
    exact h.resolve_left (not_not_intro hbefore)
  · exact dkimName_notMem (spelled.readName_of_blanks hbefore)

theorem lookup_ignored {tags : List SpelledTag} {word : String} (hword : word ∈ dkimWords)
    (h : ∀ spelled ∈ tags, spelled.gaps.before.chars ≠ [] ∨ ¬DkimRead spelled.tag) :
    (tags.map fun spelled => (dkimName spelled.readName, String.ofList spelled.readValue)).lookup
      word = none := by
  rw [List.lookup_eq_none_iff]
  intro entry hentry
  obtain ⟨spelled, hspelled, rfl⟩ := List.mem_map.mp hentry
  have hname := dkimName_ignored (h spelled hspelled)
  exact bne_iff_ne.mpr fun heq : word = dkimName spelled.readName => hname (heq ▸ hword)

theorem dkimValue_ignored {tags : List SpelledTag} {word : String} (hword : word ∈ dkimWords)
    (h : ∀ spelled ∈ tags, spelled.gaps.before.chars ≠ [] ∨ ¬DkimRead spelled.tag) :
    dkimValue tags word = none := by
  rw [dkimValue_eq]
  exact lookup_ignored hword fun spelled hspelled => h spelled (List.mem_reverse.mp hspelled)

theorem dkimValue_only {before after : List SpelledTag} {spelled : SpelledTag}
    (hword : dkimName spelled.readName ∈ dkimWords)
    (h : ∀ other ∈ before ++ after, other.gaps.before.chars ≠ []) :
    dkimValue (before ++ spelled :: after) (dkimName spelled.readName) =
      some (String.ofList spelled.readValue) := by
  have hafter := lookup_ignored hword fun other (hother : other ∈ after.reverse) =>
    .inl (h other (List.mem_append_right _ (List.mem_reverse.mp hother)))
  rw [dkimValue_eq, List.reverse_append, List.reverse_cons, List.append_assoc, List.map_append,
    List.lookup_append, hafter]
  simp

theorem dkimObservation_congr {records : Nat} {value value' : String → Option String}
    (h : ∀ word ∈ dkimWords, value word = value' word) :
    dkimObservation sha256 selector records value =
      dkimObservation sha256 selector records value' := by
  simp only [dkimObservation, h "v" (by decide), h "k" (by decide), h "p" (by decide)]

/-- A value that is read of one of the tags is seen in the observation. -/
theorem dkimObservation_ne {records : Nat} {value value' : String → Option String}
    {word read : String} (hword : word ∈ dkimWords) (h : value word = some read)
    (h' : value' word = none) :
    dkimObservation sha256 selector records value ≠
      dkimObservation sha256 selector records value' := by
  intro hsame
  have hversion := congrArg DkimObservation.version hsame
  have hkeyType := congrArg DkimObservation.keyType hsame
  have hrevoked := congrArg DkimObservation.revoked hsame
  have hfingerprint := congrArg DkimObservation.publicKeyFingerprint hsame
  simp only [dkimWords, List.mem_cons, List.not_mem_nil, or_false] at hword
  rcases hword with rfl | rfl | rfl
  · exact absurd (h.symm.trans (hversion.trans h')) nofun
  · exact absurd (h.symm.trans (hkeyType.trans h')) nofun
  · simp only [dkimObservation, h, h'] at hrevoked hfingerprint
    by_cases hempty : read = ""
    · simp [hempty] at hrevoked
    · simp [hempty] at hfingerprint

def DkimUnchanged (record : TagRecord) : Prop :=
  ∀ record', record.SameTags record' →
    parseDkim sha256 selector (record'.text :: rest) =
      parseDkim sha256 selector (record.text :: rest)

theorem dkimUnchanged_iff (record : TagRecord) :
    DkimUnchanged sha256 selector rest record ↔
      ∀ spelled ∈ record.tags, ¬DkimRead spelled.tag := by
  constructor
  · intro h spelled hspelled hword
    obtain ⟨spaced, hspaced, hall⟩ := record.exists_spaced
    obtain ⟨only, before, after, honly, htags, hothers⟩ := TagRecord.exists_only hspelled
    have hsame := (h only honly).trans (h spaced hspaced).symm
    rw [parseDkim_text, parseDkim_text, htags] at hsame
    rw [DkimRead, ← spelled.tag.plain_readName] at hword
    exact dkimObservation_ne sha256 selector hword (dkimValue_only hword hothers)
      (dkimValue_ignored hword fun other hother => .inl (hall other hother)) hsame
  · intro h record' hsame
    have htags := hsame.forall (fun tag => ¬DkimRead tag) h
    rw [parseDkim_text, parseDkim_text]
    refine dkimObservation_congr sha256 selector fun word hword => ?_
    rw [dkimValue_ignored hword fun spelled hspelled => .inr (htags spelled hspelled),
      dkimValue_ignored hword fun spelled hspelled => .inr (h spelled hspelled)]

end Dkim

/-! ## The blanks that matter -/

/-- A tag whose name DMARC gives a meaning. -/
def DmarcRead (tag : Tag) : Prop :=
  dmarcName (tag.name.dropWhile isUnicodeSpace) ∈ "pct" :: dmarcWords

theorem readTag_kept {spelled spelled' : SpelledTag} (htag : spelled.tag = spelled'.tag)
    (hbefore : spelled.gaps.before.chars = spelled'.gaps.before.chars)
    (hafter : spelled.gaps.after.chars = spelled'.gaps.after.chars) :
    spelled.readName = spelled'.readName ∧ spelled.readValue = spelled'.readValue := by
  constructor
  · rw [SpelledTag.readName, SpelledTag.readName, htag, hbefore]
  · rw [SpelledTag.readValue, SpelledTag.readValue, htag, hafter]

theorem parseDmarc_kept {record record' : TagRecord} (h : record.Kept DmarcRead record') :
    (parseDmarc record.text).interpreted = (parseDmarc record'.text).interpreted := by
  rw [parseDmarc_text, parseDmarc_text]
  unfold TagRecord.Kept at h
  generalize record.tags = tags at h ⊢
  generalize record'.tags = tags' at h ⊢
  generalize noDmarc = result
  induction h generalizing result with
  | nil => rfl
  | @cons spelled spelled' rest rest' hkept _ ih =>
    have hpart : dmarcPart result spelled.text = dmarcPart result spelled'.text := by
      by_cases hread : DmarcRead spelled.tag
      · obtain ⟨hbefore, hafter⟩ := hkept.2 hread
        obtain ⟨hname, hvalue⟩ := readTag_kept hkept.1 hbefore hafter
        refine dmarcPart_congr ?_ result
        rw [spelled.readTag_text, spelled'.readTag_text, hname, hvalue]
      · rw [dmarcPart_ignored (.inr hread), dmarcPart_ignored (.inr (hkept.1 ▸ hread))]
    rw [List.map_cons, List.map_cons, List.foldl_cons, List.foldl_cons, hpart, ih]

theorem parseDkim_kept (sha256 : List UInt8 → List UInt8) (selector : String) (rest : List String)
    {record record' : TagRecord} (h : record.Kept DkimRead record') :
    parseDkim sha256 selector (record.text :: rest) =
      parseDkim sha256 selector (record'.text :: rest) := by
  rw [parseDkim_text, parseDkim_text]
  refine dkimObservation_congr sha256 selector fun word hword => ?_
  rw [dkimValue_eq, dkimValue_eq]
  unfold TagRecord.Kept at h
  rw [← List.forall₂_reverse_iff] at h
  generalize record.tags.reverse = tags at h ⊢
  generalize record'.tags.reverse = tags' at h ⊢
  induction h with
  | nil => rfl
  | @cons spelled spelled' rest rest' hkept _ ih =>
    rw [List.map_cons, List.map_cons, List.lookup_cons, List.lookup_cons, ih]
    by_cases hread : DkimRead spelled.tag
    · obtain ⟨hbefore, hafter⟩ := hkept.2 hread
      obtain ⟨hname, hvalue⟩ := readTag_kept hkept.1 hbefore hafter
      rw [hname, hvalue]
    · have hne : dkimName spelled.readName ∉ dkimWords := dkimName_ignored (.inr hread)
      have hne' : dkimName spelled'.readName ∉ dkimWords :=
        dkimName_ignored (.inr (hkept.1 ▸ hread))
      rw [beq_false_of_ne fun heq : word = dkimName spelled.readName => hne (heq ▸ hword),
        beq_false_of_ne fun heq : word = dkimName spelled'.readName => hne' (heq ▸ hword)]

/-- What the blanks of a record do. -/
structure MailBlanks (record : TagRecord) : Prop where
  dmarc : DmarcUnchanged record ↔ ∀ spelled ∈ record.tags, DmarcInert spelled.tag
  dkim : ∀ sha256 selector rest, DkimUnchanged sha256 selector rest record ↔
    ∀ spelled ∈ record.tags, ¬DkimRead spelled.tag
  dmarcKept : ∀ record', record.Kept DmarcRead record' →
    (parseDmarc record.text).interpreted = (parseDmarc record'.text).interpreted
  dkimKept : ∀ sha256 selector rest record', record.Kept DkimRead record' →
    parseDkim sha256 selector (record.text :: rest) =
      parseDkim sha256 selector (record'.text :: rest)

theorem mailRecords_blanks (record : TagRecord) : MailBlanks record where
  dmarc := dmarcUnchanged_iff record
  dkim sha256 selector rest := dkimUnchanged_iff sha256 selector rest record
  dmarcKept _ h := parseDmarc_kept h
  dkimKept sha256 selector rest _ h := parseDkim_kept sha256 selector rest h

/-! ## A record with blanks in it -/

def versionTag (version : List Char) (hplain : ';' ∉ version) (hends : NoBlankEnds version) :
    Tag where
  name := ['v']
  value := version
  name_plain := noSeparators_of_all rfl
  value_plain := hplain
  name_ends := noBlankEnds_of_all rfl
  value_ends := hends

def policyTag : Tag where
  name := ['p']
  value := "none".toList
  name_plain := noSeparators_of_all rfl
  value_plain := by decide
  name_ends := noBlankEnds_of_all rfl
  value_ends := noBlankEnds_of_all rfl

/-- The version as it has to be, and a tag `p` with the given blanks. -/
def mailRecord (version : Tag) (gaps : Gaps) : TagRecord :=
  ⟨[version.plain, ⟨policyTag, gaps⟩], none, List.cons_ne_nil _ _⟩

def dmarcVersion : Tag := versionTag "DMARC1".toList (by decide) (noBlankEnds_of_all rfl)

def dkimVersion : Tag := versionTag "DKIM1".toList (by decide) (noBlankEnds_of_all rfl)

def spacedGaps : Gaps := { front := .space, before := .space, after := .space }

def observedDmarc (record : String) : DnsObservation :=
  { explicitIpObservation fixtureTarget (.v4 0#32) with mail := interpretMail [] [record] [] [] }

theorem mailRecords_spaced :
    (mailRecord dmarcVersion {}).text = "v=DMARC1;p=none" ∧
      (mailRecord dmarcVersion spacedGaps).text = "v=DMARC1; p = none" ∧
      ¬DmarcUnchanged (mailRecord dmarcVersion {}) ∧
      (mailFindings "example.com" (observedDmarc "v=DMARC1;p=none")).map Finding.id =
        ["MAIL-DMARC-MONITORING"] ∧
      mailFindings "example.com" (observedDmarc "v=DMARC1; p = none") = [] ∧
      ¬DkimUnchanged id "default" [] (mailRecord dkimVersion {}) := by
  refine ⟨by decide, by decide, fun h => ?_, by decide, by decide, fun h => ?_⟩
  · have hpolicy := congrArg DmarcObservation.policy
      (h (mailRecord dmarcVersion spacedGaps) ⟨rfl, rfl⟩)
    exact absurd hpolicy (by decide)
  · have hmalformed := congrArg DkimObservation.malformed
      (h (mailRecord dkimVersion spacedGaps) ⟨rfl, rfl⟩)
    exact absurd hmalformed (by decide)

end Surface

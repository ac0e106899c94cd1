import Mathlib.Data.List.DropRight
import Mathlib.Data.List.Infix

/-!
# Surface.Text

The operations on texts that several stages share.
-/

namespace Surface

def hasStart (start value : String) : Bool := start.toList.isPrefixOf value.toList

def hasText (part value : String) : Bool := decide (part.toList <:+: value.toList)

/-- The control characters of Unicode, in both of their ranges. -/
def isControl (c : Char) : Bool := decide (c.toNat < 0x20 ∨ 0x7f ≤ c.toNat ∧ c.toNat < 0xa0)

/-- The bytes of the UTF-8 encoding. -/
def utf8Bytes (text : String) : List UInt8 := text.toByteArray.data.toList

def fromUtf8 (bytes : List UInt8) : Option String := String.fromUTF8? ⟨bytes.toArray⟩

/-- The parts of a text between the occurrences of a character. -/
def splitText (separator : Char) (text : String) : List String :=
  (text.toList.splitOn separator).map String.ofList

/-- The text before and after the first occurrence of a separator. -/
def splitOnce (separator : Char) (cs : List Char) : Option (List Char × List Char) :=
  match cs.span (· ≠ separator) with
  | (_, []) => none
  | (before, _ :: after) => some (before, after)

/-- White space in the sense of the Unicode property, which `str::trim` removes. -/
def isUnicodeSpace (c : Char) : Bool :=
  (9 ≤ c.toNat && c.toNat ≤ 13) || (0x2000 ≤ c.toNat && c.toNat ≤ 0x200a) ||
    c.toNat ∈ [0x20, 0x85, 0xa0, 0x1680, 0x2028, 0x2029, 0x202f, 0x205f, 0x3000]

def trimSpaces (cs : List Char) : List Char :=
  ((cs.dropWhile isUnicodeSpace).reverse.dropWhile isUnicodeSpace).reverse

/-- What is in front of the separator has none. -/
theorem splitOnce_append {separator : Char} {before after : List Char} (h : separator ∉ before) :
    splitOnce separator (before ++ separator :: after) = some (before, after) := by
  have hall : ∀ c ∈ before, decide (c ≠ separator) = true := fun c hc =>
    decide_eq_true (ne_of_mem_of_not_mem hc h)
  have hspan : (before ++ separator :: after).span (· ≠ separator) =
      (before, separator :: after) := by
    rw [List.span_eq_takeWhile_dropWhile, List.takeWhile_append_of_pos hall,
      List.dropWhile_append_of_pos hall]
    simp
  rw [splitOnce, hspan]

theorem splitOnce_eq_none_iff {separator : Char} {cs : List Char} :
    splitOnce separator cs = none ↔ separator ∉ cs := by
  constructor
  · intro h hmem
    obtain ⟨before, after, rfl, hbefore⟩ := List.eq_append_cons_of_mem hmem
    rw [splitOnce_append hbefore] at h
    cases h
  · intro h
    have hall : ∀ c ∈ cs, decide (c ≠ separator) = true := fun c hc =>
      decide_eq_true (ne_of_mem_of_not_mem hc h)
    rw [splitOnce, List.span_eq_takeWhile_dropWhile, List.dropWhile_eq_nil_iff.mpr hall]

theorem splitOnce_eq_some_iff {separator : Char} {cs before after : List Char} :
    splitOnce separator cs = some (before, after) ↔
      cs = before ++ separator :: after ∧ separator ∉ before := by
  constructor
  · intro h
    have hmem : separator ∈ cs := by
      by_contra hout
      rw [splitOnce_eq_none_iff.mpr hout] at h
      cases h
    obtain ⟨front, back, rfl, hfront⟩ := List.eq_append_cons_of_mem hmem
    rw [splitOnce_append hfront] at h
    cases h
    exact ⟨rfl, hfront⟩
  · rintro ⟨rfl, hbefore⟩
    exact splitOnce_append hbefore

/-- White space around a text without any is removed, and nothing else. -/
theorem trimSpaces_surrounded {before cs after : List Char}
    (hbefore : ∀ c ∈ before, isUnicodeSpace c = true) (hcs : ∀ c ∈ cs, isUnicodeSpace c = false)
    (hafter : ∀ c ∈ after, isUnicodeSpace c = true) : trimSpaces (before ++ cs ++ after) = cs := by
  have hkeep : ∀ {l : List Char}, (∀ c ∈ l, isUnicodeSpace c = false) →
      l.dropWhile isUnicodeSpace = l := by
    intro l hl
    cases l with
    | nil => rfl
    | cons c l => simp [hl c List.mem_cons_self]
  unfold trimSpaces
  rw [List.append_assoc, List.dropWhile_append_of_pos hbefore]
  cases cs with
  | nil =>
    rw [List.nil_append, ← List.append_nil after, List.dropWhile_append_of_pos hafter]
    rfl
  | cons c cs =>
    have hhead : isUnicodeSpace c = false := hcs c List.mem_cons_self
    have hdrop : (c :: cs ++ after).dropWhile isUnicodeSpace = c :: cs ++ after := by simp [hhead]
    rw [hdrop, List.reverse_append,
      List.dropWhile_append_of_pos fun d hd => hafter d (List.mem_reverse.mp hd),
      hkeep fun d hd => hcs d (List.mem_reverse.mp hd), List.reverse_reverse]

/-- White space is removed on the far sides of a character that is none. -/
theorem trimSpaces_around {c : Char} (hc : isUnicodeSpace c = false) (before after : List Char) :
    trimSpaces (before ++ c :: after) =
      before.dropWhile isUnicodeSpace ++ c :: after.rdropWhile isUnicodeSpace := by
  have hfront : ∀ {front back : List Char}, (front ++ c :: back).dropWhile isUnicodeSpace =
      front.dropWhile isUnicodeSpace ++ c :: back := by
    intro front back
    induction front with
    | nil => simp [hc]
    | cons d front ih =>
      rw [List.cons_append, List.dropWhile_cons, List.dropWhile_cons]
      split
      · exact ih
      · rfl
  have hreverse : (before.dropWhile isUnicodeSpace ++ c :: after).reverse =
      after.reverse ++ c :: (before.dropWhile isUnicodeSpace).reverse := by simp
  rw [trimSpaces, hfront, hreverse, hfront]
  simp [List.rdropWhile]

/-- A word stays when the white space around the text is removed. -/
theorem trimSpaces_keeps {before word after : List Char} (hne : word ≠ [])
    (hword : ∀ c ∈ word, isUnicodeSpace c = false) :
    word <:+: trimSpaces (before ++ word ++ after) := by
  have hdrop : ∀ {front back l : List Char}, l ≠ [] → (∀ c ∈ l, isUnicodeSpace c = false) →
      (front ++ l ++ back).dropWhile isUnicodeSpace =
        front.dropWhile isUnicodeSpace ++ l ++ back := by
    intro front back l hl hall
    induction front with
    | nil =>
      cases l with
      | nil => exact absurd rfl hl
      | cons c l => simp [hall c List.mem_cons_self]
    | cons d front ih =>
      rw [List.cons_append, List.cons_append, List.dropWhile_cons, List.dropWhile_cons]
      split
      · exact ih
      · rfl
  have hreverse : ∀ c ∈ word.reverse, isUnicodeSpace c = false :=
    fun c hc => hword c (List.mem_reverse.mp hc)
  rw [trimSpaces, hdrop hne hword, List.reverse_append, List.reverse_append, ← List.append_assoc,
    hdrop (by simpa using hne) hreverse, List.reverse_append, List.reverse_append,
    List.reverse_reverse, List.reverse_reverse]
  exact ⟨before.dropWhile isUnicodeSpace, _, List.append_assoc _ _ _⟩

/-- A character of a joined text comes from the separator or from one of the texts. -/
theorem mem_intercalate {sep : String} {l : List String} {c : Char}
    (h : c ∈ (sep.intercalate l).toList) : c ∈ sep.toList ∨ ∃ s ∈ l, c ∈ s.toList := by
  induction l with
  | nil => simp at h
  | cons s l ih =>
    by_cases hl : l = []
    · subst hl
      rw [String.intercalate_singleton] at h
      exact .inr ⟨s, List.mem_cons_self, h⟩
    · rw [String.intercalate_cons_of_ne_nil hl, String.toList_append, String.toList_append] at h
      rcases List.mem_append.mp h with h | h
      · rcases List.mem_append.mp h with h | h
        · exact .inr ⟨s, List.mem_cons_self, h⟩
        · exact .inl h
      · rcases ih h with h | ⟨t, ht, h⟩
        · exact .inl h
        · exact .inr ⟨t, List.mem_cons_of_mem s ht, h⟩

/-! ## Letters and digits -/

theorem isUpper_bounds {c : Char} (h : c.isUpper = true) : 65 ≤ c.toNat ∧ c.toNat ≤ 90 :=
  of_decide_eq_true h

theorem isLower_bounds {c : Char} (h : c.isLower = true) : 97 ≤ c.toNat ∧ c.toNat ≤ 122 :=
  ((Bool.and_eq_true _ _).mp h).imp of_decide_eq_true of_decide_eq_true

theorem isDigit_bounds {c : Char} (h : c.isDigit = true) : 48 ≤ c.toNat ∧ c.toNat ≤ 57 :=
  ((Bool.and_eq_true _ _).mp h).imp of_decide_eq_true of_decide_eq_true

theorem isAlphanum_bounds {c : Char} (h : c.isAlphanum = true) :
    48 ≤ c.toNat ∧ c.toNat ≤ 122 := by
  rcases (Bool.or_eq_true _ _).mp h with halpha | hdigit
  · rcases (Bool.or_eq_true _ _).mp halpha with hupper | hlower
    · have := isUpper_bounds hupper
      omega
    · have := isLower_bounds hlower
      omega
  · have := isDigit_bounds hdigit
    omega

theorem toLower_eq {text lower : String} (h : text.toList.map Char.toLower = lower.toList) :
    text.toLower = lower :=
  String.toList_injective ((String.toList_map (f := Char.toLower)).trans h)

theorem toLower_eq_self {text : String} (h : ∀ c ∈ text.toList, c.isUpper = false) :
    text.toLower = text := by
  have hkeep : ∀ c ∈ text.toList, c.toLower = c := fun c hc =>
    dif_neg (of_decide_eq_false (h c hc))
  refine toLower_eq ?_
  rw [List.map_congr_left hkeep, List.map_id']

theorem intercalate_splitText {sep : String} {c : Char} (hsep : sep.toList = [c]) (text : String) :
    sep.intercalate (splitText c text) = text := by
  have hmap : (splitText c text).map String.toList = text.toList.splitOn c := by
    have hid : String.toList ∘ String.ofList = id := funext fun _ => String.toList_ofList
    rw [splitText, List.map_map, hid, List.map_id]
  refine String.toList_injective ?_
  rw [String.toList_intercalate, hsep, hmap]
  exact List.intercalate_splitOn c

/-- The separator is in none of the parts. -/
theorem notMem_of_mem_splitOn {c : Char} {cs part : List Char} (h : part ∈ cs.splitOn c) :
    c ∉ part := by
  induction hlength : cs.length using Nat.strong_induction_on generalizing cs with
  | _ length ih =>
    by_cases hc : c ∈ cs
    · obtain ⟨front, back, rfl, hfront⟩ := List.eq_append_cons_of_mem hc
      rw [List.splitOn_append_cons_self_of_not_mem hfront] at h
      rcases List.mem_cons.mp h with rfl | h
      · exact hfront
      · refine ih back.length ?_ h rfl
        rw [← hlength, List.length_append, List.length_cons]
        omega
    · rw [List.splitOn_eq_singleton hc, List.mem_singleton] at h
      rwa [h]

theorem splitText_intercalate {sep : String} {c : Char} (hsep : sep.toList = [c])
    {texts : List String} (hne : texts ≠ []) (hc : ∀ text ∈ texts, c ∉ text.toList) :
    splitText c (sep.intercalate texts) = texts := by
  have hsplit : (sep.intercalate texts).toList.splitOn c = texts.map String.toList := by
    rw [String.toList_intercalate, hsep]
    refine List.splitOn_intercalate c (fun l hl => ?_) (by simpa using hne)
    obtain ⟨text, htext, rfl⟩ := List.mem_map.mp hl
    exact hc text htext
  have hid : String.ofList ∘ String.toList = id := funext fun _ => String.ofList_toList
  rw [splitText, hsplit, List.map_map, hid, List.map_id]

/-! ## The end of a text -/

/-- A text without the characters at its end that are the given one, as `trim_end_matches` cuts
them off. -/
def trimEnd (c : Char) (text : String) : String := String.ofList (text.toList.rdropWhile (· == c))

theorem trimEnd_toList (c : Char) (text : String) :
    (trimEnd c text).toList = text.toList.rdropWhile (· == c) := String.toList_ofList

theorem trimEnd_append (c : Char) (text : String) :
    ∃ count, text = trimEnd c text ++ String.ofList (List.replicate count c) := by
  refine ⟨(text.toList.rtakeWhile (· == c)).length, String.toList_injective ?_⟩
  have hcut : text.toList.rtakeWhile (· == c) =
      List.replicate (text.toList.rtakeWhile (· == c)).length c :=
    List.eq_replicate_of_mem fun d hd => by
      have hequal : (d == c) = true := List.mem_rtakeWhile_imp (p := (· == c)) hd
      exact beq_iff_eq.mp hequal
  rw [String.toList_append, trimEnd_toList, String.toList_ofList, ← hcut,
    List.rdropWhile_append_rtakeWhile]

theorem trimEnd_eq_self {c : Char} {text : String} (h : text.toList.getLast? ≠ some c) :
    trimEnd c text = text := by
  refine String.toList_injective ?_
  rw [trimEnd_toList, List.rdropWhile_eq_self_iff]
  intro hne hlast
  rw [beq_iff_eq] at hlast
  exact h (hlast ▸ List.getLast?_eq_some_getLast hne)

theorem trimEnd_getLast (c : Char) (text : String) :
    (trimEnd c text).toList.getLast? ≠ some c := by
  rw [trimEnd_toList]
  intro h
  have hne : text.toList.rdropWhile (· == c) ≠ [] := fun hnil => (by rw [hnil] at h; cases h)
  rw [List.getLast?_eq_some_getLast hne, Option.some.injEq] at h
  exact List.rdropWhile_last_not _ _ hne (beq_iff_eq.mpr h)

theorem mem_trimEnd {c d : Char} {text : String} (h : d ∈ (trimEnd c text).toList) :
    d ∈ text.toList := by
  rw [trimEnd_toList] at h
  exact (List.rdropWhile_prefix _ _).subset h

/-! ## Both ends of a text -/

theorem rdropWhile_append_of_pos {p : Char → Bool} {l l' : List Char} (h : ∀ c ∈ l', p c = true) :
    (l ++ l').rdropWhile p = l.rdropWhile p := by
  rw [List.rdropWhile, List.reverse_append,
    List.dropWhile_append_of_pos fun c hc => h c (List.mem_reverse.mp hc), List.rdropWhile]

/-- A text without the characters at its ends that are to be matched. -/
def trimMatches (p : Char → Bool) (cs : List Char) : List Char := (cs.dropWhile p).rdropWhile p

theorem trimMatches_append (p : Char → Bool) (cs : List Char) :
    ∃ before after, cs = before ++ trimMatches p cs ++ after ∧
      (∀ c ∈ before, p c = true) ∧ ∀ c ∈ after, p c = true := by
  refine ⟨cs.takeWhile p, (cs.dropWhile p).rtakeWhile p, ?_, fun c hc => List.mem_takeWhile_imp hc,
    fun c hc => List.mem_rtakeWhile_imp hc⟩
  rw [List.append_assoc, trimMatches, List.rdropWhile_append_rtakeWhile,
    List.takeWhile_append_dropWhile]

theorem trimMatches_last {p : Char → Bool} {cs : List Char} {c : Char}
    (h : (trimMatches p cs).getLast? = some c) : p c = false := by
  have hne : trimMatches p cs ≠ [] := fun hnil => by rw [hnil] at h; cases h
  rw [List.getLast?_eq_some_getLast hne, Option.some.injEq] at h
  exact h ▸ Bool.eq_false_iff.mpr (List.rdropWhile_last_not _ _ hne)

theorem trimMatches_head {p : Char → Bool} {cs : List Char} {c : Char}
    (h : (trimMatches p cs).head? = some c) : p c = false := by
  obtain ⟨rest, hrest⟩ := List.rdropWhile_prefix p (cs.dropWhile p)
  have hhead : (cs.dropWhile p).head? = some c := by
    rw [← hrest, List.head?_append]
    exact Option.or_eq_some_iff.mpr (.inl h)
  have hnot := List.head?_dropWhile_not p cs
  rwa [hhead] at hnot

/-! ## Encodings -/

theorem fromUtf8_eq_some_iff {bytes : List UInt8} {text : String} :
    fromUtf8 bytes = some text ↔ utf8Bytes text = bytes := by
  constructor
  · intro h
    unfold fromUtf8 String.fromUTF8? at h
    split at h
    · cases h
      simp [utf8Bytes, String.fromUTF8]
    · cases h
  · intro h
    subst h
    have hbytes : (⟨(utf8Bytes text).toArray⟩ : ByteArray) = text.toByteArray := by
      simp [utf8Bytes]
    rw [fromUtf8, hbytes, String.fromUTF8?, dif_pos text.isValidUTF8]
    rfl

theorem utf8Bytes_eq_flatMap (text : String) :
    utf8Bytes text = text.toList.flatMap String.utf8EncodeChar := by
  rw [utf8Bytes, ← String.utf8Encode_toList, List.utf8Encode, List.toList_data_toByteArray]

/-- A byte of a character is that character, or not an ASCII one. -/
theorem mem_utf8EncodeChar {c : Char} {byte : UInt8} (h : byte ∈ String.utf8EncodeChar c) :
    byte.toNat = c.toNat ∨ 0x80 ≤ byte.toNat := by
  have hvalue : c.val.toNat = c.toNat := rfl
  unfold String.utf8EncodeChar at h
  simp only [hvalue] at h
  split at h
  · rw [List.mem_singleton.mp h, UInt8.toNat_ofNat']
    left
    omega
  · right
    split at h
    · simp only [List.mem_cons, List.not_mem_nil, or_false] at h
      rcases h with rfl | rfl <;> rw [UInt8.toNat_ofNat'] <;> omega
    · split at h
      · simp only [List.mem_cons, List.not_mem_nil, or_false] at h
        rcases h with rfl | rfl | rfl <;> rw [UInt8.toNat_ofNat'] <;> omega
      · simp only [List.mem_cons, List.not_mem_nil, or_false] at h
        rcases h with rfl | rfl | rfl | rfl <;> rw [UInt8.toNat_ofNat'] <;> omega

theorem utf8EncodeChar_of_ascii {c : Char} (h : c.toNat < 0x80) :
    String.utf8EncodeChar c = [UInt8.ofNat c.toNat] := by
  have hvalue : c.val.toNat = c.toNat := rfl
  unfold String.utf8EncodeChar
  simp only [hvalue]
  rw [if_pos (by omega)]

theorem utf8Bytes_eq_map {text : String} (h : ∀ c ∈ text.toList, c.toNat < 0x80) :
    utf8Bytes text = text.toList.map fun c => UInt8.ofNat c.toNat := by
  rw [utf8Bytes_eq_flatMap, List.map_eq_flatMap]
  exact List.flatMap_congr fun c hc => utf8EncodeChar_of_ascii (h c hc)

/-- The bytes of a text are ASCII only when its characters are. -/
theorem ascii_of_utf8Bytes {text : String} (h : ∀ byte ∈ utf8Bytes text, byte.toNat < 0x80) :
    ∀ c ∈ text.toList, c.toNat < 0x80 := by
  intro c hc
  have hne : String.utf8EncodeChar c ≠ [] := String.utf8EncodeChar_ne_nil
  obtain ⟨byte, hbyte⟩ := List.exists_mem_of_ne_nil _ hne
  have hlt := h byte (by rw [utf8Bytes_eq_flatMap]; exact List.mem_flatMap.mpr ⟨c, hc, hbyte⟩)
  rcases mem_utf8EncodeChar hbyte with heq | hge <;> omega

end Surface

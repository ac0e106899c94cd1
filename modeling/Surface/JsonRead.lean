import Surface.Json
import Surface.NetParse
import Mathlib.Tactic.Common

/-!
# Surface.JsonRead

Reading JSON values back from their text.

* `Json.parse`: the value of a text, for whole numbers of at most 64 bits and a bounded nesting.
* `Spelled`: the texts of a value, with white space wherever the grammar lets it stand.
* `Spelled.read`: the reader takes every spelling of a value for that value.
* `parse_text`, `parse_prettyText`: what either printer writes is read as what was written.
-/

namespace Surface

namespace Json

/-! ## The reader -/

def isBlank (c : Char) : Bool := c == ' ' || c == '\t' || c == '\n' || c == '\r'

def skipBlanks (cs : List Char) : List Char := cs.dropWhile isBlank

/-- What a character stands for behind a backslash. -/
def unescape (c : Char) : Option Char :=
  if c = quoteMark ∨ c = backslash ∨ c = '/' then some c
  else if c = 'b' then some (Char.ofNat 8)
  else if c = 't' then some (Char.ofNat 9)
  else if c = 'n' then some (Char.ofNat 10)
  else if c = 'f' then some (Char.ofNat 12)
  else if c = 'r' then some (Char.ofNat 13)
  else none

def readHex4 : List Char → Option (Nat × List Char)
  | a :: b :: c :: d :: rest =>
    ([a, b, c, d].mapM (toDigit 16)).map fun digits => (joinDigits 16 digits, rest)
  | _ => none

/-- A character behind `\u`, two escapes for one beyond the first plane. -/
def readUnicode (cs : List Char) : Option (Char × List Char) :=
  (readHex4 cs).bind fun high =>
    if 0xd800 ≤ high.1 ∧ high.1 < 0xdc00 then
      ((readGiven backslash high.2).bind (readGiven 'u')).bind fun rest =>
        (readHex4 rest).bind fun low =>
          if 0xdc00 ≤ low.1 ∧ low.1 < 0xe000 then
            some (Char.ofNat (0x10000 + (high.1 - 0xd800) * 0x400 + (low.1 - 0xdc00)), low.2)
          else none
    else if 0xdc00 ≤ high.1 ∧ high.1 < 0xe000 then none
    else some (Char.ofNat high.1, high.2)

def readEscape : List Char → Option (Char × List Char)
  | [] => none
  | c :: cs => if c = 'u' then readUnicode cs else (unescape c).map fun d => (d, cs)

/-- The characters of a string up to its closing quote. -/
def readChars : Nat → List Char → Option (List Char × List Char)
  | 0, _ => none
  | _ + 1, [] => none
  | fuel + 1, c :: cs =>
    if c = quoteMark then some ([], cs)
    else if c = backslash then
      (readEscape cs).bind fun read =>
        (readChars fuel read.2).map fun more => (read.1 :: more.1, more.2)
    else if c.toNat < 32 then none
    else (readChars fuel cs).map fun more => (c :: more.1, more.2)

/-- A string behind its opening quote. -/
def readString (cs : List Char) : Option (String × List Char) :=
  (readChars (cs.length + 1) cs).map fun read => (String.ofList read.1, read.2)

/-- The whole numbers that a reader keeps as such. -/
def IsWhole (n : Int) : Prop := -2 ^ 63 ≤ n ∧ n < 2 ^ 64

instance (n : Int) : Decidable (IsWhole n) := inferInstanceAs (Decidable (_ ∧ _))

/-- A fraction or an exponent makes a number no whole one. -/
def endsNumber (c : Char) : Bool := !(isRadixDigit 10 c || c == '.' || c == 'e' || c == 'E')

def readInt (cs : List Char) : Option (Json × List Char) :=
  let negative := cs.head? = some '-'
  let digits := if negative then cs.tail else cs
  (readNumber 10 digits.length (2 ^ 64) false digits).bind fun read =>
    let n : Int := if negative then -(read.1 : Int) else read.1
    if (read.2.head?.all endsNumber) = true ∧ IsWhole n ∧ ¬(negative ∧ read.1 = 0) then
      some (.number n, read.2)
    else none

def readLiteral (cs : List Char) : Option (Json × List Char) :=
  if cs.take 4 = "null".toList then some (.null, cs.drop 4)
  else if cs.take 4 = "true".toList then some (.bool true, cs.drop 4)
  else if cs.take 5 = "false".toList then some (.bool false, cs.drop 5)
  else none

/-- What comes behind an item: the closing bracket, or a comma and more items. -/
def readRest {α : Type} (closing : Char) (more : List Char → Option (List α × List Char))
    (read : α × List Char) : Option (List α × List Char) :=
  match skipBlanks read.2 with
  | [] => none
  | c :: rest =>
    if c = closing then some ([read.1], rest)
    else if c = ',' then (more rest).map fun others => (read.1 :: others.1, others.2)
    else none

def readMember (value : List Char → Option (Json × List Char)) (cs : List Char) :
    Option ((String × Json) × List Char) :=
  ((readGiven quoteMark (skipBlanks cs)).bind readString).bind fun name =>
    (readGiven ':' (skipBlanks name.2)).bind fun rest =>
      (value (skipBlanks rest)).map fun read => ((name.1, read.1), read.2)

mutual

/-- A value, nested at most `depth` deep. -/
def readValue : Nat → Nat → List Char → Option (Json × List Char)
  | 0, _, _ => none
  | _ + 1, _, [] => none
  | fuel + 1, depth, c :: cs =>
    if c = quoteMark then (readString cs).map fun read => (.string read.1, read.2)
    else if c = '[' then
      if depth = 0 then none
      else if (skipBlanks cs).head? = some ']' then some (.array [], (skipBlanks cs).tail)
      else (readItems fuel (depth - 1) cs).map fun read => (.array read.1, read.2)
    else if c = '\x7b' then
      if depth = 0 then none
      else if (skipBlanks cs).head? = some '\x7d' then some (.object [], (skipBlanks cs).tail)
      else (readMembers fuel (depth - 1) cs).map fun read => (.object read.1, read.2)
    else if c = '-' ∨ isRadixDigit 10 c = true then readInt (c :: cs)
    else readLiteral (c :: cs)

/-- The values of an array up to its closing bracket. -/
def readItems : Nat → Nat → List Char → Option (List Json × List Char)
  | 0, _, _ => none
  | fuel + 1, depth, cs =>
    (readValue fuel depth (skipBlanks cs)).bind (readRest ']' (readItems fuel depth))

/-- The members of an object up to its closing brace. -/
def readMembers : Nat → Nat → List Char → Option (List (String × Json) × List Char)
  | 0, _, _ => none
  | fuel + 1, depth, cs =>
    (readMember (readValue fuel depth) cs).bind (readRest '\x7d' (readMembers fuel depth))

end

/-- The value of a whole text, nested at most `depth` deep. -/
def parse (depth : Nat) (text : String) : Option Json :=
  let cs := skipBlanks text.toList
  (readValue (2 * cs.length) depth cs).bind fun read =>
    if skipBlanks read.2 = [] then some read.1 else none

/-! ## Spellings -/

/-- A piece of a text: a value, a value with white space around it, values or members between
commas. -/
inductive Piece where
  | value (v : Json)
  | element (v : Json)
  | items (l : List Json)
  | member (name : String) (v : Json)
  | members (l : List (String × Json))

/-- What a piece can be written as, nested at most `depth` deep. -/
inductive Spelled : Nat → Piece → List Char → Prop
  | null {depth : Nat} : Spelled depth (.value .null) "null".toList
  | bool {depth : Nat} (b : Bool) :
      Spelled depth (.value (.bool b)) (if b then "true" else "false").toList
  | number {depth : Nat} {n : Int} (h : IsWhole n) :
      Spelled depth (.value (.number n)) (toString n).toList
  | string {depth : Nat} (s : String) : Spelled depth (.value (.string s)) (quote s).toList
  | emptyArray {depth : Nat} : Spelled (depth + 1) (.value (.array [])) ['[', ']']
  | array {depth : Nat} {l : List Json} {text : List Char} (h : Spelled depth (.items l) text) :
      Spelled (depth + 1) (.value (.array l)) ('[' :: (text ++ [']']))
  | emptyObject {depth : Nat} : Spelled (depth + 1) (.value (.object [])) ['\x7b', '\x7d']
  | object {depth : Nat} {l : List (String × Json)} {text : List Char}
      (h : Spelled depth (.members l) text) :
      Spelled (depth + 1) (.value (.object l)) ('\x7b' :: (text ++ ['\x7d']))
  | element {depth : Nat} {v : Json} {before text after : List Char}
      (hbefore : ∀ c ∈ before, isBlank c = true) (h : Spelled depth (.value v) text)
      (hafter : ∀ c ∈ after, isBlank c = true) :
      Spelled depth (.element v) (before ++ (text ++ after))
  | item {depth : Nat} {v : Json} {text : List Char} (h : Spelled depth (.element v) text) :
      Spelled depth (.items [v]) text
  | items {depth : Nat} {v : Json} {l : List Json} {text rest : List Char}
      (h : Spelled depth (.element v) text) (hrest : Spelled depth (.items l) rest) :
      Spelled depth (.items (v :: l)) (text ++ ',' :: rest)
  | member {depth : Nat} {name : String} {v : Json} {before text : List Char}
      (hbefore : ∀ c ∈ before, isBlank c = true) (h : Spelled depth (.element v) text) :
      Spelled depth (.member name v) (before ++ ((quote name).toList ++ ':' :: text))
  | lastMember {depth : Nat} {name : String} {v : Json} {text : List Char}
      (h : Spelled depth (.member name v) text) : Spelled depth (.members [(name, v)]) text
  | members {depth : Nat} {name : String} {v : Json} {l : List (String × Json)}
      {text rest : List Char} (h : Spelled depth (.member name v) text)
      (hrest : Spelled depth (.members l) rest) :
      Spelled depth (.members ((name, v) :: l)) (text ++ ',' :: rest)

/-! ## Reading strings and numbers -/

theorem hexDigit_eq : ∀ n < 16, hexDigit n = n.digitChar := by decide

theorem readHex4_hexDigit {m n : Nat} (hm : m < 16) (hn : n < 16) (rest : List Char) :
    readHex4 ('0' :: '0' :: hexDigit m :: hexDigit n :: rest) = some (16 * m + n, rest) := by
  have hzero : toDigit 16 '0' = some 0 := by decide
  rw [hexDigit_eq m hm, hexDigit_eq n hn]
  simp [readHex4, hzero, toDigit_digitChar (Nat.le_refl 16) hm,
    toDigit_digitChar (Nat.le_refl 16) hn, joinDigits]
  omega

/-- A control character without a letter of its own is read back from its code. -/
theorem readEscape_code {c : Char} (h : c.toNat < 32) (rest : List Char) :
    readEscape ('u' :: '0' :: '0' :: hexDigit (c.toNat / 16) :: hexDigit (c.toNat % 16) :: rest) =
      some (c, rest) := by
  have hread := readHex4_hexDigit (show c.toNat / 16 < 16 by omega)
    (Nat.mod_lt c.toNat (by decide)) rest
  rw [Nat.div_add_mod] at hread
  have hplane : ¬(0xd800 ≤ c.toNat ∧ c.toNat < 0xdc00) := by omega
  have hlow : ¬(0xdc00 ≤ c.toNat ∧ c.toNat < 0xe000) := by omega
  rw [readEscape, if_pos rfl, readUnicode, hread]
  simp only [Option.bind_some]
  rw [if_neg hplane, if_neg hlow, Char.ofNat_toNat]

/-- An escape of one letter. -/
theorem readEscape_letter {letter c : Char} (hu : letter ≠ 'u') (h : unescape letter = some c)
    (rest : List Char) : readEscape (letter :: rest) = some (c, rest) := by
  rw [readEscape, if_neg hu, h]
  rfl

theorem readChars_backslash {fuel : Nat} {cs rest : List Char} {c : Char}
    (h : readEscape cs = some (c, rest)) :
    readChars (fuel + 1) (backslash :: cs) =
      (readChars fuel rest).map fun more => (c :: more.1, more.2) := by
  rw [readChars, if_neg (by decide), if_pos rfl, h]
  rfl

theorem readChars_letter {fuel code : Nat} {letter c : Char} (hu : letter ≠ 'u')
    (hletter : unescape letter = some (Char.ofNat code)) (h : c.toNat = code) (rest : List Char) :
    readChars (fuel + 1) ([backslash, letter] ++ rest) =
      (readChars fuel rest).map fun more => (c :: more.1, more.2) := by
  rw [← h, Char.ofNat_toNat] at hletter
  exact readChars_backslash (readEscape_letter hu hletter rest)

/-- A character is read back from its escape. -/
theorem readChars_escapeChar (fuel : Nat) (c : Char) (rest : List Char) :
    readChars (fuel + 1) (escapeChar c ++ rest) =
      (readChars fuel rest).map fun more => (c :: more.1, more.2) := by
  unfold escapeChar
  split
  · rename_i h
    refine readChars_backslash (readEscape_letter ?_ ?_ rest)
    · rcases h with rfl | rfl <;> decide
    · rcases h with rfl | rfl <;> decide
  · rename_i hmark
    rw [not_or] at hmark
    split
    · rename_i h
      exact readChars_letter (by decide) (by decide) h rest
    split
    · rename_i h
      exact readChars_letter (by decide) (by decide) h rest
    split
    · rename_i h
      exact readChars_letter (by decide) (by decide) h rest
    split
    · rename_i h
      exact readChars_letter (by decide) (by decide) h rest
    split
    · rename_i h
      exact readChars_letter (by decide) (by decide) h rest
    split
    · rename_i h
      exact readChars_backslash (readEscape_code h rest)
    · rename_i h
      rw [List.singleton_append, readChars, if_neg hmark.1, if_neg hmark.2, if_neg h]

theorem readChars_quoted {fuel : Nat} (cs : List Char) {rest : List Char}
    (h : cs.length < fuel) :
    readChars fuel (cs.flatMap escapeChar ++ quoteMark :: rest) = some (cs, rest) := by
  induction cs generalizing fuel with
  | nil =>
    obtain ⟨fuel, rfl⟩ := Nat.exists_eq_add_one_of_ne_zero (Nat.ne_of_gt h)
    exact if_pos rfl
  | cons c cs ih =>
    obtain ⟨fuel, rfl⟩ := Nat.exists_eq_add_one_of_ne_zero (Nat.ne_zero_of_lt h)
    rw [List.length_cons] at h
    rw [List.flatMap_cons, List.append_assoc, readChars_escapeChar, ih (by omega)]
    rfl

theorem quote_toList (s : String) :
    (quote s).toList = quoteMark :: (s.toList.flatMap escapeChar ++ [quoteMark]) := by
  rw [quote, String.toList_ofList]
  rfl

theorem length_le_flatMap_escapeChar (cs : List Char) :
    cs.length ≤ (cs.flatMap escapeChar).length := by
  induction cs with
  | nil => exact Nat.le_refl 0
  | cons c cs ih =>
    have hone : 1 ≤ (escapeChar c).length := by
      unfold escapeChar
      repeat' split
      all_goals exact Nat.succ_le_succ (Nat.zero_le _)
    rw [List.flatMap_cons, List.length_append, List.length_cons]
    omega

theorem readString_quote (s : String) (rest : List Char) :
    readString (s.toList.flatMap escapeChar ++ quoteMark :: rest) = some (s, rest) := by
  have hlength : s.toList.length <
      (s.toList.flatMap escapeChar ++ quoteMark :: rest).length + 1 := by
    have := length_le_flatMap_escapeChar s.toList
    rw [List.length_append]
    omega
  rw [readString, readChars_quoted s.toList hlength, Option.map_some, String.ofList_toList]

theorem toString_nonneg (n : Nat) : (toString (n : Int)).toList = Nat.toDigits 10 n := by
  exact String.toList_ofList

theorem toString_negative (n : Nat) :
    (toString (Int.negSucc n)).toList = '-' :: Nat.toDigits 10 (n + 1) := by
  rw [Int.toString_eq_repr, Int.repr, Nat.repr]
  simp

theorem readNumber_follow {n : Nat} {rest : List Char} (hn : n < 2 ^ 64)
    (hrest : ∀ c ∈ rest.head?, endsNumber c = true) :
    readNumber 10 (Nat.toDigits 10 n ++ rest).length (2 ^ 64) false (Nat.toDigits 10 n ++ rest) =
      some (n, rest) := by
  have hpos : 0 < (Nat.toDigits 10 n).length := List.length_pos_of_ne_nil Nat.toDigits_ne_nil
  refine readNumber_toDigits (by decide) (by decide) ?_ ?_ hn fun c hc => ?_
  · rw [List.length_append]
    omega
  · rw [← Nat.length_toDigits_le_iff (by decide) (by rw [List.length_append]; omega),
      List.length_append]
    omega
  · have := hrest c hc
    simp only [endsNumber, Bool.not_eq_true', Bool.or_eq_false_iff] at this
    exact this.1.1.1

/-- A whole number is read up to the first character that cannot belong to a number. -/
theorem readInt_toString {n : Int} (h : IsWhole n) {rest : List Char}
    (hrest : ∀ c ∈ rest.head?, endsNumber c = true) :
    readInt ((toString n).toList ++ rest) = some (.number n, rest) := by
  have hends : rest.head?.all endsNumber = true := by
    cases hhead : rest.head? with
    | none => rfl
    | some c => exact hrest c hhead
  obtain ⟨hlow, hhigh⟩ := h
  cases n with
  | ofNat n =>
    have hn : n < 2 ^ 64 := by
      have : (Int.ofNat n) = (n : Int) := rfl
      omega
    have hsign : (Nat.toDigits 10 n ++ rest).head? ≠ some '-' := by
      intro hhead
      rw [List.head?_append_of_ne_nil _ Nat.toDigits_ne_nil] at hhead
      have := (toDigits_read (by decide : 1 < 10) (by decide) n).1 '-'
        (List.mem_of_mem_head? hhead)
      revert this
      decide
    rw [show (toString (Int.ofNat n)).toList = _ from toString_nonneg n, readInt]
    simp only [hsign, if_false, readNumber_follow hn hrest,
      Option.bind_some, false_and, not_false_iff, and_true]
    rw [if_pos ⟨hends, hlow, hhigh⟩]
    rfl
  | negSucc n =>
    have hn : n + 1 < 2 ^ 64 := by omega
    rw [toString_negative, readInt]
    simp only [List.cons_append, List.head?_cons, if_true, List.tail_cons,
      readNumber_follow hn hrest, Option.bind_some]
    rw [if_pos ⟨hends, ⟨hlow, hhigh⟩, by omega⟩]
    rfl

/-! ## Reading a spelling -/

theorem skipBlanks_append {before : List Char} (h : ∀ c ∈ before, isBlank c = true)
    (cs : List Char) : skipBlanks (before ++ cs) = skipBlanks cs :=
  List.dropWhile_append_of_pos h

theorem skipBlanks_cons {c : Char} (h : isBlank c = false) (cs : List Char) :
    skipBlanks (c :: cs) = c :: cs :=
  List.dropWhile_cons_of_neg (by rw [h]; exact Bool.false_ne_true)

/-- Behind white space the text opens with another character than the given one. -/
def Opens (closing : Char) (text : List Char) : Prop :=
  ∃ before c cs, (∀ b ∈ before, isBlank b = true) ∧ text = before ++ c :: cs ∧
    isBlank c = false ∧ c ≠ closing

theorem Opens.of_cons {closing c : Char} (cs : List Char) (hc : isBlank c = false)
    (h : c ≠ closing) : Opens closing (c :: cs) :=
  ⟨[], c, cs, List.forall_mem_nil _, rfl, hc, h⟩

theorem Opens.blanks {closing : Char} {before text : List Char} (h : Opens closing text)
    (hbefore : ∀ b ∈ before, isBlank b = true) : Opens closing (before ++ text) := by
  obtain ⟨more, c, cs, hmore, rfl, hc⟩ := h
  refine ⟨before ++ more, c, cs, fun b hb => ?_, (List.append_assoc ..).symm, hc⟩
  exact (List.mem_append.mp hb).elim (hbefore b) (hmore b)

theorem Opens.append {closing : Char} {text : List Char} (h : Opens closing text)
    (rest : List Char) : Opens closing (text ++ rest) := by
  obtain ⟨before, c, cs, hbefore, rfl, hc⟩ := h
  exact ⟨before, c, cs ++ rest, hbefore, by rw [List.append_assoc]; rfl, hc⟩

theorem Opens.head {closing : Char} {text : List Char} (h : Opens closing text) :
    (skipBlanks text).head? ≠ some closing := by
  obtain ⟨before, c, cs, hbefore, rfl, hblank, hc⟩ := h
  rw [skipBlanks_append hbefore, skipBlanks_cons hblank]
  exact fun heq => hc (Option.some.inj heq)

/-- A value opens with a character of its own, never with a bracket that closes. -/
theorem number_opens (n : Int) :
    ∃ c cs, (toString n).toList = c :: cs ∧ (c = '-' ∨ isRadixDigit 10 c = true) := by
  cases n with
  | ofNat n =>
    rw [show (toString (Int.ofNat n)).toList = _ from toString_nonneg n]
    obtain ⟨c, cs, hdigits⟩ := List.exists_cons_of_ne_nil (Nat.toDigits_ne_nil (b := 10) (n := n))
    refine ⟨c, cs, hdigits, .inr ?_⟩
    exact (toDigits_read (by decide) (by decide) n).1 c (by rw [hdigits]; exact List.mem_cons_self)
  | negSucc n => exact ⟨'-', _, toString_negative n, .inl rfl⟩

theorem isRadixDigit_ne {c d : Char} (h : isRadixDigit 10 c = true)
    (hd : isRadixDigit 10 d = false) : c ≠ d := by
  rintro rfl
  rw [h] at hd
  cases hd

/-- A piece does not open with the bracket that closes the list it stands in; a value opens with
a character of its own. -/
def Piece.Opens (text : List Char) : Piece → Prop
  | .value _ => ∃ c cs, text = c :: cs ∧ isBlank c = false ∧ c ≠ ']'
  | .element _ | .items _ => Json.Opens ']' text
  | .member _ _ | .members _ => Json.Opens '\x7d' text

theorem Spelled.opens {depth : Nat} {piece : Piece} {text : List Char}
    (h : Spelled depth piece text) : piece.Opens text := by
  induction h with
  | null => exact ⟨_, _, rfl, by decide, by decide⟩
  | bool b =>
    cases b
    · exact ⟨_, _, rfl, by decide, by decide⟩
    · exact ⟨_, _, rfl, by decide, by decide⟩
  | @number _ n _ =>
    obtain ⟨c, cs, htext, hc⟩ := number_opens n
    rcases hc with rfl | hc
    · exact ⟨'-', cs, htext, by decide, by decide⟩
    · have hblank : isBlank c = false := by
        simp only [isBlank, Bool.or_eq_false_iff, beq_eq_false_iff_ne]
        exact ⟨⟨⟨isRadixDigit_ne hc (by decide), isRadixDigit_ne hc (by decide)⟩,
          isRadixDigit_ne hc (by decide)⟩, isRadixDigit_ne hc (by decide)⟩
      exact ⟨c, cs, htext, hblank, isRadixDigit_ne hc (by decide)⟩
  | string s => exact ⟨_, _, quote_toList s, by decide, by decide⟩
  | emptyArray => exact ⟨_, _, rfl, by decide, by decide⟩
  | array => exact ⟨_, _, rfl, by decide, by decide⟩
  | emptyObject => exact ⟨_, _, rfl, by decide, by decide⟩
  | object => exact ⟨_, _, rfl, by decide, by decide⟩
  | element hbefore _ _ ih =>
    obtain ⟨c, cs, rfl, hblank, hc⟩ := ih
    exact ((Opens.of_cons cs hblank hc).append _).blanks hbefore
  | item _ ih => exact ih
  | items _ _ ih _ => exact Json.Opens.append ih _
  | member hbefore _ _ =>
    rw [quote_toList]
    exact (Opens.of_cons _ (by decide) (by decide)).blanks hbefore
  | lastMember _ ih => exact ih
  | members _ _ ih _ => exact Json.Opens.append ih _

/-- What may come behind a value. -/
def Follows (rest : List Char) : Prop := ∀ c ∈ rest.head?, endsNumber c = true

/-- What may come behind a value and its white space: nothing, a comma or a closing bracket. -/
def Closes (rest : List Char) : Prop := ∀ c ∈ rest.head?, c = ',' ∨ c = ']' ∨ c = '\x7d'

theorem Closes.skip {rest : List Char} (h : Closes rest) : skipBlanks rest = rest := by
  cases rest with
  | nil => rfl
  | cons c rest =>
    rcases h c rfl with rfl | rfl | rfl
    · exact skipBlanks_cons (by decide) rest
    · exact skipBlanks_cons (by decide) rest
    · exact skipBlanks_cons (by decide) rest

theorem endsNumber_blank {c : Char} (h : isBlank c = true) : endsNumber c = true := by
  simp only [isBlank, Bool.or_eq_true_iff, beq_iff_eq] at h
  rcases h with ((rfl | rfl) | rfl) | rfl <;> decide

theorem Closes.follows {after rest : List Char} (hafter : ∀ c ∈ after, isBlank c = true)
    (h : Closes rest) : Follows (after ++ rest) := by
  intro c hc
  cases after with
  | nil =>
    rcases h c hc with rfl | rfl | rfl <;> decide
  | cons d after =>
    rw [← Option.some.inj hc]
    exact endsNumber_blank (hafter d List.mem_cons_self)

/-- What the reader makes of a piece. -/
def Piece.Read (depth : Nat) (text : List Char) : Piece → Prop
  | .value v => ∀ fuel rest, 2 * text.length ≤ fuel → Follows rest →
      readValue fuel depth (text ++ rest) = some (v, rest)
  | .element v => ∀ fuel rest, 2 * text.length ≤ fuel → Closes rest →
      ∃ after, readValue fuel depth (skipBlanks (text ++ rest)) = some (v, after) ∧
        skipBlanks after = rest
  | .items l => ∀ fuel rest, 2 * text.length < fuel →
      readItems fuel depth (text ++ ']' :: rest) = some (l, rest)
  | .member name v => ∀ fuel rest, 2 * text.length ≤ fuel → Closes rest →
      ∃ after, readMember (readValue fuel depth) (text ++ rest) = some ((name, v), after) ∧
        skipBlanks after = rest
  | .members l => ∀ fuel rest, 2 * text.length < fuel →
      readMembers fuel depth (text ++ '\x7d' :: rest) = some (l, rest)

theorem readRest_last {α : Type} {closing : Char} {more : List Char → Option (List α × List Char)}
    {value : α} {after rest : List Char} (h : skipBlanks after = closing :: rest) :
    readRest closing more (value, after) = some ([value], rest) := by
  simp only [readRest, h, if_true]

theorem readRest_comma {α : Type} {closing : Char} {more : List Char → Option (List α × List Char)}
    {value : α} {l : List α} {after others rest : List Char} (hclosing : ',' ≠ closing)
    (h : skipBlanks after = ',' :: others) (hmore : more others = some (l, rest)) :
    readRest closing more (value, after) = some (value :: l, rest) := by
  simp only [readRest, h, if_true]
  rw [if_neg hclosing, hmore]
  rfl

theorem closes_cons {c : Char} (rest : List Char) (h : c = ',' ∨ c = ']' ∨ c = '\x7d') :
    Closes (c :: rest) := by
  intro d hd
  rwa [← Option.some.inj hd]

theorem Spelled.read {depth : Nat} {piece : Piece} {text : List Char}
    (h : Spelled depth piece text) : piece.Read depth text := by
  induction h with
  | null =>
    intro fuel rest hfuel _
    cases fuel with
    | zero => exact absurd hfuel (by decide)
    | succ fuel => rfl
  | bool b =>
    intro fuel rest hfuel _
    cases fuel with
    | zero =>
      cases b
      · exact absurd hfuel (by decide)
      · exact absurd hfuel (by decide)
    | succ fuel =>
      cases b
      · rfl
      · rfl
  | @number _ n hwhole =>
    intro fuel rest hfuel hrest
    obtain ⟨c, cs, htext, hc⟩ := number_opens n
    have hread := readInt_toString hwhole hrest
    rw [htext] at hfuel hread ⊢
    obtain ⟨fuel, rfl⟩ := Nat.exists_eq_add_one_of_ne_zero (n := fuel)
      (by rw [List.length_cons] at hfuel; omega)
    have hother : ∀ d, isRadixDigit 10 d = false → d ≠ '-' → c ≠ d := by
      rintro d hd hminus rfl
      rcases hc with rfl | hc
      · exact hminus rfl
      · rw [hd] at hc
        cases hc
    rw [List.cons_append, readValue, if_neg (hother _ (by decide) (by decide)),
      if_neg (hother _ (by decide) (by decide)), if_neg (hother _ (by decide) (by decide)),
      if_pos hc]
    exact hread
  | string s =>
    intro fuel rest hfuel _
    rw [quote_toList] at hfuel ⊢
    obtain ⟨fuel, rfl⟩ := Nat.exists_eq_add_one_of_ne_zero (n := fuel)
      (by rw [List.length_cons] at hfuel; omega)
    rw [List.cons_append, List.append_assoc, readValue, if_pos rfl, List.singleton_append,
      readString_quote]
    rfl
  | emptyArray =>
    intro fuel rest hfuel _
    obtain ⟨fuel, rfl⟩ := Nat.exists_eq_add_one_of_ne_zero (n := fuel)
      (by rw [List.length_cons] at hfuel; omega)
    rfl
  | emptyObject =>
    intro fuel rest hfuel _
    obtain ⟨fuel, rfl⟩ := Nat.exists_eq_add_one_of_ne_zero (n := fuel)
      (by rw [List.length_cons] at hfuel; omega)
    rfl
  | array hitems ih =>
    intro fuel rest hfuel _
    rw [List.length_cons, List.length_append, List.length_singleton] at hfuel
    obtain ⟨fuel, rfl⟩ := Nat.exists_eq_add_one_of_ne_zero (n := fuel) (by omega)
    rw [List.cons_append, List.append_assoc, List.singleton_append, readValue,
      if_neg (by decide), if_pos rfl]
    rw [if_neg (Nat.succ_ne_zero _), if_neg (Json.Opens.append hitems.opens _).head,
      Nat.add_sub_cancel, ih fuel rest (by omega)]
    rfl
  | object hmembers ih =>
    intro fuel rest hfuel _
    rw [List.length_cons, List.length_append, List.length_singleton] at hfuel
    obtain ⟨fuel, rfl⟩ := Nat.exists_eq_add_one_of_ne_zero (n := fuel) (by omega)
    rw [List.cons_append, List.append_assoc, List.singleton_append, readValue,
      if_neg (by decide), if_neg (by decide), if_pos rfl]
    rw [if_neg (Nat.succ_ne_zero _), if_neg (Json.Opens.append hmembers.opens _).head,
      Nat.add_sub_cancel, ih fuel rest (by omega)]
    rfl
  | element hbefore hvalue hafter ih =>
    rename_i depth v before text after
    intro fuel rest hfuel hrest
    rw [List.length_append, List.length_append] at hfuel
    refine ⟨after ++ rest, ?_, ?_⟩
    · obtain ⟨c, cs, htext, hblank, -⟩ := hvalue.opens
      rw [List.append_assoc, skipBlanks_append hbefore, List.append_assoc]
      have hskip : skipBlanks (text ++ (after ++ rest)) = text ++ (after ++ rest) := by
        rw [htext]
        exact skipBlanks_cons hblank _
      rw [hskip]
      exact ih fuel _ (by omega) (hrest.follows hafter)
    · rw [skipBlanks_append hafter, hrest.skip]
  | item _ ih =>
    intro fuel rest hfuel
    obtain ⟨fuel, rfl⟩ := Nat.exists_eq_add_one_of_ne_zero (n := fuel) (by omega)
    obtain ⟨after, hread, hafter⟩ := ih fuel (']' :: rest) (by omega)
      (closes_cons rest (.inr (.inl rfl)))
    rw [readItems, hread, Option.bind_some, readRest_last hafter]
  | items _ _ ih ihrest =>
    intro fuel rest hfuel
    rw [List.length_append, List.length_cons] at hfuel
    obtain ⟨fuel, rfl⟩ := Nat.exists_eq_add_one_of_ne_zero (n := fuel) (by omega)
    rw [List.append_assoc, List.cons_append]
    obtain ⟨after, hread, hafter⟩ := ih fuel (',' :: (_ ++ ']' :: rest)) (by omega)
      (closes_cons _ (.inl rfl))
    rw [readItems, hread, Option.bind_some,
      readRest_comma (by decide) hafter (ihrest fuel rest (by omega))]
  | member hbefore _ ih =>
    intro fuel rest hfuel hrest
    rw [List.length_append, List.length_append, List.length_cons] at hfuel
    obtain ⟨after, hread, hafter⟩ := ih fuel rest (by omega) hrest
    refine ⟨after, ?_, hafter⟩
    rw [quote_toList, List.append_assoc, List.cons_append, List.cons_append, readMember,
      skipBlanks_append hbefore, skipBlanks_cons (by decide), readGiven, if_pos rfl]
    simp only [List.append_assoc, List.cons_append, Option.bind_some, List.nil_append,
      readString_quote, skipBlanks_cons (show isBlank ':' = false by decide), readGiven, if_true,
      hread]
    rfl
  | lastMember _ ih =>
    intro fuel rest hfuel
    obtain ⟨fuel, rfl⟩ := Nat.exists_eq_add_one_of_ne_zero (n := fuel) (by omega)
    obtain ⟨after, hread, hafter⟩ := ih fuel ('\x7d' :: rest) (by omega)
      (closes_cons rest (.inr (.inr rfl)))
    rw [readMembers, hread, Option.bind_some, readRest_last hafter]
  | members _ _ ih ihrest =>
    intro fuel rest hfuel
    rw [List.length_append, List.length_cons] at hfuel
    obtain ⟨fuel, rfl⟩ := Nat.exists_eq_add_one_of_ne_zero (n := fuel) (by omega)
    rw [List.append_assoc, List.cons_append]
    obtain ⟨after, hread, hafter⟩ := ih fuel (',' :: (_ ++ '\x7d' :: rest)) (by omega)
      (closes_cons _ (.inl rfl))
    rw [readMembers, hread, Option.bind_some,
      readRest_comma (by decide) hafter (ihrest fuel rest (by omega))]

/-! ## The printers -/

mutual

/-- Whole numbers that can be kept as such, and at most `depth` levels of nesting. -/
def readable : Nat → Json → Bool
  | _, .null | _, .bool _ | _, .string _ => true
  | _, .number n => decide (IsWhole n)
  | depth, .array items => decide (0 < depth) && readableItems (depth - 1) items
  | depth, .object members => decide (0 < depth) && readableMembers (depth - 1) members

def readableItems : Nat → List Json → Bool
  | _, [] => true
  | depth, item :: items => readable depth item && readableItems depth items

def readableMembers : Nat → List (String × Json) → Bool
  | _, [] => true
  | depth, (_, value) :: members => readable depth value && readableMembers depth members

end

theorem Spelled.plainElement {depth : Nat} {v : Json} {text : List Char}
    (h : Spelled depth (.value v) text) : Spelled depth (.element v) text := by
  have helement := Spelled.element (List.forall_mem_nil _) h (List.forall_mem_nil _)
  rwa [List.nil_append, List.append_nil] at helement

theorem Spelled.plainMember {depth : Nat} {v : Json} {text : List Char}
    (h : Spelled depth (.element v) text) (name : String) :
    Spelled depth (.member name v) ((quote name).toList ++ ':' :: text) := by
  have hmember : Spelled depth (.member name v) ([] ++ _) := .member (List.forall_mem_nil _) h
  rwa [List.nil_append] at hmember

theorem intercalate_comma (s t : String) (l : List String) :
    (",".intercalate (s :: t :: l)).toList = s.toList ++ ',' :: (",".intercalate (t :: l)).toList := by
  rw [String.intercalate_cons_of_ne_nil (List.cons_ne_nil t l), String.toList_append,
    String.toList_append, List.append_assoc]
  rfl

theorem pos_of_readable {depth : Nat} {p : Bool} (h : (decide (0 < depth) && p) = true) :
    (∃ d, depth = d + 1) ∧ p = true := by
  rw [Bool.and_eq_true, decide_eq_true_eq] at h
  exact ⟨Nat.exists_eq_add_one_of_ne_zero (Nat.ne_of_gt h.1), h.2⟩

mutual

theorem text_spelled : ∀ (v : Json) (depth : Nat), readable depth v = true →
    Spelled depth (.value v) (text v).toList
  | .null, _, _ => .null
  | .bool b, _, _ => .bool b
  | .number _, _, h => .number (of_decide_eq_true h)
  | .string s, _, _ => .string s
  | .array [], depth, h => by
    obtain ⟨⟨depth, rfl⟩, -⟩ := pos_of_readable h
    exact .emptyArray
  | .array (item :: items), depth, h => by
    obtain ⟨⟨depth, rfl⟩, hitems⟩ := pos_of_readable h
    rw [text, String.toList_append, String.toList_append]
    exact .array (textItems_spelled item items depth hitems)
  | .object [], depth, h => by
    obtain ⟨⟨depth, rfl⟩, -⟩ := pos_of_readable h
    exact .emptyObject
  | .object ((name, value) :: members), depth, h => by
    obtain ⟨⟨depth, rfl⟩, hmembers⟩ := pos_of_readable h
    rw [text, String.toList_append, String.toList_append]
    exact .object (textMembers_spelled name value members depth hmembers)

theorem textItems_spelled : ∀ (item : Json) (items : List Json) (depth : Nat),
    readableItems depth (item :: items) = true →
    Spelled depth (.items (item :: items)) (",".intercalate (textItems (item :: items))).toList
  | item, [], depth, h => by
    rw [readableItems, Bool.and_eq_true] at h
    exact .item (text_spelled item depth h.1).plainElement
  | item, next :: items, depth, h => by
    rw [readableItems, Bool.and_eq_true] at h
    rw [textItems, textItems, intercalate_comma, ← textItems]
    exact .items (text_spelled item depth h.1).plainElement
      (textItems_spelled next items depth h.2)

theorem textMembers_spelled : ∀ (name : String) (value : Json) (members : List (String × Json))
    (depth : Nat), readableMembers depth ((name, value) :: members) = true →
    Spelled depth (.members ((name, value) :: members))
      (",".intercalate (textMembers ((name, value) :: members))).toList
  | name, value, [], depth, h => by
    rw [readableMembers, Bool.and_eq_true] at h
    have hmember := (text_spelled value depth h.1).plainElement.plainMember name
    rw [textMembers, textMembers, String.intercalate_singleton, String.toList_append,
      String.toList_append, List.append_assoc]
    exact .lastMember hmember
  | name, value, (name', value') :: members, depth, h => by
    rw [readableMembers, Bool.and_eq_true] at h
    have hmember := (text_spelled value depth h.1).plainElement.plainMember name
    rw [textMembers, textMembers, intercalate_comma, ← textMembers, String.toList_append,
      String.toList_append, List.append_assoc (quote name).toList]
    exact .members hmember (textMembers_spelled name' value' members depth h.2)

end

theorem indent_blank (n : Nat) : ∀ c ∈ (indent n).toList, isBlank c = true := by
  intro c hc
  rw [indent, String.toList_ofList] at hc
  rw [List.eq_of_mem_replicate hc]
  decide

/-- The line breaks and the white space in front of a line are blanks. -/
theorem newLine_blank (n : Nat) : ∀ c ∈ '\n' :: (indent n).toList, isBlank c = true := by
  intro c hc
  rcases List.mem_cons.mp hc with rfl | hc
  · decide
  · exact indent_blank n c hc

/-- Lines behind a line break each, with the commas between them. -/
def blockText (n : Nat) (lines : List String) : List Char :=
  '\n' :: (",\n".intercalate (lines.map fun line => indent n ++ line)).toList

theorem blockText_one (n : Nat) (line : String) :
    blockText n [line] = ('\n' :: (indent n).toList) ++ line.toList := by
  rw [blockText, List.map_singleton, String.intercalate_singleton, String.toList_append]
  rfl

theorem blockText_cons (n : Nat) (line next : String) (lines : List String) :
    blockText n (line :: next :: lines) =
      ('\n' :: (indent n).toList) ++ (line.toList ++ ',' :: blockText n (next :: lines)) := by
  rw [blockText, List.map_cons, List.map_cons,
    String.intercalate_cons_of_ne_nil (List.cons_ne_nil _ _), ← List.map_cons,
    String.toList_append, String.toList_append, String.toList_append, List.append_assoc,
    List.append_assoc]
  rfl

theorem prettyBlock_nil (n : Nat) (opening closing : String) :
    prettyBlock n opening closing [] = opening ++ closing := if_pos List.isEmpty_nil

theorem prettyBlock_toList (n : Nat) (opening closing line : String) (lines : List String) :
    (prettyBlock n opening closing (line :: lines)).toList =
      opening.toList ++ (blockText (n + 1) (line :: lines) ++
        ('\n' :: (indent n).toList ++ closing.toList)) := by
  rw [prettyBlock, if_neg (by rw [List.isEmpty_cons]; exact Bool.false_ne_true)]
  simp only [String.toList_append, List.append_assoc]
  rfl

theorem Spelled.afterElement {depth : Nat} {v : Json} {before text after : List Char}
    (h : Spelled depth (.value v) text) (hbefore : ∀ c ∈ before, isBlank c = true)
    (hafter : ∀ c ∈ after, isBlank c = true) :
    Spelled depth (.element v) ((before ++ text) ++ after) := by
  rw [List.append_assoc]
  exact .element hbefore h hafter

/-- A member with a space behind its colon. -/
theorem Spelled.spacedMember {depth : Nat} {v : Json} {before text after : List Char}
    (h : Spelled depth (.value v) text) (name : String) (hbefore : ∀ c ∈ before, isBlank c = true)
    (hafter : ∀ c ∈ after, isBlank c = true) :
    Spelled depth (.member name v)
      ((before ++ ((quote name).toList ++ ':' :: ' ' :: text)) ++ after) := by
  have hspace : ∀ c ∈ [' '], isBlank c = true := by
    intro c hc
    rw [List.mem_singleton.mp hc]
    decide
  have hmember : Spelled depth (.member name v) _ := .member hbefore (.element hspace h hafter)
  simpa only [List.append_assoc, List.cons_append, List.nil_append] using hmember

mutual

theorem pretty_spelled : ∀ (v : Json) (n depth : Nat), readable depth v = true →
    Spelled depth (.value v) (pretty n v).toList
  | .null, _, _, _ => .null
  | .bool b, _, _, _ => .bool b
  | .number _, _, _, h => .number (of_decide_eq_true h)
  | .string s, _, _, _ => .string s
  | .array [], n, depth, h => by
    obtain ⟨⟨depth, rfl⟩, -⟩ := pos_of_readable h
    rw [pretty, prettyItems, prettyBlock_nil]
    exact .emptyArray
  | .array (item :: items), n, depth, h => by
    obtain ⟨⟨depth, rfl⟩, hitems⟩ := pos_of_readable h
    rw [pretty, prettyItems, prettyBlock_toList, ← prettyItems, ← List.append_assoc (blockText _ _)]
    exact .array (prettyItems_spelled item items (n + 1) depth hitems (newLine_blank n))
  | .object [], n, depth, h => by
    obtain ⟨⟨depth, rfl⟩, -⟩ := pos_of_readable h
    rw [pretty, prettyMembers, prettyBlock_nil]
    exact .emptyObject
  | .object ((name, value) :: members), n, depth, h => by
    obtain ⟨⟨depth, rfl⟩, hmembers⟩ := pos_of_readable h
    rw [pretty, prettyMembers, prettyBlock_toList, ← prettyMembers,
      ← List.append_assoc (blockText _ _)]
    exact .object (prettyMembers_spelled name value members (n + 1) depth hmembers
      (newLine_blank n))
termination_by v => sizeOf v

theorem prettyItems_spelled : ∀ (item : Json) (items : List Json) (n depth : Nat),
    readableItems depth (item :: items) = true →
    ∀ {after : List Char}, (∀ c ∈ after, isBlank c = true) →
    Spelled depth (.items (item :: items))
      (blockText n (prettyItems n (item :: items)) ++ after)
  | item, [], n, depth, h, after, hafter => by
    rw [readableItems, Bool.and_eq_true] at h
    rw [prettyItems, prettyItems, blockText_one]
    exact .item ((pretty_spelled item n depth h.1).afterElement (newLine_blank n) hafter)
  | item, next :: items, n, depth, h, after, hafter => by
    rw [readableItems, Bool.and_eq_true] at h
    rw [prettyItems, prettyItems, blockText_cons, ← prettyItems, List.append_assoc,
      List.append_assoc, List.cons_append, ← List.append_assoc]
    have hitem := (pretty_spelled item n depth h.1).afterElement (newLine_blank n)
      (List.forall_mem_nil _)
    rw [List.append_nil] at hitem
    exact .items hitem (prettyItems_spelled next items n depth h.2 hafter)
termination_by item items => sizeOf (item :: items)

theorem prettyMembers_spelled : ∀ (name : String) (value : Json) (members : List (String × Json))
    (n depth : Nat), readableMembers depth ((name, value) :: members) = true →
    ∀ {after : List Char}, (∀ c ∈ after, isBlank c = true) →
    Spelled depth (.members ((name, value) :: members))
      (blockText n (prettyMembers n ((name, value) :: members)) ++ after)
  | name, value, [], n, depth, h, after, hafter => by
    rw [readableMembers, Bool.and_eq_true] at h
    rw [prettyMembers, prettyMembers, blockText_one, String.toList_append, String.toList_append,
      List.append_assoc (quote name).toList]
    exact .lastMember ((pretty_spelled value n depth h.1).spacedMember name (newLine_blank n) hafter)
  | name, value, (name', value') :: members, n, depth, h, after, hafter => by
    rw [readableMembers, Bool.and_eq_true] at h
    rw [prettyMembers, prettyMembers, blockText_cons, ← prettyMembers, List.append_assoc,
      List.append_assoc, List.cons_append, ← List.append_assoc, String.toList_append,
      String.toList_append, List.append_assoc (quote name).toList]
    have hmember := (pretty_spelled value n depth h.1).spacedMember name
      (newLine_blank n) (List.forall_mem_nil _)
    rw [List.append_nil] at hmember
    exact .members hmember (prettyMembers_spelled name' value' members n depth h.2 hafter)
termination_by name value members => sizeOf ((name, value) :: members)

end

/-! ## Whole texts -/

theorem parse_spelled {depth : Nat} {v : Json} {text : String}
    (h : Spelled depth (.value v) text.toList) : parse depth text = some v := by
  have hskip : skipBlanks text.toList = text.toList := by
    obtain ⟨c, cs, htext, hblank, -⟩ := h.opens
    rw [htext]
    exact skipBlanks_cons hblank cs
  have hread := h.read (2 * text.toList.length) [] (Nat.le_refl _)
    (fun c hc => by cases hc)
  rw [List.append_nil] at hread
  rw [parse, hskip, hread]
  rfl

theorem parse_text {depth : Nat} {v : Json} (h : readable depth v = true) :
    parse depth (text v) = some v :=
  parse_spelled (text_spelled v depth h)

theorem parse_prettyText {depth : Nat} {v : Json} (h : readable depth v = true) :
    parse depth (prettyText v) = some v :=
  parse_spelled (pretty_spelled v 0 depth h)

end Json

end Surface

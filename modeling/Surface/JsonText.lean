import Mathlib.Data.List.Basic

/-!
# Surface.JsonText

The grammar of JSON texts, as bytes, with how deep their arrays and objects are nested.

* `JsonText kind depth text`: the text is of that kind (a value, the values of an array, the
  members of an object) and of that depth; `JsonDocument` is a whole text.
* `JsonNumber.bytes`: the bytes that numbers are made of.
-/

namespace Surface

/-! ## Strings and numbers -/

def JsonSpace (text : List UInt8) : Prop := ∀ byte ∈ text, byte ∈ [0x20, 0x09, 0x0a, 0x0d]

def isHexByte (byte : UInt8) : Bool :=
  (0x30 ≤ byte && byte ≤ 0x39) || (0x41 ≤ byte && byte ≤ 0x46) || (0x61 ≤ byte && byte ≤ 0x66)

def isDigitByte (byte : UInt8) : Bool := 0x30 ≤ byte && byte ≤ 0x39

/-- The escaped characters: the quote, both slashes, and the letters of the control characters. -/
def escapeBytes : List UInt8 := [0x22, 0x5c, 0x2f, 0x62, 0x66, 0x6e, 0x72, 0x74]

/-- One character of a string, as it stands or escaped. -/
inductive JsonChar : List UInt8 → Prop where
  | plain (c : Char) (hcontrol : 0x20 ≤ c.toNat) (hquote : c ≠ '"') (hslash : c ≠ '\\') :
      JsonChar (String.utf8EncodeChar c)
  | escape (byte : UInt8) (h : byte ∈ escapeBytes) : JsonChar [0x5c, byte]
  | unicode (digits : List UInt8) (hlength : digits.length = 4)
      (hdigits : ∀ digit ∈ digits, isHexByte digit = true) : JsonChar (0x5c :: 0x75 :: digits)

inductive JsonChars : List UInt8 → Prop where
  | nil : JsonChars []
  | cons {char rest : List UInt8} (hchar : JsonChar char) (hrest : JsonChars rest) :
      JsonChars (char ++ rest)

def JsonString (text : List UInt8) : Prop :=
  ∃ chars, JsonChars chars ∧ text = 0x22 :: (chars ++ [0x22])

def JsonDigits (text : List UInt8) : Prop := text ≠ [] ∧ ∀ byte ∈ text, isDigitByte byte = true

/-- The sign, the integer without a leading zero, the fraction and the exponent. -/
inductive JsonNumber : List UInt8 → Prop where
  | parts (sign whole fraction exponent : List UInt8) (hsign : sign = [] ∨ sign = [0x2d])
      (hdigits : JsonDigits whole) (hzero : whole.head? = some 0x30 → whole = [0x30])
      (hfraction : fraction = [] ∨ ∃ digits, JsonDigits digits ∧ fraction = 0x2e :: digits)
      (hexponent : exponent = [] ∨ ∃ mark sign digits, (mark = 0x65 ∨ mark = 0x45) ∧
        (sign = [] ∨ sign = [0x2b] ∨ sign = [0x2d]) ∧ JsonDigits digits ∧
        exponent = mark :: (sign ++ digits)) :
      JsonNumber (sign ++ whole ++ fraction ++ exponent)

/-! ## Values -/

inductive JsonKind where
  | value
  | element
  | items
  | member
  | members

/-- `null`, `true` and `false`. -/
def jsonLiterals : List (List UInt8) :=
  [[0x6e, 0x75, 0x6c, 0x6c], [0x74, 0x72, 0x75, 0x65], [0x66, 0x61, 0x6c, 0x73, 0x65]]

/-- A text of one of the kinds and its depth. An element is a value with white space around it. -/
inductive JsonText : JsonKind → Nat → List UInt8 → Prop where
  | literal {text : List UInt8} (h : text ∈ jsonLiterals) : JsonText .value 0 text
  | number {text : List UInt8} (h : JsonNumber text) : JsonText .value 0 text
  | string {text : List UInt8} (h : JsonString text) : JsonText .value 0 text
  | emptyArray {space : List UInt8} (hspace : JsonSpace space) :
      JsonText .value 1 (0x5b :: (space ++ [0x5d]))
  | array {depth : Nat} {text : List UInt8} (h : JsonText .items depth text) :
      JsonText .value (depth + 1) (0x5b :: (text ++ [0x5d]))
  | emptyObject {space : List UInt8} (hspace : JsonSpace space) :
      JsonText .value 1 (0x7b :: (space ++ [0x7d]))
  | object {depth : Nat} {text : List UInt8} (h : JsonText .members depth text) :
      JsonText .value (depth + 1) (0x7b :: (text ++ [0x7d]))
  | element {depth : Nat} {before text after : List UInt8} (hbefore : JsonSpace before)
      (h : JsonText .value depth text) (hafter : JsonSpace after) :
      JsonText .element depth (before ++ text ++ after)
  | item {depth : Nat} {text : List UInt8} (h : JsonText .element depth text) :
      JsonText .items depth text
  | items {depth depth' : Nat} {text rest : List UInt8} (h : JsonText .element depth text)
      (hrest : JsonText .items depth' rest) :
      JsonText .items (max depth depth') (text ++ 0x2c :: rest)
  | member {depth : Nat} {before name middle text : List UInt8} (hbefore : JsonSpace before)
      (hname : JsonString name) (hmiddle : JsonSpace middle) (h : JsonText .element depth text) :
      JsonText .member depth (before ++ name ++ middle ++ 0x3a :: text)
  | lastMember {depth : Nat} {text : List UInt8} (h : JsonText .member depth text) :
      JsonText .members depth text
  | members {depth depth' : Nat} {text rest : List UInt8} (h : JsonText .member depth text)
      (hrest : JsonText .members depth' rest) :
      JsonText .members (max depth depth') (text ++ 0x2c :: rest)

abbrev JsonDocument (depth : Nat) (text : List UInt8) : Prop := JsonText .element depth text

/-! ## The bytes of the parts -/

/-- The characters of a number. -/
theorem JsonNumber.bytes {text : List UInt8} (h : JsonNumber text) :
    ∀ byte ∈ text, isDigitByte byte = true ∨ byte ∈ [0x2b, 0x2d, 0x2e, 0x45, 0x65] := by
  obtain ⟨sign, whole, fraction, exponent, hsign, hdigits, -, hfraction, hexponent⟩ := h
  have hsigns : ∀ {sign : List UInt8}, sign = [] ∨ sign = [0x2b] ∨ sign = [0x2d] →
      ∀ byte ∈ sign, isDigitByte byte = true ∨ byte ∈ [0x2b, 0x2d, 0x2e, 0x45, 0x65] := by
    rintro _ (rfl | rfl | rfl) byte hbyte
    · cases hbyte
    · rw [List.mem_singleton.mp hbyte]
      exact .inr (by decide)
    · rw [List.mem_singleton.mp hbyte]
      exact .inr (by decide)
  intro byte hbyte
  rcases List.mem_append.mp hbyte with hbyte | hbyte
  · rcases List.mem_append.mp hbyte with hbyte | hbyte
    · rcases List.mem_append.mp hbyte with hbyte | hbyte
      · exact hsigns (hsign.imp_right .inr) byte hbyte
      · exact .inl (hdigits.2 byte hbyte)
    · rcases hfraction with rfl | ⟨digits, hdigits, rfl⟩
      · cases hbyte
      · rcases List.mem_cons.mp hbyte with rfl | hbyte
        · exact .inr (by decide)
        · exact .inl (hdigits.2 byte hbyte)
  · rcases hexponent with rfl | ⟨mark, sign, digits, hmark, hsign, hdigits, rfl⟩
    · cases hbyte
    · rcases List.mem_cons.mp hbyte with rfl | hbyte
      · rcases hmark with rfl | rfl
        · exact .inr (by decide)
        · exact .inr (by decide)
      · rcases List.mem_append.mp hbyte with hbyte | hbyte
        · exact hsigns hsign byte hbyte
        · exact .inl (hdigits.2 byte hbyte)

end Surface

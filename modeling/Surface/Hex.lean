import Surface.Text

/-!
# Surface.Hex

Bytes as hexadecimal digits: written in lower case, read in either case into an array of a fixed
size.

* `FixedBytes`: an array of a fixed size.
* `hex`, `decodeHex`: the writer and the reader.
* `decodeHex_hex`, `hex_injective`: the reader inverts the writer.
* `decodeHexChecked`: the reader with every access checked, as the loop over the pairs makes them.
* `hexCodec`: which texts are read, and what is written back for them.
-/

namespace Surface

abbrev FixedBytes (n : Nat) := { bytes : List UInt8 // bytes.length = n }

def digits : List UInt8 := [48, 49, 50, 51, 52, 53, 54, 55, 56, 57, 97, 98, 99, 100, 101, 102]

def digitPair (byte : UInt8) : List UInt8 :=
  [digits.getD (byte >>> 4).toNat 48, digits.getD (byte &&& 0x0f).toNat 48]

def hex (bytes : List UInt8) : String := String.ofList ((bytes.flatMap digitPair).map Char.ofUInt8)

def digit (value : UInt8) : Option UInt8 :=
  if 48 ≤ value ∧ value ≤ 57 then some (value - 48)
  else if 97 ≤ value ∧ value ≤ 102 then some (value - 97 + 10)
  else if 65 ≤ value ∧ value ≤ 70 then some (value - 65 + 10)
  else none

/-- The bytes of the complete pairs of digits. -/
def decodePairs : List UInt8 → Option (List UInt8)
  | first :: second :: rest => do
    let high ← digit first
    let low ← digit second
    let bytes ← decodePairs rest
    some ((high <<< 4 ||| low) :: bytes)
  | _ => some []

theorem decodePairs_length {value bytes : List UInt8} (h : decodePairs value = some bytes) :
    bytes.length = value.length / 2 := by
  induction value using decodePairs.induct generalizing bytes with
  | case1 first second rest ih =>
    simp only [decodePairs, Option.bind_eq_bind, Option.bind_eq_some_iff] at h
    obtain ⟨high, _, low, _, tail, htail, hbytes⟩ := h
    cases hbytes
    simp only [List.length_cons, ih htail]
    omega
  | case2 value hshort =>
    match value, hshort with
    | [], _ => cases h; rfl
    | [_], _ => cases h; simp
    | first :: second :: rest, hshort => exact (hshort first second rest rfl).elim

def decodeHex (n : Nat) (value : String) : Option (FixedBytes n) :=
  if hlength : (utf8Bytes value).length = n * 2 then
    match hpairs : decodePairs (utf8Bytes value) with
    | some bytes => some ⟨bytes, by
        rw [decodePairs_length hpairs, hlength, Nat.mul_div_cancel _ (by decide)]⟩
    | none => none
  else none

/-! ## Round trip -/

theorem getD_mem_digits (index : Nat) : digits.getD index 48 ∈ digits := by
  rw [List.getD_eq_getElem?_getD]
  cases hdigit : digits[index]? with
  | none => decide
  | some value => exact List.mem_of_getElem? hdigit

theorem mem_digits_of_digitPair {byte value : UInt8} (h : value ∈ digitPair byte) :
    value ∈ digits := by
  rcases List.mem_pair.mp h with rfl | rfl
  · exact getD_mem_digits _
  · exact getD_mem_digits _

theorem digits_lt : digits.all (· < 128) = true := by decide

/-- Both digits of a byte are read back, and the byte is put together from its halves. -/
theorem digit_digits : ∀ bits : BitVec 8,
    digit (digits.getD (UInt8.ofBitVec bits >>> 4).toNat 48) = some (UInt8.ofBitVec bits >>> 4) ∧
      digit (digits.getD (UInt8.ofBitVec bits &&& 0x0f).toNat 48) =
          some (UInt8.ofBitVec bits &&& 0x0f) ∧
        (UInt8.ofBitVec bits >>> 4) <<< 4 ||| UInt8.ofBitVec bits &&& 0x0f =
          UInt8.ofBitVec bits := by
  decide

theorem utf8EncodeChar_ascii : ∀ bits : BitVec 8, (⟨bits⟩ : UInt8) < 128 →
    String.utf8EncodeChar (Char.ofUInt8 ⟨bits⟩) = [⟨bits⟩] := by
  decide

theorem utf8Bytes_ascii {bytes : List UInt8} (h : ∀ byte ∈ bytes, byte < 128) :
    utf8Bytes (String.ofList (bytes.map Char.ofUInt8)) = bytes := by
  rw [utf8Bytes_eq_flatMap, String.toList_ofList]
  induction bytes with
  | nil => rfl
  | cons byte bytes ih =>
    obtain ⟨hbyte, hbytes⟩ := List.forall_mem_cons.mp h
    rw [List.map_cons, List.flatMap_cons, ih hbytes, utf8EncodeChar_ascii byte.toBitVec hbyte]
    rfl

theorem utf8Bytes_hex (bytes : List UInt8) : utf8Bytes (hex bytes) = bytes.flatMap digitPair := by
  refine utf8Bytes_ascii fun byte hbyte => ?_
  obtain ⟨source, _, hsource⟩ := List.mem_flatMap.mp hbyte
  exact of_decide_eq_true (List.all_eq_true.mp digits_lt byte (mem_digits_of_digitPair hsource))

theorem decodePairs_flatMap (bytes : List UInt8) :
    decodePairs (bytes.flatMap digitPair) = some bytes := by
  induction bytes with
  | nil => rfl
  | cons byte bytes ih =>
    obtain ⟨hhigh, hlow, hbyte⟩ := digit_digits byte.toBitVec
    rw [List.flatMap_cons, digitPair, List.cons_append, List.cons_append, List.nil_append,
      decodePairs, hhigh, hlow, ih]
    exact congrArg (fun byte => some (byte :: bytes)) hbyte

theorem length_flatMap_digitPair (bytes : List UInt8) :
    (bytes.flatMap digitPair).length = bytes.length * 2 := by
  simp [List.length_flatMap, digitPair]

theorem decodeHex_eq_some {n : Nat} {value : String} {bytes : FixedBytes n} :
    decodeHex n value = some bytes ↔
      (utf8Bytes value).length = n * 2 ∧ decodePairs (utf8Bytes value) = some bytes.1 := by
  unfold decodeHex
  split
  · next hlength =>
    split
    · next decoded hdecoded =>
      constructor
      · intro h
        cases h
        exact ⟨hlength, hdecoded⟩
      · rintro ⟨_, hbytes⟩
        exact congrArg some (Subtype.ext (Option.some.inj (hdecoded.symm.trans hbytes)))
    · next hnone => exact iff_of_false nofun fun h => by cases hnone.symm.trans h.2
  · next hlength => exact iff_of_false nofun fun h => hlength h.1

theorem decodeHex_hex {n : Nat} (bytes : FixedBytes n) : decodeHex n (hex bytes.1) = some bytes := by
  rw [decodeHex_eq_some, utf8Bytes_hex, length_flatMap_digitPair, bytes.2]
  exact ⟨rfl, decodePairs_flatMap bytes.1⟩

theorem hex_injective {first second : List UInt8} (h : hex first = hex second) :
    first = second := by
  have hbytes := congrArg utf8Bytes h
  rw [utf8Bytes_hex, utf8Bytes_hex] at hbytes
  have hpairs := congrArg decodePairs hbytes
  rw [decodePairs_flatMap, decodePairs_flatMap] at hpairs
  exact Option.some.inj hpairs

/-! ## Digits of either case -/

def isHexDigit (c : Char) : Bool :=
  ('0' ≤ c && c ≤ '9') || ('a' ≤ c && c ≤ 'f') || ('A' ≤ c && c ≤ 'F')

theorem digit_isSome : ∀ bits : BitVec 8,
    (digit ⟨bits⟩).isSome = isHexDigit (Char.ofUInt8 ⟨bits⟩) := by
  decide

/-- A digit that is read is written back in lower case. -/
theorem digits_digit : ∀ bits : BitVec 8, (digit ⟨bits⟩).all (fun value => decide (value < 16) &&
    Char.ofUInt8 (digits.getD value.toNat 48) == (Char.ofUInt8 ⟨bits⟩).toLower) = true := by
  decide

theorem digits_of_digit {byte value : UInt8} (h : digit byte = some value) : value < 16 ∧
    Char.ofUInt8 (digits.getD value.toNat 48) = (Char.ofUInt8 byte).toLower := by
  have hall := digits_digit byte.toBitVec
  rw [show digit ⟨byte.toBitVec⟩ = some value from h, Option.all_some] at hall
  obtain ⟨hlt, hlower⟩ := Bool.and_eq_true_iff.mp hall
  exact ⟨of_decide_eq_true hlt, beq_iff_eq.mp hlower⟩

theorem byte_halves : ∀ high low : Fin 16,
    (UInt8.ofNat high <<< 4 ||| UInt8.ofNat low) >>> 4 = UInt8.ofNat high ∧
      (UInt8.ofNat high <<< 4 ||| UInt8.ofNat low) &&& 0x0f = UInt8.ofNat low := by
  decide

theorem decodePairs_isSome {value : List UInt8} (h : value.length % 2 = 0) :
    (decodePairs value).isSome = true ↔ ∀ byte ∈ value, (digit byte).isSome = true := by
  induction value using decodePairs.induct with
  | case1 first second rest ih =>
    have hrest := ih (by simp only [List.length_cons] at h; omega)
    rw [List.forall_mem_cons, List.forall_mem_cons, ← hrest]
    simp only [decodePairs]
    cases digit first <;> cases digit second <;> cases decodePairs rest <;> simp
  | case2 value hshort =>
    match value, hshort with
    | [], _ => simp [decodePairs]
    | [_], _ => simp at h
    | first :: second :: rest, hshort => exact (hshort first second rest rfl).elim

/-- Both digits of a pair are written back in lower case. -/
theorem digitPair_digits {first second high low : UInt8} (hhigh : digit first = some high)
    (hlow : digit second = some low) : (digitPair (high <<< 4 ||| low)).map Char.ofUInt8 =
      [(Char.ofUInt8 first).toLower, (Char.ofUInt8 second).toLower] := by
  obtain ⟨hhigh16, hfirst⟩ := digits_of_digit hhigh
  obtain ⟨hlow16, hsecond⟩ := digits_of_digit hlow
  obtain ⟨hshift, hmask⟩ := byte_halves ⟨high.toNat, hhigh16⟩ ⟨low.toNat, hlow16⟩
  simp only [UInt8.ofNat_toNat] at hshift hmask
  rw [digitPair, hshift, hmask, List.map_cons, List.map_cons, hfirst, hsecond]
  rfl

theorem decodePairs_lower {value bytes : List UInt8} (hlength : value.length % 2 = 0)
    (h : decodePairs value = some bytes) : (bytes.flatMap digitPair).map Char.ofUInt8 =
      value.map fun byte => (Char.ofUInt8 byte).toLower := by
  induction value using decodePairs.induct generalizing bytes with
  | case1 first second rest ih =>
    simp only [decodePairs, Option.bind_eq_bind, Option.bind_eq_some_iff] at h
    obtain ⟨high, hhigh, low, hlow, tail, htail, hbytes⟩ := h
    cases hbytes
    have hrest := ih (by simp only [List.length_cons] at hlength; omega) htail
    rw [List.flatMap_cons, List.map_append, digitPair_digits hhigh hlow, hrest]
    rfl
  | case2 value hshort =>
    match value, hshort with
    | [], _ => cases h; rfl
    | [_], _ => simp at hlength
    | first :: second :: rest, hshort => exact (hshort first second rest rfl).elim

/-! ## Checked accesses -/

/-- The pairs of a list, without a last element that has no partner. -/
def chunksExact : List UInt8 → List (List UInt8)
  | first :: second :: rest => [first, second] :: chunksExact rest
  | _ => []

/-- The loop over the pairs; `none` is an access outside of a pair or of the output. -/
def decodeChunks : Nat → List (List UInt8) → List UInt8 → Option (Option (List UInt8))
  | _, [], output => some (some output)
  | index, pair :: rest, output =>
    pair[0]?.bind fun first =>
      match digit first with
      | none => some none
      | some high => pair[1]?.bind fun second =>
        match digit second with
        | none => some none
        | some low =>
          if index < output.length then
            decodeChunks (index + 1) rest (output.set index (high <<< 4 ||| low))
          else none

def decodeHexChecked (n : Nat) (value : String) : Option (Option (List UInt8)) :=
  if (utf8Bytes value).length ≠ n * 2 then some none
  else decodeChunks 0 (chunksExact (utf8Bytes value)) (List.replicate n 0)

theorem decodeChunks_eq (value done : List UInt8) :
    decodeChunks done.length (chunksExact value)
        (done ++ List.replicate (value.length / 2) 0) =
      some ((decodePairs value).map (done ++ ·)) := by
  induction value using decodePairs.induct generalizing done with
  | case1 first second rest ih =>
    have hhalf : (first :: second :: rest).length / 2 = rest.length / 2 + 1 := by
      simp only [List.length_cons]
      omega
    rw [chunksExact, hhalf, List.replicate_succ]
    simp only [decodeChunks, List.getElem?_cons_zero, List.getElem?_cons_succ, Option.bind_some,
      decodePairs]
    cases hhigh : digit first with
    | none => rfl
    | some high =>
      cases hlow : digit second with
      | none => rfl
      | some low =>
        have hroom : done.length < (done ++ 0 :: List.replicate (rest.length / 2) 0).length := by
          rw [List.length_append, List.length_cons]
          omega
        have hset : (done ++ 0 :: List.replicate (rest.length / 2) 0).set done.length
            (high <<< 4 ||| low) =
              done ++ [high <<< 4 ||| low] ++ List.replicate (rest.length / 2) 0 := by
          rw [List.set_append_right _ _ (Nat.le_refl _), Nat.sub_self, List.set_cons_zero,
            List.append_assoc, List.singleton_append]
        have hlength : (done ++ [high <<< 4 ||| low]).length = done.length + 1 :=
          List.length_append
        simp only [if_pos hroom, hset]
        rw [← hlength, ih]
        cases decodePairs rest with
        | none => rfl
        | some bytes =>
          exact congrArg (fun tail => some (some tail)) (List.append_assoc ..)
  | case2 value hshort =>
    match value, hshort with
    | [], _ => simp [chunksExact, decodeChunks, decodePairs]
    | [_], _ => simp [chunksExact, decodeChunks, decodePairs]
    | first :: second :: rest, hshort => exact (hshort first second rest rfl).elim

theorem decodeHexChecked_eq (n : Nat) (value : String) :
    decodeHexChecked n value = some ((decodeHex n value).map Subtype.val) := by
  unfold decodeHexChecked
  split
  · rename_i hlength
    rw [decodeHex, dif_neg hlength]
    rfl
  · rename_i hlength
    rw [not_not] at hlength
    have hchunks := decodeChunks_eq (utf8Bytes value) []
    rw [hlength, Nat.mul_div_cancel _ (by decide)] at hchunks
    refine hchunks.trans (congrArg some ?_)
    cases hpairs : decodePairs (utf8Bytes value) with
    | none =>
      have hnone : decodeHex n value = none := Option.eq_none_iff_forall_ne_some.mpr
        fun bytes h => by
          rw [(decodeHex_eq_some.mp h).2] at hpairs
          cases hpairs
      rw [hnone]
      rfl
    | some bytes =>
      have hbytes : bytes.length = n := by
        rw [decodePairs_length hpairs, hlength, Nat.mul_div_cancel _ (by decide)]
      have hsome : decodeHex n value = some ⟨bytes, hbytes⟩ :=
        decodeHex_eq_some.mpr ⟨hlength, hpairs⟩
      rw [hsome]
      rfl

/-! ## What is read -/

/-- Twice as many hexadecimal digits as bytes. -/
def HexDigits (n : Nat) (value : String) : Prop :=
  value.toList.length = 2 * n ∧ ∀ c ∈ value.toList, isHexDigit c = true

theorem isHexDigit_ascii {c : Char} (h : isHexDigit c = true) : c.toNat < 0x80 := by
  simp only [isHexDigit, Bool.or_eq_true, Bool.and_eq_true, decide_eq_true_eq] at h
  have hlast : c.toNat ≤ 57 ∨ c.toNat ≤ 102 ∨ c.toNat ≤ 70 := by
    rcases h with (⟨-, h⟩ | ⟨-, h⟩) | ⟨-, h⟩
    · exact .inl (UInt32.le_iff_toNat_le.mp h)
    · exact .inr (.inl (UInt32.le_iff_toNat_le.mp h))
    · exact .inr (.inr (UInt32.le_iff_toNat_le.mp h))
  omega

theorem ofUInt8_ascii {c : Char} (h : c.toNat < 0x80) : Char.ofUInt8 (UInt8.ofNat c.toNat) = c := by
  refine Char.toNat_inj.mp ?_
  have hbyte : (Char.ofUInt8 (UInt8.ofNat c.toNat)).toNat = (UInt8.ofNat c.toNat).toNat := rfl
  rw [hbyte, UInt8.toNat_ofNat']
  omega

/-- Only ASCII bytes are digits. -/
theorem digit_ascii {byte : UInt8} (h : (digit byte).isSome = true) : byte.toNat < 0x80 := by
  have hdigit := isHexDigit_ascii ((digit_isSome byte.toBitVec).symm.trans h)
  exact hdigit

/-- The bytes of a text are digits exactly when its characters are. -/
theorem digits_iff {value : String} : (∀ byte ∈ utf8Bytes value, (digit byte).isSome = true) ↔
    ∀ c ∈ value.toList, isHexDigit c = true := by
  have hbytes (hascii : ∀ c ∈ value.toList, c.toNat < 0x80) :
      (∀ byte ∈ utf8Bytes value, (digit byte).isSome = true) ↔
        ∀ c ∈ value.toList, isHexDigit c = true := by
    rw [utf8Bytes_eq_map hascii, List.forall_mem_map]
    refine forall₂_congr fun c hc => ?_
    have hdigit := digit_isSome (UInt8.ofNat c.toNat).toBitVec
    rw [show Char.ofUInt8 ⟨(UInt8.ofNat c.toNat).toBitVec⟩ = c from ofUInt8_ascii (hascii c hc)]
      at hdigit
    exact iff_of_eq (congrArg (· = true) hdigit)
  constructor
  · intro h
    exact (hbytes (ascii_of_utf8Bytes fun byte hbyte => digit_ascii (h byte hbyte))).mp h
  · intro h
    exact (hbytes fun c hc => isHexDigit_ascii (h c hc)).mpr h

theorem decodeHex_isSome {n : Nat} {value : String} :
    (decodeHex n value).isSome = true ↔ HexDigits n value := by
  have hlength (hdigits : ∀ c ∈ value.toList, isHexDigit c = true) :
      (utf8Bytes value).length = value.toList.length := by
    rw [utf8Bytes_eq_map fun c hc => isHexDigit_ascii (hdigits c hc), List.length_map]
  rw [HexDigits, Nat.mul_comm 2 n]
  constructor
  · intro h
    obtain ⟨bytes, hbytes⟩ := Option.isSome_iff_exists.mp h
    obtain ⟨hsize, hpairs⟩ := decodeHex_eq_some.mp hbytes
    have hdigits := digits_iff.mp ((decodePairs_isSome (by omega)).mp
      (Option.isSome_iff_exists.mpr ⟨_, hpairs⟩))
    exact ⟨(hlength hdigits).symm.trans hsize, hdigits⟩
  · rintro ⟨hsize, hdigits⟩
    have hbytes : (utf8Bytes value).length = n * 2 := (hlength hdigits).trans hsize
    obtain ⟨bytes, hpairs⟩ := Option.isSome_iff_exists.mp
      ((decodePairs_isSome (by omega)).mpr (digits_iff.mpr hdigits))
    have hcount : bytes.length = n := by
      rw [decodePairs_length hpairs, hbytes, Nat.mul_div_cancel _ (by decide)]
    exact Option.isSome_iff_exists.mpr
      ⟨⟨bytes, hcount⟩, decodeHex_eq_some.mpr ⟨hbytes, hpairs⟩⟩

theorem hex_of_decodeHex {n : Nat} {value : String} {bytes : FixedBytes n}
    (h : decodeHex n value = some bytes) : hex bytes.1 = value.toLower := by
  obtain ⟨hsize, hpairs⟩ := decodeHex_eq_some.mp h
  have hdigits := (decodeHex_isSome.mp (Option.isSome_iff_exists.mpr ⟨_, h⟩)).2
  have hascii := fun c hc => isHexDigit_ascii (hdigits c hc)
  refine (toLower_eq ?_).symm
  rw [hex, String.toList_ofList, decodePairs_lower (by omega) hpairs, utf8Bytes_eq_map hascii,
    List.map_map]
  exact List.map_congr_left fun c hc => congrArg Char.toLower (ofUInt8_ascii (hascii c hc)).symm

/-! ## The codec -/

structure HexCodec (n : Nat) : Prop where
  roundTrip : ∀ bytes : FixedBytes n, decodeHex n (hex bytes.1) = some bytes
  accepted : ∀ value, (decodeHex n value).isSome = true ↔ HexDigits n value
  lower : ∀ value bytes, decodeHex n value = some bytes → hex bytes.1 = value.toLower
  inRange : ∀ value, decodeHexChecked n value = some ((decodeHex n value).map Subtype.val)

theorem hexCodec (n : Nat) : HexCodec n where
  roundTrip := decodeHex_hex
  accepted _ := decodeHex_isSome
  lower _ _ := hex_of_decodeHex
  inRange := decodeHexChecked_eq n

end Surface

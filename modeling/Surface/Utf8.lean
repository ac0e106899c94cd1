import Mathlib.Tactic.Basic

/-!
# Surface.Utf8

Bytes read as UTF-8, with a replacement for what is not.

* `Utf8Pending`: a character that is begun, with the range its next byte has to be in.
* `decodeLossy`: one replacement for each longest part of a character, and for each byte that
  begins none.
* `decodeLossy_ascii`: ASCII bytes stand for themselves, whatever is around them.
-/

namespace Surface

/-- The range of the next byte, the number of bytes after that one, and the bits so far. -/
structure Utf8Pending where
  low : UInt8
  high : UInt8
  more : Nat
  bits : Nat
  beyond : 0x80 ≤ low

def Utf8Pending.accepts (pending : Utf8Pending) (byte : UInt8) : Bool :=
  decide (pending.low ≤ byte) && decide (byte ≤ pending.high)

/-- What a byte beyond ASCII begins. -/
def utf8Lead (byte : UInt8) : Option Utf8Pending :=
  if 0xc2 ≤ byte ∧ byte ≤ 0xdf then some ⟨0x80, 0xbf, 0, byte.toNat - 0xc0, by decide⟩
  else if byte = 0xe0 then some ⟨0xa0, 0xbf, 1, 0, by decide⟩
  else if byte = 0xed then some ⟨0x80, 0x9f, 1, 0xd, by decide⟩
  else if 0xe1 ≤ byte ∧ byte ≤ 0xef then some ⟨0x80, 0xbf, 1, byte.toNat - 0xe0, by decide⟩
  else if byte = 0xf0 then some ⟨0x90, 0xbf, 2, 0, by decide⟩
  else if byte = 0xf4 then some ⟨0x80, 0x8f, 2, 4, by decide⟩
  else if 0xf1 ≤ byte ∧ byte ≤ 0xf3 then some ⟨0x80, 0xbf, 2, byte.toNat - 0xf0, by decide⟩
  else none

def replacementChar : Char := '\ufffd'

def utf8Start (byte : UInt8) : List Char × Option Utf8Pending :=
  if byte < 0x80 then ([Char.ofNat byte.toNat], none)
  else
    match utf8Lead byte with
    | some pending => ([], some pending)
    | none => ([replacementChar], none)

def utf8Step : Option Utf8Pending → UInt8 → List Char × Option Utf8Pending
  | none, byte => utf8Start byte
  | some pending, byte =>
    if pending.accepts byte then
      let bits := pending.bits * 64 + (byte.toNat - 0x80)
      match pending.more with
      | 0 => ([Char.ofNat bits], none)
      | more + 1 => ([], some ⟨0x80, 0xbf, more, bits, by decide⟩)
    else
      let (chars, pending) := utf8Start byte
      (replacementChar :: chars, pending)

def decodeLossyFrom : Option Utf8Pending → List UInt8 → List Char
  | none, [] => []
  | some _, [] => [replacementChar]
  | pending, byte :: bytes =>
    (utf8Step pending byte).1 ++ decodeLossyFrom (utf8Step pending byte).2 bytes

def decodeLossy (bytes : List UInt8) : List Char := decodeLossyFrom none bytes

example : decodeLossy [0x41, 0xe2, 0x82, 0xac, 0xe2, 0x82, 0x42, 0xff] =
    ['A', '€', replacementChar, 'B', replacementChar] := by decide

theorem decodeLossyFrom_cons (pending : Option Utf8Pending) (byte : UInt8) (bytes : List UInt8) :
    decodeLossyFrom pending (byte :: bytes) =
      (utf8Step pending byte).1 ++ decodeLossyFrom (utf8Step pending byte).2 bytes := by
  cases pending <;> rfl

/-- An ASCII byte ends a character that is begun. -/
theorem utf8Step_ascii (pending : Option Utf8Pending) {byte : UInt8} (h : byte < 0x80) :
    utf8Step pending byte =
      (decodeLossyFrom pending [] ++ [Char.ofNat byte.toNat], none) := by
  have hstart : utf8Start byte = ([Char.ofNat byte.toNat], none) := if_pos h
  cases pending with
  | none => exact hstart
  | some pending =>
    have hrejects : pending.accepts byte = false := by
      have hlow : ¬ pending.low ≤ byte := fun hle =>
        absurd (UInt8.le_trans pending.beyond hle) (UInt8.not_le.mpr h)
      simp [Utf8Pending.accepts, hlow]
    simp only [utf8Step, hrejects, hstart, Bool.false_eq_true, if_false]
    rfl

theorem decodeLossyFrom_ascii_cons (pending : Option Utf8Pending) (before : List UInt8)
    {byte : UInt8} (h : byte < 0x80) (after : List UInt8) :
    decodeLossyFrom pending (before ++ byte :: after) =
      decodeLossyFrom pending before ++ Char.ofNat byte.toNat :: decodeLossy after := by
  induction before generalizing pending with
  | nil =>
    rw [List.nil_append, decodeLossyFrom_cons, utf8Step_ascii pending h, List.append_assoc]
    rfl
  | cons first before ih =>
    rw [List.cons_append, decodeLossyFrom_cons, ih, decodeLossyFrom_cons, List.append_assoc]

/-- ASCII bytes stand for themselves. -/
theorem decodeLossy_ascii (before : List UInt8) {word : List UInt8} (hne : word ≠ [])
    (h : ∀ byte ∈ word, byte < 0x80) (after : List UInt8) :
    decodeLossy (before ++ word ++ after) =
      decodeLossy before ++ word.map (fun byte => Char.ofNat byte.toNat) ++ decodeLossy after := by
  induction word generalizing before with
  | nil => exact absurd rfl hne
  | cons byte word ih =>
    obtain ⟨hbyte, hword⟩ := List.forall_mem_cons.mp h
    rw [List.append_assoc, List.cons_append, decodeLossy, decodeLossyFrom_ascii_cons _ _ hbyte]
    cases word with
    | nil => simp [decodeLossy]
    | cons next word =>
      have hrest := ih [] (List.cons_ne_nil _ _) hword
      rw [List.nil_append] at hrest
      rw [hrest]
      simp [decodeLossy, decodeLossyFrom]

/-- There are no more characters than bytes. -/
theorem length_decodeLossy_le (bytes : List UInt8) : (decodeLossy bytes).length ≤ bytes.length := by
  have hgoal : ∀ (bytes : List UInt8) (pending : Option Utf8Pending),
      (decodeLossyFrom pending bytes).length ≤ pending.toList.length + bytes.length := by
    intro bytes
    induction bytes with
    | nil =>
      intro pending
      cases pending <;> simp [decodeLossyFrom]
    | cons byte bytes ih =>
      intro pending
      have hstart : (utf8Start byte).1.length + (utf8Start byte).2.toList.length ≤ 1 := by
        unfold utf8Start
        split
        · simp
        · split <;> simp
      have hstep : (utf8Step pending byte).1.length + (utf8Step pending byte).2.toList.length ≤
          pending.toList.length + 1 := by
        cases pending with
        | none => simpa [utf8Step] using hstart
        | some pending =>
          simp only [utf8Step]
          split
          · split <;> simp
          · simp only [List.length_cons, Option.toList_some, List.length_nil]
            omega
      rw [decodeLossyFrom_cons, List.length_append, List.length_cons]
      have hrest := ih (utf8Step pending byte).2
      omega
  simpa [decodeLossy] using hgoal bytes none

end Surface

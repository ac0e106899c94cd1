import Mathlib.Data.BitVec

/-!
# Surface.Mask

The mask of the leading bits of a word, as a shift of the word of ones.

* `toNat_and_leadingMask`: what is under the mask is the word without its low bits.
* `and_leadingMask_eq_iff`: two words agree under the mask exactly when they do above those bits.
* `checkedMask`: the same with the checks of overflow that fixed-width arithmetic makes.
-/

namespace Surface

variable {w : Nat}

def leadingMask (w length : Nat) : BitVec w := BitVec.allOnes w <<< (w - length)

theorem and_allOnes_shiftLeft (x : BitVec w) (k : Nat) :
    x &&& BitVec.allOnes w <<< k = x >>> k <<< k := by
  ext i hi
  simp only [BitVec.getElem_and, BitVec.getElem_shiftLeft, BitVec.getElem_allOnes,
    BitVec.getElem_ushiftRight]
  by_cases h : i < k
  · simp [h]
  · have hsum : k + (i - k) = i := by omega
    simp [h, hsum, BitVec.getLsbD_eq_getElem hi]

theorem toNat_and_leadingMask (x : BitVec w) (length : Nat) :
    (x &&& leadingMask w length).toNat =
      x.toNat / 2 ^ (w - length) * 2 ^ (w - length) := by
  rw [leadingMask, and_allOnes_shiftLeft, BitVec.toNat_shiftLeft, BitVec.toNat_ushiftRight,
    Nat.shiftRight_eq_div_pow, Nat.shiftLeft_eq]
  exact Nat.mod_eq_of_lt (Nat.lt_of_le_of_lt (Nat.div_mul_le_self _ _) x.isLt)

theorem and_leadingMask_eq_iff {x y : BitVec w} {length : Nat} :
    x &&& leadingMask w length = y &&& leadingMask w length ↔
      x.toNat / 2 ^ (w - length) = y.toNat / 2 ^ (w - length) := by
  rw [← BitVec.toNat_inj, toNat_and_leadingMask, toNat_and_leadingMask]
  exact Nat.mul_left_inj (Nat.two_pow_pos _).ne'

/-- The words under the mask of a network are those of an interval. -/
theorem and_leadingMask_eq_iff_mem {x network : BitVec w} {length : Nat}
    (h : 2 ^ (w - length) ∣ network.toNat) :
    x &&& leadingMask w length = network &&& leadingMask w length ↔
      network.toNat ≤ x.toNat ∧ x.toNat < network.toNat + 2 ^ (w - length) := by
  obtain ⟨n, hn⟩ := h
  have hpos := Nat.two_pow_pos (w - length)
  rw [and_leadingMask_eq_iff, hn, Nat.mul_div_cancel_left n hpos, Nat.div_eq_iff hpos,
    Nat.mul_comm n]
  omega

/-! ## Checked arithmetic -/

/-- A shift by the width of the word or more is an overflow. -/
def checkedShl (x : BitVec w) (amount : Nat) : Option (BitVec w) :=
  if amount < w then some (x <<< amount) else none

def checkedSub (a b : Nat) : Option Nat := if b ≤ a then some (a - b) else none

def checkedMask (w length : Nat) : Option (BitVec w) :=
  (checkedSub w length).bind (checkedShl (BitVec.allOnes w))

theorem checkedMask_eq {length : Nat} (hpos : 0 < length) (hle : length ≤ w) :
    checkedMask w length = some (leadingMask w length) := by
  rw [checkedMask, checkedSub, if_pos hle, Option.bind_some, checkedShl, if_pos (by omega)]
  rfl

end Surface

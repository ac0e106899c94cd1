import Mathlib.Data.Nat.Digits.Defs
import Mathlib.Data.Nat.Digits.Lemmas
import Mathlib.Data.Nat.Size

/-!
# Surface.Der

The contents of an integer in the distinguished encoding: the bytes of its two's complement, the
most significant one first, and as few of them as possible.

* `derInteger`, `MinimalDer`: the integer of some bytes, and whether none of them can be spared.
* `positiveDer_iff`: the two shapes of a positive integer.
* `size_unsigned`: the number of bits, from the number of bytes and the first of them.
-/

namespace Surface

/-- The number that bytes are in base 256. -/
def unsigned (bytes : List UInt8) : Nat := Nat.ofDigits 256 (bytes.reverse.map UInt8.toNat)

/-- The first bit stands for the negative of its weight. -/
def derInteger (bytes : List UInt8) : Int :=
  match bytes with
  | [] => 0
  | first :: rest =>
    if 128 ≤ first then (unsigned (first :: rest) : Int) - 256 ^ (rest.length + 1)
    else unsigned (first :: rest)

/-- There is a first byte, and the first nine bits are not all the same. -/
def MinimalDer (bytes : List UInt8) : Prop :=
  match bytes with
  | [] => False
  | [_] => True
  | first :: second :: _ => ¬(first = 0 ∧ second < 128) ∧ ¬(first = 255 ∧ 128 ≤ second)

instance : DecidablePred MinimalDer
  | [] => isFalse id
  | [_] => isTrue trivial
  | _ :: _ :: _ => inferInstanceAs (Decidable (¬(_ ∧ _) ∧ ¬(_ ∧ _)))

structure PositiveDer (bytes : List UInt8) : Prop where
  minimal : MinimalDer bytes
  positive : 0 < derInteger bytes

example : derInteger [0xff, 0x7f] = -129 ∧ MinimalDer [0xff, 0x7f] := by decide

theorem unsigned_cons (first : UInt8) (rest : List UInt8) :
    unsigned (first :: rest) = first.toNat * 256 ^ rest.length + unsigned rest := by
  rw [unsigned, List.reverse_cons, List.map_append, Nat.ofDigits_append, List.length_map,
    List.length_reverse, List.map_singleton, Nat.ofDigits_singleton, unsigned]
  ring

theorem unsigned_lt (bytes : List UInt8) : unsigned bytes < 256 ^ bytes.length := by
  have hlt := Nat.ofDigits_lt_base_pow_length (b := 256) (l := bytes.reverse.map UInt8.toNat)
    (by decide) (by
      intro digit hdigit
      obtain ⟨byte, -, rfl⟩ := List.mem_map.mp hdigit
      exact byte.toNat_lt)
  rwa [List.length_map, List.length_reverse] at hlt

theorem unsigned_zero_cons (rest : List UInt8) : unsigned (0 :: rest) = unsigned rest := by
  rw [unsigned_cons]
  exact (congrArg (· + unsigned rest) (Nat.zero_mul _)).trans (Nat.zero_add _)

theorem unsigned_concat (bytes : List UInt8) (last : UInt8) :
    unsigned (bytes ++ [last]) = unsigned bytes * 256 + last.toNat := by
  rw [unsigned, List.reverse_append, List.map_append, unsigned]
  simp [Nat.ofDigits_cons]
  ring

theorem unsigned_eq_foldl (bytes : List UInt8) :
    unsigned bytes = bytes.foldl (fun n byte => n * 256 + byte.toNat) 0 := by
  induction bytes using List.reverseRecOn with
  | nil => rfl
  | append_singleton bytes last ih =>
    rw [unsigned_concat, ih, List.foldl_append, List.foldl_cons, List.foldl_nil]

/-! ## Bits -/

theorem size_eq_iff {n v : Nat} (hv : 0 < v) : n = v.size ↔ 2 ^ (n - 1) ≤ v ∧ v < 2 ^ n := by
  rw [← Nat.lt_size, ← Nat.size_le]
  have hpos := Nat.size_pos.mpr hv
  omega

/-- The bytes behind a first one that is not zero have eight bits each. -/
theorem size_unsigned {first : UInt8} (h : 0 < first) (rest : List UInt8) :
    (unsigned (first :: rest)).size = rest.length * 8 + (first.toNat.log2 + 1) := by
  have hfirst : first.toNat ≠ 0 := Nat.pos_iff_ne_zero.mp h
  have hpow : 256 ^ rest.length = 2 ^ (rest.length * 8) := by
    rw [Nat.mul_comm, Nat.pow_mul]
  have hrest := unsigned_lt rest
  have hlow : 2 ^ first.toNat.log2 ≤ first.toNat := Nat.log2_self_le hfirst
  have hhigh : first.toNat < 2 ^ (first.toNat.log2 + 1) := Nat.lt_log2_self
  rw [unsigned_cons]
  rw [hpow] at hrest ⊢
  refine le_antisymm (Nat.size_le.mpr ?_) (Nat.lt_size.mpr ?_)
  · calc first.toNat * 2 ^ (rest.length * 8) + unsigned rest
        < (first.toNat + 1) * 2 ^ (rest.length * 8) := by
          rw [Nat.succ_mul]
          exact Nat.add_lt_add_left hrest _
      _ ≤ 2 ^ (first.toNat.log2 + 1) * 2 ^ (rest.length * 8) :=
          Nat.mul_le_mul_right _ hhigh
      _ = 2 ^ (rest.length * 8 + (first.toNat.log2 + 1)) := by
          rw [← Nat.pow_add, Nat.add_comm]
  · calc 2 ^ (rest.length * 8 + first.toNat.log2)
        = 2 ^ first.toNat.log2 * 2 ^ (rest.length * 8) := by rw [← Nat.pow_add, Nat.add_comm]
      _ ≤ first.toNat * 2 ^ (rest.length * 8) := Nat.mul_le_mul_right _ hlow
      _ ≤ first.toNat * 2 ^ (rest.length * 8) + unsigned rest := Nat.le_add_right _ _

theorem unsigned_pos {first : UInt8} (h : 0 < first) (rest : List UInt8) :
    0 < unsigned (first :: rest) := by
  rw [← Nat.size_pos, size_unsigned h]
  exact Nat.succ_pos _

/-! ## Positive integers -/

theorem derInteger_of_lt {first : UInt8} (h : first < 128) (rest : List UInt8) :
    derInteger (first :: rest) = unsigned (first :: rest) :=
  if_neg (UInt8.not_le.mpr h)

theorem derInteger_neg {first : UInt8} (h : 128 ≤ first) (rest : List UInt8) :
    derInteger (first :: rest) < 0 := by
  have hlt : (unsigned (first :: rest) : Int) < 256 ^ (rest.length + 1) := by
    exact_mod_cast unsigned_lt (first :: rest)
  rw [derInteger, if_pos h]
  omega

theorem derInteger_lt (bytes : List UInt8) : derInteger bytes < 256 ^ bytes.length := by
  cases bytes with
  | nil => exact one_pos
  | cons first rest =>
    rcases UInt8.lt_or_le first 128 with hlt | hge
    · rw [derInteger_of_lt hlt]
      exact_mod_cast unsigned_lt (first :: rest)
    · exact (derInteger_neg hge rest).trans (by positivity)

/-- Without a sign byte, or with one because the first bit of the number is set. -/
theorem positiveDer_iff {bytes : List UInt8} : PositiveDer bytes ↔
    (∃ second rest, bytes = 0 :: second :: rest ∧ 128 ≤ second) ∨
      ∃ first rest, bytes = first :: rest ∧ 0 < first ∧ first < 128 := by
  constructor
  · rintro ⟨hminimal, hpositive⟩
    cases bytes with
    | nil => cases hminimal
    | cons first rest =>
      have hlt : first < 128 := UInt8.not_le.mp fun hge =>
        Int.lt_asymm hpositive (derInteger_neg hge rest)
      rcases eq_or_ne first 0 with rfl | hne
      · cases rest with
        | nil => exact absurd hpositive (by decide)
        | cons second rest =>
          exact .inl ⟨second, rest, rfl, UInt8.not_lt.mp fun hsecond => hminimal.1 ⟨rfl, hsecond⟩⟩
      · exact .inr ⟨first, rest, rfl, UInt8.pos_iff_ne_zero.mpr hne, hlt⟩
  · rintro (⟨second, rest, rfl, hsecond⟩ | ⟨first, rest, rfl, hfirst, hlt⟩)
    · refine ⟨⟨fun h => UInt8.not_le.mpr h.2 hsecond, fun h => by cases h.1⟩, ?_⟩
      rw [derInteger_of_lt (by decide), unsigned_zero_cons]
      exact_mod_cast unsigned_pos (UInt8.lt_of_lt_of_le (by decide) hsecond) rest
    · constructor
      · cases rest with
        | nil => trivial
        | cons second rest =>
          exact ⟨fun h => UInt8.lt_irrefl 0 (h.1 ▸ hfirst),
            fun h => absurd (h.1 ▸ hlt) (by decide)⟩
      · rw [derInteger_of_lt hlt]
        exact_mod_cast unsigned_pos hfirst rest

end Surface

import Surface.Mask
import Surface.NetParse

/-!
# Surface.Intelligence.Prefix

Network prefixes: an address, which may have bits behind the prefix, and a length.

`parsePrefix_canonical`: the canonical text of a prefix that was read is read as a prefix with the
same length and the same addresses, and no mask overflows on the way.
-/

namespace Surface

structure Prefix where
  network : IpAddr
  length : Nat
deriving DecidableEq

namespace Prefix

/-- The mask of a prefix; the empty one is written out, because the shift for it would be one by
the full width. -/
def mask (w length : Nat) : BitVec w := if length = 0 then 0 else leadingMask w length

def contains (p : Prefix) (address : IpAddr) : Bool :=
  match p.network, address with
  | .v4 network, .v4 address =>
    decide (network &&& mask 32 p.length = address &&& mask 32 p.length)
  | .v6 network, .v6 address =>
    decide (network &&& mask 128 p.length = address &&& mask 128 p.length)
  | _, _ => false

def canonical (p : Prefix) : String :=
  match p.network with
  | .v4 network => IpAddr.displayV4 (network &&& mask 32 p.length) ++ "/" ++ toString p.length
  | .v6 network => IpAddr.displayV6 (network &&& mask 128 p.length) ++ "/" ++ toString p.length

end Prefix

def parsePrefix (value : String) : Except String Prefix :=
  match splitOnce '/' value.toList with
  | none => .error "network prefix is invalid"
  | some (address, length) =>
    match IpAddr.parse (String.ofList address) with
    | none => .error "network prefix is invalid"
    | some address =>
      match parseUnsigned 256 (String.ofList length) with
      | none => .error "network prefix is invalid"
      | some length =>
        if (if address.isIpv4 = true then 32 else 128) < length then
          .error "network prefix is invalid"
        else .ok ⟨address, length⟩

namespace Prefix

/-! ## Checked masks -/

/-- The mask as the fixed-width arithmetic computes it: `none` where it would overflow. -/
def maskChecked (w length : Nat) : Option (BitVec w) :=
  if length = 0 then some 0 else checkedMask w length

def containsChecked (p : Prefix) (address : IpAddr) : Option Bool :=
  match p.network, address with
  | .v4 network, .v4 address =>
    (maskChecked 32 p.length).map fun mask => decide (network &&& mask = address &&& mask)
  | .v6 network, .v6 address =>
    (maskChecked 128 p.length).map fun mask => decide (network &&& mask = address &&& mask)
  | _, _ => some false

def canonicalChecked (p : Prefix) : Option String :=
  match p.network with
  | .v4 network => (maskChecked 32 p.length).map fun mask =>
    IpAddr.displayV4 (network &&& mask) ++ "/" ++ toString p.length
  | .v6 network => (maskChecked 128 p.length).map fun mask =>
    IpAddr.displayV6 (network &&& mask) ++ "/" ++ toString p.length

theorem maskChecked_eq {w length : Nat} (h : length ≤ w) :
    maskChecked w length = some (mask w length) := by
  unfold maskChecked mask
  split
  · rfl
  · exact checkedMask_eq (by omega) h

/-- How long a prefix for an address may be. -/
def width : IpAddr → Nat
  | .v4 _ => 32
  | .v6 _ => 128

theorem width_eq (address : IpAddr) :
    (if address.isIpv4 = true then 32 else 128) = width address := by
  cases address <;> rfl

/-- The prefixes that texts stand for. -/
def Valid (p : Prefix) : Prop := p.length ≤ width p.network

theorem containsChecked_eq {p : Prefix} (h : p.Valid) (address : IpAddr) :
    p.containsChecked address = some (p.contains address) := by
  obtain ⟨network, length⟩ := p
  cases network with
  | v4 network =>
    cases address with
    | v4 address =>
      have hmask : maskChecked 32 length = some (mask 32 length) := maskChecked_eq h
      simp only [containsChecked, hmask, Option.map_some, contains]
    | v6 address => rfl
  | v6 network =>
    cases address with
    | v4 address => rfl
    | v6 address =>
      have hmask : maskChecked 128 length = some (mask 128 length) := maskChecked_eq h
      simp only [containsChecked, hmask, Option.map_some, contains]

theorem canonicalChecked_eq {p : Prefix} (h : p.Valid) :
    p.canonicalChecked = some p.canonical := by
  obtain ⟨network, length⟩ := p
  cases network with
  | v4 network =>
    have hmask : maskChecked 32 length = some (mask 32 length) := maskChecked_eq h
    simp only [canonicalChecked, hmask, Option.map_some, canonical]
  | v6 network =>
    have hmask : maskChecked 128 length = some (mask 128 length) := maskChecked_eq h
    simp only [canonicalChecked, hmask, Option.map_some, canonical]

/-! ## Addresses under a mask -/

/-- An address without the bits behind a prefix. -/
def masked : IpAddr → Nat → IpAddr
  | .v4 bits, length => .v4 (bits &&& mask 32 length)
  | .v6 bits, length => .v6 (bits &&& mask 128 length)

theorem masked_masked (address : IpAddr) (length : Nat) :
    masked (masked address length) length = masked address length := by
  cases address with
  | v4 bits => rw [masked, masked, BitVec.and_assoc, BitVec.and_self]
  | v6 bits => rw [masked, masked, BitVec.and_assoc, BitVec.and_self]

theorem width_masked (address : IpAddr) (length : Nat) :
    width (masked address length) = width address := by
  cases address <;> rfl

theorem contains_iff {p : Prefix} {address : IpAddr} :
    p.contains address = true ↔ masked p.network p.length = masked address p.length := by
  obtain ⟨network, length⟩ := p
  cases network <;> cases address <;> simp [contains, masked]

theorem canonical_eq (p : Prefix) :
    p.canonical = (masked p.network p.length).display ++ "/" ++ toString p.length := by
  obtain ⟨network, length⟩ := p
  cases network <;> rfl

theorem contains_network (p : Prefix) : p.contains p.network = true := contains_iff.mpr rfl

end Prefix

/-! ## Reading prefixes -/

theorem parsePrefix_valid {value : String} {p : Prefix} (h : parsePrefix value = .ok p) :
    p.Valid := by
  unfold parsePrefix at h
  split at h
  · cases h
  · split at h
    · cases h
    · rename_i address _
      split at h
      · cases h
      · rw [Prefix.width_eq] at h
        split at h
        · cases h
        · rename_i hlength
          cases h
          exact Nat.not_lt.mp hlength

theorem parsePrefix_display {address : IpAddr} {length : Nat}
    (h : length ≤ Prefix.width address) :
    parsePrefix (address.display ++ "/" ++ toString length) = .ok ⟨address, length⟩ := by
  have hslash : '/' ∉ address.display.toList := fun hmem => by
    rcases IpAddr.display_chars address '/' hmem with h | h | h <;> revert h <;> decide
  have hsplit : splitOnce '/' (address.display ++ "/" ++ toString length).toList =
      some (address.display.toList, (toString length).toList) := by
    have hmark : "/".toList = ['/'] := by decide
    rw [String.toList_append, String.toList_append, hmark, List.append_assoc]
    exact splitOnce_append hslash
  have hbound : length < 256 := by
    cases address with
    | v4 bits => exact Nat.lt_of_le_of_lt h (show 32 < 256 by decide)
    | v6 bits => exact Nat.lt_of_le_of_lt h (show 128 < 256 by decide)
  rw [parsePrefix, hsplit]
  simp only [String.ofList_toList, IpAddr.parse_display, parseUnsigned_toString hbound,
    Prefix.width_eq, if_neg (Nat.not_lt.mpr h)]

/-- The canonical text is read as the prefix with the same length whose address has no bits behind
it. -/
theorem parsePrefix_canonical_eq {p : Prefix} (h : p.Valid) :
    parsePrefix p.canonical = .ok ⟨Prefix.masked p.network p.length, p.length⟩ := by
  rw [Prefix.canonical_eq]
  refine parsePrefix_display ?_
  rw [Prefix.width_masked]
  exact h

theorem contains_masked (p : Prefix) (address : IpAddr) :
    (⟨Prefix.masked p.network p.length, p.length⟩ : Prefix).contains address =
      p.contains address := by
  rw [Bool.eq_iff_iff, Prefix.contains_iff, Prefix.contains_iff, Prefix.masked_masked]

/-- Two prefixes have the same canonical text exactly when they are of one length and hold the same
addresses. -/
theorem canonical_inj_iff {p q : Prefix} (hp : p.Valid) (hq : q.Valid) :
    p.canonical = q.canonical ↔
      p.length = q.length ∧ ∀ address, p.contains address = q.contains address := by
  constructor
  · intro h
    have hparse := parsePrefix_canonical_eq hp
    rw [h, parsePrefix_canonical_eq hq] at hparse
    have hsame := Except.ok.inj hparse
    refine ⟨(congrArg Prefix.length hsame).symm, fun address => ?_⟩
    rw [← contains_masked p, ← contains_masked q, hsame]
  · rintro ⟨hlength, hsame⟩
    have hnetwork := (hsame p.network).symm.trans p.contains_network
    rw [Prefix.contains_iff, ← hlength] at hnetwork
    rw [Prefix.canonical_eq, Prefix.canonical_eq, ← hlength, hnetwork]

/-- What canonicalization keeps of a prefix that was read from a text. -/
structure Canonicalizes (p : Prefix) : Prop where
  checked : p.canonicalChecked = some p.canonical
  containsChecked : ∀ address, p.containsChecked address = some (p.contains address)
  network : p.contains p.network = true
  again : ∃ q, parsePrefix p.canonical = .ok q ∧ q.length = p.length ∧
    (∀ address, q.contains address = p.contains address) ∧ q.canonical = p.canonical

theorem canonicalizes {p : Prefix} (h : p.Valid) : Canonicalizes p := by
  refine ⟨Prefix.canonicalChecked_eq h, Prefix.containsChecked_eq h, p.contains_network,
    _, parsePrefix_canonical_eq h, rfl, contains_masked p, ?_⟩
  rw [Prefix.canonical_eq, Prefix.canonical_eq, Prefix.masked_masked]

theorem parsePrefix_canonical {value : String} {p : Prefix} (h : parsePrefix value = .ok p) :
    Canonicalizes p ∧ ∀ value' q, parsePrefix value' = .ok q →
      (p.canonical = q.canonical ↔
        p.length = q.length ∧ ∀ address, p.contains address = q.contains address) :=
  ⟨canonicalizes (parsePrefix_valid h), fun _ _ hq =>
    canonical_inj_iff (parsePrefix_valid h) (parsePrefix_valid hq)⟩

/-- A prefix with bits behind it. -/
theorem parsePrefix_canonical_of_host_bits : ∃ p, parsePrefix "10.1.2.3/8" = .ok p ∧
    Canonicalizes p ∧ ∀ value' q, parsePrefix value' = .ok q →
      (p.canonical = q.canonical ↔
        p.length = q.length ∧ ∀ address, p.contains address = q.contains address) := by
  have hparse : parsePrefix "10.1.2.3/8" = .ok ⟨.v4 0x0a010203, 8⟩ := by rfl
  exact ⟨_, hparse, parsePrefix_canonical hparse⟩

end Surface

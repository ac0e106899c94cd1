import Surface.Fallible
import Surface.Mask
import Surface.Ordered
import Surface.Net

/-!
# Surface.Intelligence.Destination

Which addresses intelligence lookups may concern: the external unicast space without the
special-purpose ranges of either family.

* `isPublicDestination_iff`: the masks exclude exactly the intervals of those ranges, and with them
  every format that carries an IPv4 address.
* `isPublicDestinationChecked_eq`: no mask on the way overflows.
-/

namespace Surface

namespace IpAddr

def containsV4 (address network : BitVec 32) (length : Nat) : Bool :=
  let mask := BitVec.allOnes 32 <<< (32 - length)
  address &&& mask = network &&& mask

def containsV6 (address network : BitVec 128) (length : Nat) : Bool :=
  let mask := BitVec.allOnes 128 <<< (128 - length)
  address &&& mask = network &&& mask

/-- The special-purpose IPv4 ranges, as network and prefix length. -/
def specialV4 : List (BitVec 32 × Nat) :=
  [(0x00000000, 8), (0x0a000000, 8), (0x64400000, 10), (0x7f000000, 8), (0xa9fe0000, 16),
    (0xac100000, 12), (0xc0000000, 24), (0xc0000200, 24), (0xc01fc400, 24), (0xc034c100, 24),
    (0xc0586300, 24), (0xc0a80000, 16), (0xc0af3000, 24), (0xc6120000, 15), (0xc6336400, 24),
    (0xcb007100, 24), (0xe0000000, 4), (0xf0000000, 4)]

/-- The exceptions within the external IPv6 unicast space. -/
def specialV6 : List (BitVec 128 × Nat) :=
  [(0x20010000000000000000000000000000, 23), (0x20010db8000000000000000000000000, 32),
    (0x20020000000000000000000000000000, 16), (0x2620004f800000000000000000000000, 48),
    (0x3fff0000000000000000000000000000, 20)]

def ipv4IsPublic (address : BitVec 32) : Bool :=
  !specialV4.any (fun range => containsV4 address range.1 range.2)

def ipv6IsPublic (address : BitVec 128) : Bool :=
  decide (address >>> 125 = 1) && !specialV6.any (fun range => containsV6 address range.1 range.2)

def ipv6IsNat64 (address : BitVec 128) : Bool :=
  containsV6 address 0x0064ff9b000000000000000000000000 96 ||
    containsV6 address 0x0064ff9b000100000000000000000000 48

def ipv6IsMappedV4 (address : BitVec 128) : Bool := decide (address >>> 32 = 0xffff)

def isPublicDestination : IpAddr → Bool
  | v4 address => ipv4IsPublic address
  | v6 address => !ipv6IsMappedV4 address && !ipv6IsNat64 address && ipv6IsPublic address

example : isPublicDestination (ofOctets 198 20 0 1) = true := by decide

example : isPublicDestination (ofOctets 198 19 255 255) = false := by decide

/-! ## The ranges as intervals -/

section Ranges

variable {w : Nat}

/-- From the network on, as many addresses as the bits behind the prefix tell apart. -/
def InRange (address : BitVec w) (range : BitVec w × Nat) : Prop :=
  range.1.toNat ≤ address.toNat ∧ address.toNat < range.1.toNat + 2 ^ (w - range.2)

/-- The network has no bits behind its prefix. -/
def aligned (range : BitVec w × Nat) : Bool := decide (range.1.toNat % 2 ^ (w - range.2) = 0)

theorem any_inRange {ranges : List (BitVec w × Nat)} (h : ranges.all aligned = true)
    (address : BitVec w) :
    (ranges.any fun range =>
      decide (address &&& leadingMask w range.2 = range.1 &&& leadingMask w range.2)) = true ↔
      ∃ range ∈ ranges, InRange address range := by
  rw [List.any_eq_true]
  refine exists_congr fun range => and_congr_right fun hrange => ?_
  have haligned := List.all_eq_true.mp h range hrange
  rw [decide_eq_true_eq]
  exact and_leadingMask_eq_iff_mem (Nat.dvd_of_mod_eq_zero (of_decide_eq_true haligned))

/-- One range lies inside of another. -/
def within (inner outer : BitVec w × Nat) : Bool :=
  decide (outer.1.toNat ≤ inner.1.toNat ∧
    inner.1.toNat + 2 ^ (w - inner.2) ≤ outer.1.toNat + 2 ^ (w - outer.2))

theorem InRange.within {address : BitVec w} {inner outer : BitVec w × Nat}
    (h : InRange address inner) (hwithin : within inner outer = true) : InRange address outer := by
  obtain ⟨hstart, hend⟩ := of_decide_eq_true hwithin
  exact ⟨hstart.trans h.1, h.2.trans_le hend⟩

end Ranges

/-- The external unicast space. -/
def unicastV6 : BitVec 128 × Nat := (0x20000000000000000000000000000000, 3)

/-- The IPv6 addresses that carry an IPv4 address: mapped ones, those of NAT64 under its well-known
and its local prefix, of 6to4 and of Teredo. -/
def embeddingV6 : List (BitVec 128 × Nat) :=
  [(0x00000000000000000000ffff00000000, 96), (0x0064ff9b000000000000000000000000, 96),
    (0x0064ff9b000100000000000000000000, 48), (0x20020000000000000000000000000000, 16),
    (0x20010000000000000000000000000000, 32)]

inductive Permitted : IpAddr → Prop where
  | v4 {address : BitVec 32} (hspecial : ∀ range ∈ specialV4, ¬InRange address range) :
      Permitted (.v4 address)
  | v6 {address : BitVec 128} (hunicast : InRange address unicastV6)
      (hspecial : ∀ range ∈ specialV6, ¬InRange address range)
      (hembedding : ∀ range ∈ embeddingV6, ¬InRange address range) : Permitted (.v6 address)

theorem ipv4IsPublic_iff {address : BitVec 32} :
    ipv4IsPublic address = true ↔ ∀ range ∈ specialV4, ¬InRange address range := by
  have haligned : specialV4.all aligned = true := by decide
  have hany := any_inRange haligned address
  rw [ipv4IsPublic, Bool.not_eq_true', Bool.eq_false_iff]
  exact (not_congr hany).trans ⟨fun h range hrange hin => h ⟨range, hrange, hin⟩,
    fun h ⟨range, hrange, hin⟩ => h range hrange hin⟩

theorem inRange_unicastV6 {address : BitVec 128} :
    InRange address unicastV6 ↔ address >>> 125 = 1 := by
  have hnetwork : unicastV6.1.toNat = 2 ^ 125 := by decide
  have hlength : 2 ^ (128 - unicastV6.2) = 2 ^ 125 := by decide
  rw [InRange, hnetwork, hlength, ← BitVec.toNat_inj, BitVec.toNat_ushiftRight,
    Nat.shiftRight_eq_div_pow]
  have hone : (1 : BitVec 128).toNat = 1 := by decide
  rw [hone]
  omega

theorem ipv6IsPublic_iff {address : BitVec 128} :
    ipv6IsPublic address = true ↔
      InRange address unicastV6 ∧ ∀ range ∈ specialV6, ¬InRange address range := by
  have haligned : specialV6.all aligned = true := by decide
  have hany := any_inRange haligned address
  rw [ipv6IsPublic, Bool.and_eq_true, decide_eq_true_eq, ← inRange_unicastV6, Bool.not_eq_true',
    Bool.eq_false_iff]
  exact and_congr_right fun _ => (not_congr hany).trans
    ⟨fun h range hrange hin => h ⟨range, hrange, hin⟩, fun h ⟨range, hrange, hin⟩ =>
      h range hrange hin⟩

/-- Every embedding format lies before the unicast space or in a special range. -/
theorem not_inRange_embeddingV6 {address : BitVec 128} (hunicast : InRange address unicastV6)
    (hspecial : ∀ range ∈ specialV6, ¬InRange address range) :
    ∀ range ∈ embeddingV6, ¬InRange address range := by
  have hcovered : embeddingV6.all (fun range =>
      decide (range.1.toNat + 2 ^ (128 - range.2) ≤ unicastV6.1.toNat) ||
        specialV6.any (within range)) = true := by decide
  intro range hrange hin
  rcases Bool.or_eq_true_iff.mp (List.all_eq_true.mp hcovered range hrange) with hbefore | hspace
  · exact absurd (hin.2.trans_le (of_decide_eq_true hbefore)) (Nat.not_lt.mpr hunicast.1)
  · obtain ⟨outer, houter, hwithin⟩ := List.any_eq_true.mp hspace
    exact hspecial outer houter (hin.within hwithin)

theorem ipv6IsNat64_inRange {address : BitVec 128} (h : ipv6IsNat64 address = true) :
    ∃ range ∈ embeddingV6, InRange address range := by
  have haligned : embeddingV6.all aligned = true := by decide
  refine (any_inRange haligned address).mp (List.any_eq_true.mpr ?_)
  rcases Bool.or_eq_true_iff.mp h with hknown | hlocal
  · exact ⟨(0x0064ff9b000000000000000000000000, 96), by decide, hknown⟩
  · exact ⟨(0x0064ff9b000100000000000000000000, 48), by decide, hlocal⟩

theorem ipv6IsMappedV4_inRange {address : BitVec 128} (h : ipv6IsMappedV4 address = true) :
    ∃ range ∈ embeddingV6, InRange address range := by
  refine ⟨(0x00000000000000000000ffff00000000, 96), by decide, ?_⟩
  have hshift := congrArg BitVec.toNat (of_decide_eq_true h)
  rw [BitVec.toNat_ushiftRight, Nat.shiftRight_eq_div_pow] at hshift
  have hmark : (0xffff : BitVec 128).toNat = 0xffff := by decide
  have hnetwork : (0x00000000000000000000ffff00000000 : BitVec 128).toNat = 0xffff * 2 ^ 32 := by
    decide
  rw [hmark] at hshift
  simp only [InRange, hnetwork]
  omega

/-- The two checks of embedding formats exclude nothing that the unicast space leaves in. -/
theorem isPublicDestination_iff {address : IpAddr} :
    isPublicDestination address = true ↔ Permitted address := by
  cases address with
  | v4 address =>
    refine ipv4IsPublic_iff.trans ⟨fun h => .v4 h, fun h => ?_⟩
    cases h
    assumption
  | v6 address =>
    rw [isPublicDestination, Bool.and_eq_true, Bool.and_eq_true, Bool.not_eq_true',
      Bool.not_eq_true', ipv6IsPublic_iff]
    constructor
    · rintro ⟨-, hunicast, hspecial⟩
      exact .v6 hunicast hspecial (not_inRange_embeddingV6 hunicast hspecial)
    · rintro (_ | ⟨hunicast, hspecial, hembedding⟩)
      refine ⟨⟨Bool.eq_false_iff.mpr fun hmapped => ?_, Bool.eq_false_iff.mpr fun hnat64 => ?_⟩,
        hunicast, hspecial⟩
      · obtain ⟨range, hrange, hin⟩ := ipv6IsMappedV4_inRange hmapped
        exact hembedding range hrange hin
      · obtain ⟨range, hrange, hin⟩ := ipv6IsNat64_inRange hnat64
        exact hembedding range hrange hin

/-! ## Checked masks -/

def containsV4Checked (address network : BitVec 32) (length : Nat) : Option Bool :=
  (checkedMask 32 length).map fun mask => decide (address &&& mask = network &&& mask)

def containsV6Checked (address network : BitVec 128) (length : Nat) : Option Bool :=
  (checkedMask 128 length).map fun mask => decide (address &&& mask = network &&& mask)

def ipv4IsPublicChecked (address : BitVec 32) : Option Bool :=
  (specialV4.anyM fun range => containsV4Checked address range.1 range.2).map (!·)

def ipv6IsPublicChecked (address : BitVec 128) : Option Bool :=
  if address >>> 125 = 1 then
    (specialV6.anyM fun range => containsV6Checked address range.1 range.2).map (!·)
  else some false

def ipv6IsNat64Checked (address : BitVec 128) : Option Bool :=
  (containsV6Checked address 0x0064ff9b000000000000000000000000 96).bind fun known =>
    if known = true then some true
    else containsV6Checked address 0x0064ff9b000100000000000000000000 48

/-- The test as the fixed-width arithmetic computes it: `none` where a shift would overflow. -/
def isPublicDestinationChecked : IpAddr → Option Bool
  | v4 address => ipv4IsPublicChecked address
  | v6 address =>
    if ipv6IsMappedV4 address = true then some false
    else (ipv6IsNat64Checked address).bind fun nat64 =>
      if nat64 = true then some false else ipv6IsPublicChecked address

theorem containsV4Checked_eq (address network : BitVec 32) {length : Nat}
    (h : 0 < length ∧ length ≤ 32) :
    containsV4Checked address network length = some (containsV4 address network length) := by
  rw [containsV4Checked, checkedMask_eq h.1 h.2]
  rfl

theorem containsV6Checked_eq (address network : BitVec 128) {length : Nat}
    (h : 0 < length ∧ length ≤ 128) :
    containsV6Checked address network length = some (containsV6 address network length) := by
  rw [containsV6Checked, checkedMask_eq h.1 h.2]
  rfl

theorem isPublicDestinationChecked_eq (address : IpAddr) :
    isPublicDestinationChecked address = some (isPublicDestination address) := by
  cases address with
  | v4 address =>
    have hlengths : specialV4.all (fun range => decide (0 < range.2 ∧ range.2 ≤ 32)) = true := by
      decide
    rw [isPublicDestinationChecked, ipv4IsPublicChecked, anyM_some fun range hrange =>
      containsV4Checked_eq address range.1
        (of_decide_eq_true (List.all_eq_true.mp hlengths range hrange))]
    rfl
  | v6 address =>
    have hlengths : specialV6.all (fun range => decide (0 < range.2 ∧ range.2 ≤ 128)) = true := by
      decide
    have hpublic : ipv6IsPublicChecked address = some (ipv6IsPublic address) := by
      rw [ipv6IsPublicChecked, anyM_some fun range hrange => containsV6Checked_eq address range.1
        (of_decide_eq_true (List.all_eq_true.mp hlengths range hrange)), ipv6IsPublic]
      by_cases hunicast : address >>> 125 = 1
      · rw [if_pos hunicast, decide_eq_true hunicast]
        rfl
      · rw [if_neg hunicast, decide_eq_false hunicast]
        rfl
    have hnat64 : ipv6IsNat64Checked address = some (ipv6IsNat64 address) := by
      rw [ipv6IsNat64Checked, containsV6Checked_eq address _ (by decide),
        containsV6Checked_eq address _ (by decide), ipv6IsNat64]
      cases containsV6 address 0x0064ff9b000000000000000000000000 96 <;> rfl
    rw [isPublicDestinationChecked, isPublicDestination, hnat64, hpublic]
    cases ipv6IsMappedV4 address with
    | true => rfl
    | false => cases ipv6IsNat64 address <;> rfl

end IpAddr

end Surface

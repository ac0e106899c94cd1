import Mathlib.Data.Prod.Lex
import Mathlib.Data.BitVec

/-!
# Surface.Net

Internet addresses as the standard library orders and prints them. An address is its bits in
network order, so the numeric order of the bits is the order of the octets.
-/

namespace Surface

inductive IpAddr where
  | v4 (bits : BitVec 32)
  | v6 (bits : BitVec 128)
deriving DecidableEq

namespace IpAddr

/-- Every IPv4 address comes before every IPv6 address; within a family the octets decide. -/
def rank : IpAddr → Nat ×ₗ Nat
  | v4 b => toLex (0, b.toNat)
  | v6 b => toLex (1, b.toNat)

theorem rank_injective : Function.Injective rank := by
  intro a b h
  cases a <;> cases b <;> simp [rank] at h ⊢
  · exact BitVec.eq_of_toNat_eq h
  · exact BitVec.eq_of_toNat_eq h

instance : LinearOrder IpAddr := LinearOrder.lift' rank rank_injective

def isIpv4 : IpAddr → Bool
  | v4 _ => true
  | v6 _ => false

def isIpv6 : IpAddr → Bool
  | v4 _ => false
  | v6 _ => true

/-- Octet `i` of an IPv4 address, counted from the most significant one. -/
def octet (b : BitVec 32) (i : Nat) : Nat := b.toNat / 2 ^ (8 * (3 - i)) % 256

def ofOctets (a b c d : Nat) : IpAddr :=
  .v4 (BitVec.ofNat 32 (((a * 256 + b) * 256 + c) * 256 + d))

def displayV4 (b : BitVec 32) : String :=
  ".".intercalate ((List.range 4).map fun i => toString (octet b i))

/-- Segment `i` of an IPv6 address, counted from the most significant one. -/
def segment (b : BitVec 128) (i : Nat) : Nat := b.toNat / 2 ^ (16 * (7 - i)) % 65536

def segments (b : BitVec 128) : List Nat := (List.range 8).map (segment b)

def hexSegment (n : Nat) : String := String.ofList (Nat.toDigits 16 n)

def joinSegments (l : List Nat) : String := ":".intercalate (l.map hexSegment)

/-- The first longest run of zero segments, as start and length. -/
def longestZeros (l : List Nat) : Nat × Nat :=
  let step := fun (acc : Nat × (Nat × Nat) × (Nat × Nat)) (seg : Nat) =>
    let (i, current, longest) := acc
    if seg = 0 then
      let current := if current.2 = 0 then (i, 1) else (current.1, current.2 + 1)
      (i + 1, current, if longest.2 < current.2 then current else longest)
    else (i + 1, (0, 0), longest)
  (l.foldl step (0, (0, 0), (0, 0))).2.2

def displayV6 (b : BitVec 128) : String :=
  -- `::ffff:a.b.c.d` for addresses that embed an IPv4 address
  if b.toNat / 2 ^ 32 = 0xffff then "::ffff:" ++ displayV4 (b.setWidth 32)
  else
    let segs := segments b
    let (start, len) := longestZeros segs
    if 1 < len then joinSegments (segs.take start) ++ "::" ++ joinSegments (segs.drop (start + len))
    else joinSegments segs

def display : IpAddr → String
  | v4 b => displayV4 b
  | v6 b => displayV6 b

example : display (ofOctets 192 0 2 1) = "192.0.2.1" := by decide

example : display (.v6 0x20010db8000000000000000000000001#128) = "2001:db8::1" := by decide

end IpAddr

/-- An address and a port. Flow labels and scope ids stay zero, as `SocketAddr::new` leaves them. -/
structure SocketAddr where
  ip : IpAddr
  port : Nat
deriving DecidableEq

namespace SocketAddr

def rank (a : SocketAddr) : IpAddr ×ₗ Nat := toLex (a.ip, a.port)

theorem rank_injective : Function.Injective rank := by
  rintro ⟨i, p⟩ ⟨i', p'⟩ h
  simpa [rank] using h

instance : LinearOrder SocketAddr := LinearOrder.lift' rank rank_injective

def display (a : SocketAddr) : String :=
  match a.ip with
  | .v4 b => IpAddr.displayV4 b ++ ":" ++ toString a.port
  | .v6 b => "[" ++ IpAddr.displayV6 b ++ "]:" ++ toString a.port

end SocketAddr

end Surface

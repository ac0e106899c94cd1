import Mathlib.Algebra.Ring.Nat
import Surface.Reader
import Surface.Text

/-!
# Surface.Ssh.Kexinit

The KEXINIT message: ten lists of algorithm names.

* `validAlgorithmName`, `validDomainName`: the names a list may hold.
* `ByteSlice`, `Cursor`: the payload and the position in it.
* `parseKexinit`: the parser; `appendNameList`: the encoder of one list.
-/

namespace Surface

abbrev ProtocolError := String

def maxNameListBytes : Nat := 8 * 1024
def maxAlgorithmNames : Nat := 128
def sshMsgKexinit : UInt8 := 20

/-! ## Names -/

def isAsciiAlphanumeric (byte : UInt8) : Bool :=
  decide (48 ≤ byte ∧ byte ≤ 57 ∨ 65 ≤ byte ∧ byte ≤ 90 ∨ 97 ≤ byte ∧ byte ≤ 122)

def validDomainName (domain : String) : Bool :=
  !domain.isEmpty && decide ((utf8Bytes domain).length ≤ 253) &&
    (splitText '.' domain).all fun label =>
      !label.isEmpty && decide ((utf8Bytes label).length ≤ 63) &&
        (utf8Bytes label).all (fun byte => isAsciiAlphanumeric byte || byte == 45) &&
        (utf8Bytes label).head?.any isAsciiAlphanumeric &&
        (utf8Bytes label).getLast?.any isAsciiAlphanumeric

/-- Printable ASCII without a comma, and at most one `@` with a domain name after it. -/
def validAlgorithmName (name : String) : Bool :=
  if name.isEmpty || decide ((utf8Bytes name).length > 64) ||
      !(utf8Bytes name).all (fun byte => decide (33 ≤ byte ∧ byte ≤ 126) && byte != 44) then false
  else
    match splitText '@' name with
    | [] => false
    | [localPart] => !localPart.isEmpty
    | [localPart, domain] => !localPart.isEmpty && validDomainName domain
    | _ => false

/-! ## Numbers -/

def u32ToBeBytes (n : Nat) : List UInt8 :=
  [UInt8.ofNat (n / 2 ^ 24), UInt8.ofNat (n / 2 ^ 16), UInt8.ofNat (n / 2 ^ 8), UInt8.ofNat n]

def u32FromBeBytes (a b c d : UInt8) : Nat :=
  ((a.toNat * 2 ^ 8 + b.toNat) * 2 ^ 8 + c.toNat) * 2 ^ 8 + d.toNat

/-! ## Parsing -/

/-- A slice is shorter than half of the address space. -/
@[ext] structure ByteSlice where
  bytes : List UInt8
  length_lt : bytes.length < 2 ^ 63

structure Cursor where
  bytes : List UInt8
  position : Nat
  length_lt : bytes.length < 2 ^ 63
  position_le : position ≤ bytes.length

structure KexInit where
  lists : List (List String)
deriving DecidableEq

namespace Cursor

def new (slice : ByteSlice) : Cursor := ⟨slice.bytes, 0, slice.length_lt, Nat.zero_le _⟩

abbrev Parse (α : Type) := Reader Cursor ProtocolError α

def remaining : Parse Nat :=
  ExceptT.mk fun cursor => (.ok (cursor.bytes.length - cursor.position), cursor)

def take (length : Nat) : Parse (List UInt8) :=
  ExceptT.mk fun cursor =>
    if cursor.position + length ≥ 2 ^ 64 then (.error "KEXINIT field length overflow", cursor)
    else if h : cursor.position + length ≤ cursor.bytes.length then
      (.ok ((cursor.bytes.drop cursor.position).take length),
        { cursor with position := cursor.position + length, position_le := h })
    else (.error "KEXINIT payload truncated", cursor)

def byte : Parse UInt8 := do
  let bytes ← take 1
  pure (bytes.headD 0)

def u32 : Parse Nat := do
  let bytes ← take 4
  match bytes with
  | [a, b, c, d] => pure (u32FromBeBytes a b c d)
  | _ => throw "KEXINIT uint32 truncated"

/-- The names in the text of a list. -/
def names (bytes : List UInt8) : Parse (List String) := do
  if bytes.isEmpty then
    return []
  match fromUtf8 bytes with
  | none => throw "KEXINIT name-list is not ASCII"
  | some text =>
    if (splitText ',' text).length > maxAlgorithmNames then
      throw "KEXINIT name-list exceeds 128 names"
    if (splitText ',' text).any fun name => !validAlgorithmName name then
      throw "KEXINIT contains an invalid algorithm name"
    return splitText ',' text

def nameList : Parse (List String) := do
  let length ← u32
  if length > maxNameListBytes then
    throw "KEXINIT name-list exceeds 8 KiB"
  let bytes ← take length
  names bytes

def kexinit : Parse KexInit := do
  let message ← byte
  if message ≠ sshMsgKexinit then
    throw "server packet is not KEXINIT"
  let _ ← take 16
  let lists ← times nameList 10
  let follows ← byte
  if ¬ (follows = 0 ∨ follows = 1) then
    throw "invalid KEXINIT boolean"
  let reserved ← u32
  if reserved ≠ 0 then
    throw "invalid KEXINIT reserved field"
  let remaining ← remaining
  if remaining ≠ 0 then
    throw "KEXINIT contains trailing payload bytes"
  return ⟨lists⟩

end Cursor

def parseKexinit (payload : ByteSlice) : Except ProtocolError KexInit :=
  (Cursor.kexinit.outcome (Cursor.new payload)).1

/-! ## Encoding -/

def joinNames (names : List String) : String := ",".intercalate names

/-- `none` is the panic for a text whose length does not fit in 32 bits. -/
def appendNameList (payload : List UInt8) (names : List String) : Option (List UInt8) :=
  let value := utf8Bytes (joinNames names)
  if value.length < 2 ^ 32 then some (payload ++ u32ToBeBytes value.length ++ value) else none

/-- A KEXINIT payload, as `client_kexinit_packet` builds it from its lists. -/
def kexinitPayload (cookie : List UInt8) (lists : List (List String)) (follows : UInt8) :
    Option (List UInt8) :=
  (lists.foldlM appendNameList (sshMsgKexinit :: cookie)).map (· ++ [follows, 0, 0, 0, 0])

end Surface

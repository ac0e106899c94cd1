import Surface.Ssh.Kexinit

/-!
# Surface.Ssh.Packet

The unencrypted packet around a KEXINIT payload.

* `ByteStream`: what the server sends, and how much of it has been read.
* `ReadFailure`: an error of the protocol, or a panic of an index, a slice or a subtraction.
* `serverPayload`, `readServerKexinit`: the reader; `framePacket`, `clientKexinitPacket`: the
  writer.
-/

namespace Surface

def maxTotalPacketBytes : Nat := 35000
def packetLengthFieldBytes : Nat := 4
def maxPacketLengthFieldValue : Nat := maxTotalPacketBytes - packetLengthFieldBytes

inductive ReadFailure where
  | protocol (error : ProtocolError)
  | panic

structure ByteStream where
  bytes : List UInt8
  position : Nat
  position_le : position ≤ bytes.length

namespace ByteStream

def new (bytes : List UInt8) : ByteStream := ⟨bytes, 0, Nat.zero_le _⟩

abbrev Receive (α : Type) := Reader ByteStream ReadFailure α

/-- A vector of zeros; a length that no allocation can have is a panic. -/
def allocate (length : Nat) : Receive ByteSlice :=
  if h : length < 2 ^ 63 then pure ⟨List.replicate length 0, by rwa [List.length_replicate]⟩
  else throw .panic

/-- `read_exact`: a stream that ends before the buffer is full has been read to its end. -/
def readExact (buffer : ByteSlice) (message : ProtocolError) : Receive ByteSlice :=
  ExceptT.mk fun stream =>
    if h : stream.position + buffer.bytes.length ≤ stream.bytes.length then
      (.ok ⟨(stream.bytes.drop stream.position).take buffer.bytes.length,
          Nat.lt_of_le_of_lt (List.length_take_le ..) buffer.length_lt⟩,
        { stream with
          position := stream.position + buffer.bytes.length
          position_le := h })
    else (.error (.protocol message),
      { stream with
        position := stream.bytes.length
        position_le := Nat.le_refl _ })

/-! ## Operations that can panic -/

def index (slice : ByteSlice) (i : Nat) : Receive UInt8 :=
  match slice.bytes[i]? with
  | some byte => pure byte
  | none => throw .panic

def subtract (a b : Nat) : Receive Nat :=
  if b ≤ a then pure (a - b) else throw .panic

def slice (slice : ByteSlice) (start stop : Nat) : Receive ByteSlice :=
  if start ≤ stop ∧ stop ≤ slice.bytes.length then
    pure ⟨(slice.bytes.take stop).drop start, by
      refine Nat.lt_of_le_of_lt ?_ slice.length_lt
      rw [List.length_drop, List.length_take]
      omega⟩
  else throw .panic

/-! ## Reading a packet -/

/-- The number in the four bytes of the length field. -/
def declaredLength (encoded : List UInt8) : Nat :=
  match encoded with
  | [a, b, c, d] => u32FromBeBytes a b c d
  | _ => 0

/-- The part of `read_server_kexinit` in front of the parser. -/
def serverPayload : Receive ByteSlice := do
  let encodedLength ← readExact ⟨List.replicate 4 0, by decide⟩ "server packet length truncated"
  let packetLength := declaredLength encodedLength.bytes
  if packetLength > maxPacketLengthFieldValue then
    throw (.protocol "server packet exceeds 35,000 bytes total")
  if packetLength < 12 ∨ (packetLength + 4) % 8 ≠ 0 then
    throw (.protocol "invalid server packet length")
  let buffer ← allocate packetLength
  let packet ← readExact buffer "server packet truncated"
  let paddingByte ← index packet 0
  let paddingLength := paddingByte.toNat
  if paddingLength < 4 then
    throw (.protocol "invalid server packet padding")
  let limit ← subtract packetLength 1
  if paddingLength ≥ limit then
    throw (.protocol "invalid server packet padding")
  let payloadEnd ← subtract packetLength paddingLength
  slice packet 1 payloadEnd

def readServerKexinit : Receive KexInit := do
  let payload ← serverPayload
  match parseKexinit payload with
  | .ok kexinit => pure kexinit
  | .error error => throw (.protocol error)

end ByteStream

/-! ## Writing a packet -/

structure Uuid where
  bytes : List UInt8
  length_eq : bytes.length = 16

def paddingLength (payloadLength : Nat) : Nat :=
  let padding := 8 - (4 + 1 + payloadLength) % 8
  if padding < 4 then padding + 8 else padding

/-- The packet around a payload; `none` is the panic of a conversion or a slice. -/
def framePacket (payload : List UInt8) (randomPadding : Uuid) : Option (List UInt8) :=
  let padding := paddingLength payload.length
  let packetLength := 1 + payload.length + padding
  if packetLength < 2 ^ 32 ∧ padding < 2 ^ 8 ∧ padding ≤ randomPadding.bytes.length then
    some (u32ToBeBytes packetLength ++ UInt8.ofNat padding :: payload ++
      randomPadding.bytes.take padding)
  else none

def kexAlgorithms : List String :=
  ["curve25519-sha256", "ecdh-sha2-nistp256", "diffie-hellman-group16-sha512",
    "diffie-hellman-group14-sha256", "diffie-hellman-group14-sha1", "diffie-hellman-group1-sha1"]

def hostKeyAlgorithms : List String :=
  ["ssh-ed25519", "ecdsa-sha2-nistp256", "rsa-sha2-512", "rsa-sha2-256", "ssh-rsa", "ssh-dss"]

def cipherAlgorithms : List String :=
  ["aes256-ctr", "aes128-ctr", "3des-cbc", "arcfour", "arcfour128", "arcfour256"]

def macAlgorithms : List String :=
  ["hmac-sha2-512", "hmac-sha2-256", "hmac-sha1", "hmac-md5", "hmac-md5-96"]

def compressionAlgorithms : List String := ["none"]

def clientLists : List (List String) :=
  [kexAlgorithms, hostKeyAlgorithms, cipherAlgorithms, cipherAlgorithms, macAlgorithms,
    macAlgorithms, compressionAlgorithms, compressionAlgorithms, [], []]

def clientKexinitPacket (cookie randomPadding : Uuid) : Option (List UInt8) := do
  let payload ← kexinitPayload cookie.bytes clientLists 0
  framePacket payload randomPadding

end Surface

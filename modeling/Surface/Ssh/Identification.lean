import Surface.Ssh.Packet

/-!
# Surface.Ssh.Identification

The identification of an SSH server, and the lines it may send before it.

* `Incoming`: what the server sends, byte by byte; it can go on for ever.
* `LineBuffer`: the filled part of the buffer, with the indices into it checked.
* `parseIdentification`: the parser of a complete line.
* `appendByte`, `endLine`, `readIdentification`: the reader.
-/

namespace Surface

def maxIdentificationBytes : Nat := 255
def maxPreBannerLines : Nat := 50
def maxPreBannerBytes : Nat := 4 * 1024

structure Identification where
  protocol : String
  software : String
deriving DecidableEq

def carriageReturn : UInt8 := 13
def lineFeed : UInt8 := 10

/-- The bytes of `SSH-`. -/
def sshPrefix : List UInt8 := [83, 83, 72, 45]

def isAsciiControl (byte : UInt8) : Bool := decide (byte < 32 ∨ byte = 127)

/-! ## The parser of a line -/

def sanitizeText (value : String) : String :=
  String.ofList ((value.toList.filter fun c => !isControl c).take maxIdentificationBytes)

/-- The line without its end, or the reason why it has none. -/
def stripLineEnd (line : List UInt8) : Option (List UInt8) :=
  if [carriageReturn, lineFeed].isSuffixOf line then some (line.take (line.length - 2)) else none

def parseIdentification (line : List UInt8) : Except ProtocolError Identification := do
  if line.length > maxIdentificationBytes then
    throw "server identification exceeds 255 bytes"
  let some content := stripLineEnd line
    | throw "server identification requires CRLF"
  if content.contains 0 then
    throw "server identification contains NUL"
  let some text := fromUtf8 content
    | throw "server identification is not valid ASCII"
  if !(utf8Bytes text).all (fun byte => decide (32 ≤ byte ∧ byte ≤ 126)) then
    throw "server identification contains invalid ASCII"
  if !hasStart "SSH-" text then
    throw "invalid server identification prefix"
  let some (protocol, softwareAndComment) := splitOnce '-' (text.toList.drop 4)
    | throw "invalid server identification fields"
  if ¬ (String.ofList protocol = "2.0" ∨ String.ofList protocol = "1.99") then
    throw "unsupported SSH protocol version"
  let (software, comment) :=
    match splitOnce ' ' softwareAndComment with
    | some (software, comment) => (String.ofList software, some (String.ofList comment))
    | none => (String.ofList softwareAndComment, none)
  if software.isEmpty ||
      !(utf8Bytes software).all (fun byte => decide (33 ≤ byte ∧ byte ≤ 126)) then
    throw "invalid SSH software version"
  let software :=
    match comment.filter fun comment => !comment.isEmpty with
    | some comment => software ++ " " ++ sanitizeText comment
    | none => software
  return ⟨String.ofList protocol, sanitizeText software⟩

/-! ## The buffer of a line -/

/-- What the server sends: the byte at each position, `none` where the connection ends or fails. -/
abbrev Incoming := Nat → Option UInt8

/-- The filled part of a buffer of 4097 bytes. -/
@[ext] structure LineBuffer where
  filled : List UInt8
  length_le : filled.length ≤ maxPreBannerBytes + 1

namespace LineBuffer

def empty : LineBuffer := ⟨[], Nat.zero_le _⟩

/-- A byte of the filled part; an index outside of it is a panic. -/
def get (line : LineBuffer) (i : Nat) : Except ReadFailure UInt8 :=
  match line.filled[i]? with
  | some byte => .ok byte
  | none => .error .panic

/-- A byte behind the filled part; an index outside of the buffer is a panic. -/
def put (line : LineBuffer) (byte : UInt8) : Except ReadFailure LineBuffer :=
  if h : line.filled.length < maxPreBannerBytes + 1 then
    .ok ⟨line.filled ++ [byte], by rw [List.length_append]; exact h⟩
  else .error .panic

def couldBeIdentification (line : LineBuffer) : Bool :=
  line.filled.isPrefixOf sshPrefix || sshPrefix.isPrefixOf line.filled

end LineBuffer

/-! ## The reader -/

structure BannerState where
  line : LineBuffer
  preBannerLines : Nat
  preBannerBytes : Nat

def BannerState.start : BannerState := ⟨.empty, 0, 0⟩

/-- The check of the byte behind a carriage return. -/
def checkReturn (line : LineBuffer) (byte : UInt8) : Except ReadFailure Unit := do
  if line.filled.length ≠ 0 then
    let last ← line.get (line.filled.length - 1)
    if last = carriageReturn ∧ byte ≠ lineFeed then
      throw (.protocol "SSH line contains bare carriage return")

/-- The body of the loop up to the byte that ends a line. -/
def appendByte (state : BannerState) (byte : UInt8) : Except ReadFailure LineBuffer := do
  if state.line.filled.length = maxPreBannerBytes + 1 then
    throw (.protocol "pre-banner byte limit exceeded")
  checkReturn state.line byte
  if byte ≠ carriageReturn ∧ byte ≠ lineFeed ∧ isAsciiControl byte then
    throw (.protocol "SSH line contains a control character")
  let line ← state.line.put byte
  if sshPrefix.isPrefixOf line.filled ∧ line.filled.length > maxIdentificationBytes then
    throw (.protocol "server identification exceeds 255 bytes")
  -- a saturating addition, compared with a bound far below the largest word
  if !line.couldBeIdentification ∧
      min (state.preBannerBytes + line.filled.length) (2 ^ 64 - 1) > maxPreBannerBytes then
    throw (.protocol "pre-banner byte limit exceeded")
  return line

inductive Progress where
  | more (state : BannerState)
  | done (identification : Identification)

/-- The body of the loop behind a line feed. -/
def endLine (state : BannerState) (line : LineBuffer) : Except ReadFailure Progress := do
  if line.filled.length < 2 then
    throw (.protocol "SSH line requires CRLF")
  let before ← line.get (line.filled.length - 2)
  if before ≠ carriageReturn then
    throw (.protocol "SSH line requires CRLF")
  if sshPrefix.isPrefixOf line.filled then
    match parseIdentification line.filled with
    | .ok identification => return .done identification
    | .error error => throw (.protocol error)
  if state.preBannerBytes + line.filled.length ≥ 2 ^ 64 then
    throw (.protocol "pre-banner byte limit exceeded")
  if state.preBannerLines + 1 > maxPreBannerLines then
    throw (.protocol "pre-banner line limit exceeded")
  if state.preBannerBytes + line.filled.length > maxPreBannerBytes then
    throw (.protocol "pre-banner byte limit exceeded")
  return .more ⟨.empty, state.preBannerLines + 1, state.preBannerBytes + line.filled.length⟩

def takeByte (state : BannerState) (byte : UInt8) : Except ReadFailure Progress := do
  let line ← appendByte state byte
  if byte ≠ lineFeed then
    return .more { state with line := line }
  endLine state line

/-- The loop, with a bound on its rounds; it returns what it found and how many bytes it took. -/
def readLines (incoming : Incoming) :
    Nat → Nat → BannerState → Option (Except ReadFailure Identification × Nat)
  | 0, _, _ => none
  | fuel + 1, position, state =>
    match incoming position with
    | none => some (.error (.protocol "server identification truncated"), position)
    | some byte =>
      match takeByte state byte with
      | .error failure => some (.error failure, position + 1)
      | .ok (.done identification) => some (.ok identification, position + 1)
      | .ok (.more next) => readLines incoming fuel (position + 1) next

def readIdentification (incoming : Incoming) (fuel : Nat) :
    Option (Except ReadFailure Identification × Nat) :=
  readLines incoming fuel 0 .start

end Surface

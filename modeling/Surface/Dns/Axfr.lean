import Surface.Dns.Message

/-!
# Surface.Dns.Axfr

One zone-transfer attempt over a framed TCP stream.

What the stream delivers is a list of `AxfrEvent`s, one for each time the code waits; a list that
ends stands for a stream on which nothing happens until the deadline. Names and questions are
compared with the equality of the DNS library, whatever it is.

* `SoaState.scan`: the state kept across records to find the opening and the closing SOA.
* `receive`: all checks on one message. `axfrLoop`: the loop over the messages. `drain`: the wait
  after the closing SOA.
* `checkAxfrEndpoint`: connecting, sending the request, and the loop.
-/

namespace Surface

/-- The record data the transfer looks at. -/
inductive AxfrData where
  | soa (serial : Nat)
  | other
deriving DecidableEq

section Types

variable (N Q : Type)

structure AxfrRecord where
  name : N
  data : AxfrData

structure DnsResponse where
  id : Nat
  opCode : OpCode
  responseCode : ResponseCode
  queries : List Q
  authoritative : Bool
  truncation : Bool
  answers : List (AxfrRecord N)

/-- What one wait on the stream ends with. A message has a length and may fail to decode. -/
inductive AxfrEvent where
  | message (bytes : Nat) (response : Option (DnsResponse N Q))
  | framingError
  | endOfStream
  | timedOut
  | cancelled

structure AxfrRequest where
  zone : N
  id : Nat
  queries : List Q

/-- One endpoint and everything the attempt meets there. -/
structure AxfrSession where
  server : String
  endpoint : SocketAddr
  request : AxfrRequest N Q
  connected : Awaited (Except Unit Unit)
  encoded : Bool
  sent : Bool
  /-- The request deadline is the deadline of the endpoint, not the request timeout. -/
  deadlineFirst : Bool
  events : List (AxfrEvent N Q)

end Types

/-! ## The SOA delimiters -/

structure SoaState where
  firstSerial : Option Nat := none
  soaCount : Nat := 0
  firstAnswerSeen : Bool := false
  closingSeen : Bool := false
deriving DecidableEq

section Transfer

variable {N Q : Type} [BEq N] [BEq Q]

def AxfrRecord.serial? (record : AxfrRecord N) : Option Nat :=
  match record.data with
  | .soa serial => some serial
  | .other => none

def SoaState.step (zone : N) (state : SoaState) (record : AxfrRecord N) : SoaState :=
  let state :=
    if state.firstAnswerSeen then state
    else
      { state with
        firstAnswerSeen := true
        firstSerial :=
          if record.name == zone then record.serial?.or state.firstSerial else state.firstSerial }
  match record.data with
  | .other => state
  | .soa serial =>
    let count := saturatingAdd state.soaCount 1
    { state with
      soaCount := count
      closingSeen :=
        state.closingSeen ||
          (decide (2 ≤ count) && record.name == zone && decide (state.firstSerial = some serial)) }

/-- The state after the answers of a message, `none` for a record behind the closing SOA. -/
def SoaState.scan (zone : N) : SoaState → List (AxfrRecord N) → Option SoaState
  | state, [] => some state
  | state, record :: rest =>
    if state.closingSeen then none else scan zone (state.step zone record) rest

/-! ## Messages -/

structure AxfrProgress where
  attempt : AxfrAttempt
  soa : SoaState := {}
  authoritative : Bool := true
  truncated : Bool := false
deriving DecidableEq

namespace AxfrAttempt

def fail (attempt : AxfrAttempt) (outcome : AxfrOutcome) (error : String) : AxfrAttempt :=
  { attempt with outcome := outcome, error := some error }

def incomplete (attempt : AxfrAttempt) (error : String) : AxfrAttempt :=
  attempt.fail .incomplete error

/-- The attempt with one more message counted. -/
def count (attempt : AxfrAttempt) (bytes records : Nat) : AxfrAttempt :=
  { attempt with
    messages := saturatingAdd attempt.messages 1
    bytes := saturatingAdd attempt.bytes bytes
    records := saturatingAdd attempt.records records }

/-- The first bound the counts exceed. -/
def exceeded (attempt : AxfrAttempt) : Option String :=
  if maxAxfrMessages < attempt.messages then
    some ("AXFR exceeded the " ++ toString maxAxfrMessages ++ "-message limit")
  else if maxAxfrBytes < attempt.bytes then
    some ("AXFR exceeded the " ++ toString maxAxfrBytes ++ "-byte limit")
  else if maxAxfrRecords < attempt.records then
    some ("AXFR exceeded the " ++ toString maxAxfrRecords ++ "-record limit")
  else none

end AxfrAttempt

/-- The question section repeats the request, or a later message of the transfer leaves it out. -/
def allowedQuestion (request : AxfrRequest N Q) (messages : Nat) (response : DnsResponse N Q) :
    Bool :=
  response.queries == request.queries ||
    !(decide (messages = 0) || decide (response.responseCode ≠ .noError) ||
      !response.queries.isEmpty)

/-- The header checks, made before anything is counted. -/
def headerError (request : AxfrRequest N Q) (attempt : AxfrAttempt) (response : DnsResponse N Q) :
    Option String :=
  if response.id ≠ request.id then some "AXFR response used an unexpected DNS message ID"
  else if response.opCode ≠ .query then some "AXFR response used an unexpected DNS opcode"
  else if !allowedQuestion request attempt.messages response then
    some "AXFR response did not contain an allowed AXFR question section"
  else none

/-- The end that a response code other than `NoError` means for the attempt. -/
def rejectCode (attempt : AxfrAttempt) : ResponseCode → Option AxfrAttempt
  | .noError => none
  | .refused => some { attempt with outcome := .refused }
  | .notAuth => some { attempt with outcome := .notAuthoritative }
  | code =>
    some (attempt.incomplete ("authoritative endpoint returned DNS response code " ++ code.text))

/-- Record the response code; it must not change within a transfer. -/
def recordCode (attempt : AxfrAttempt) (code : ResponseCode) : Except AxfrAttempt AxfrAttempt :=
  match attempt.responseCode with
  | none => .ok { attempt with responseCode := some code.text }
  | some text =>
    if text = code.text then .ok attempt
    else .error (attempt.incomplete "AXFR response code changed during the transfer")

/-- The answers of an accepted message. -/
def readAnswers (request : AxfrRequest N Q) (progress : AxfrProgress) (attempt : AxfrAttempt)
    (response : DnsResponse N Q) : Except AxfrAttempt AxfrProgress :=
  let authoritative := progress.authoritative && response.authoritative
  let truncated := progress.truncated || response.truncation
  match progress.soa.scan request.zone response.answers with
  | none => .error (attempt.incomplete "AXFR contained a record after the closing SOA")
  | some soa =>
    if soa.closingSeen && (!authoritative || truncated) then
      .error (attempt.incomplete
        "AXFR ended without a complete authoritative SOA-delimited transfer")
    else .ok ⟨attempt, soa, authoritative, truncated⟩

/-- One message: either the attempt ends, or the transfer goes on. -/
def receive (request : AxfrRequest N Q) (progress : AxfrProgress) (bytes : Nat) :
    Option (DnsResponse N Q) → Except AxfrAttempt AxfrProgress
  | none =>
    .error (progress.attempt.incomplete "AXFR response framing was invalid or incomplete")
  | some response =>
    match headerError request progress.attempt response with
    | some error => .error (progress.attempt.incomplete error)
    | none =>
      let counted := progress.attempt.count bytes response.answers.length
      match counted.exceeded with
      | some error => .error (progress.attempt.fail .limitExceeded error)
      | none =>
        match recordCode counted response.responseCode with
        | .error attempt => .error attempt
        | .ok attempt =>
          match rejectCode attempt response.responseCode with
          | some attempt => .error attempt
          | none => readAnswers request progress attempt response

/-- After the closing SOA the stream must stay silent. -/
def drain (attempt : AxfrAttempt) : List (AxfrEvent N Q) → AxfrAttempt
  | .cancelled :: _ => attempt.fail .cancelled "AXFR endpoint attempt was cancelled"
  | .message _ _ :: _ => attempt.incomplete "AXFR contained a message after the closing SOA"
  | .framingError :: _ => attempt.incomplete "AXFR response framing was invalid or incomplete"
  | .endOfStream :: _ | .timedOut :: _ | [] => { attempt with outcome := .allowed }

def AxfrProgress.ended (progress : AxfrProgress) : AxfrAttempt :=
  if decide (0 < progress.attempt.messages) && progress.soa.closingSeen &&
      progress.authoritative && !progress.truncated then
    { progress.attempt with outcome := .allowed }
  else
    progress.attempt.incomplete
      "AXFR ended without a complete authoritative SOA-delimited transfer"

def timeoutAttempt (deadlineFirst : Bool) (attempt : AxfrAttempt) : AxfrAttempt :=
  attempt.fail .timeout
    (if deadlineFirst then "AXFR endpoint deadline expired" else "AXFR request timed out")

def axfrLoop (request : AxfrRequest N Q) (deadlineFirst : Bool) :
    AxfrProgress → List (AxfrEvent N Q) → AxfrAttempt
  | progress, [] => timeoutAttempt deadlineFirst progress.attempt
  | progress, .cancelled :: _ =>
    progress.attempt.fail .cancelled "AXFR endpoint attempt was cancelled"
  | progress, .timedOut :: _ => timeoutAttempt deadlineFirst progress.attempt
  | progress, .framingError :: _ =>
    progress.attempt.incomplete "AXFR response framing was invalid or incomplete"
  | progress, .endOfStream :: _ => progress.ended
  | progress, .message bytes response :: rest =>
    if progress.soa.closingSeen then
      progress.attempt.incomplete "AXFR contained a message after the closing SOA"
    else
      match receive request progress bytes response with
      | .error attempt => attempt
      | .ok progress =>
        if progress.soa.closingSeen then drain progress.attempt rest
        else axfrLoop request deadlineFirst progress rest

def AxfrSession.newAttempt (session : AxfrSession N Q) : AxfrAttempt where
  server := session.server
  endpoint := session.endpoint
  outcome := .unreachable
  responseCode := none
  messages := 0
  records := 0
  bytes := 0
  error := none

def checkAxfrEndpoint (session : AxfrSession N Q) : AxfrAttempt :=
  let attempt := session.newAttempt
  match session.connected with
  | .cancelled => attempt.fail .cancelled "AXFR endpoint attempt was cancelled"
  | .timedOut =>
    attempt.fail .timeout "AXFR endpoint deadline expired during TCP connection"
  | .ready (.error _) =>
    { attempt with error := some "TCP connection to authoritative endpoint failed" }
  | .ready (.ok _) =>
    if session.encoded = false then attempt.incomplete "AXFR request could not be encoded"
    else if session.sent = false then
      { attempt with error := some "AXFR request could not be sent" }
    else axfrLoop session.request session.deadlineFirst { attempt := attempt } session.events

end Transfer

end Surface

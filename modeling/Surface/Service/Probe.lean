import Surface.Service.Detect
import Surface.Text
import Surface.Utf8

/-!
# Surface.Service.Probe

The probe of one TCP endpoint.

* `ProbeMeeting`: what the server sends and how the reads cut it.
* `sanitizeBanner`, `classifyBanner`, `smtpDetails`: what is made of the bytes.
* `probeInner`, `probe`: the probe and its observation.
-/

namespace Surface

def maxBannerBytes : Nat := 1024

/-! ## Behaviors -/

inductive ProbeBehavior where
  | http
  | request (payload : String)
  | smtpEhlo
  | readOnly
  | tlsOnly
deriving DecidableEq

def probeBehavior (port : Nat) : ProbeBehavior :=
  if port ∈ [25, 587] then .smtpEhlo
  else if port ∈ [80, 8000, 8080, 8888] then .http
  else if port = 110 then .request "CAPA\r\n"
  else if port = 143 then .request "a001 CAPABILITY\r\n"
  else if port = 6379 then .request "*1\r\n$4\r\nPING\r\n"
  else if port ∈ [443, 465, 993, 995, 8443] then .tlsOnly
  else .readOnly

def headRequest (hostname : String) : String :=
  "HEAD / HTTP/1.1\r\nHost: " ++ hostname ++ "\r\nConnection: close\r\n" ++
    "User-Agent: Surface/0.1 (+authorized-security-assessment)\r\n\r\n"

def ehloCommand (hostname : String) : String := "EHLO " ++ hostname ++ "\r\n"

/-! ## Banners -/

/-- Controls become spaces. -/
def sanitizeBanner (bytes : List UInt8) : String :=
  String.ofList (trimSpaces
    (((decodeLossy bytes).map fun c => if isControl c then ' ' else c).take maxBannerBytes))

def classifyBanner (banner : String) (port : Nat) : ServiceKind × DetectionConfidence :=
  let uppercase := banner.toUpper
  if hasStart "SSH-" banner then (.ssh, .high)
  else if hasStart "HTTP/" uppercase then (.http, .high)
  else if port ∈ [25, 587] ∧ hasStart "220 " uppercase then (.smtp, .high)
  else if port = 21 ∧ hasStart "220 " uppercase then (.ftp, .high)
  else if port = 110 ∧ hasText "+OK" uppercase then (.pop3, .high)
  else if port = 143 ∧ hasText "CAPABILITY" uppercase then (.imap, .high)
  else if port = 6379 ∧ hasText "+PONG" uppercase then (.redis, .high)
  else if port = 3306 ∧ banner ≠ "" then (.mysql, .medium)
  else if port ∈ [25, 587] then (.smtp, .low)
  else (hintedService .tcp port, .low)

def smtpDetails (banner : String) : OrdMap String String :=
  ["STARTTLS", "AUTH", "SIZE"].foldl (fun details capability =>
    if hasText capability banner.toUpper then details.insert capability.toLower "advertised"
    else details) .empty

/-! ## The probe -/

/-- What a probe meets. The server sends `stream`; `first` and `second` say how far the reads go,
`none` for a read that fails or does not end in time. -/
structure ProbeMeeting where
  cancelled : Bool
  connected : Bool
  writes : String → Bool
  stream : List UInt8
  first : Option Nat
  second : Option Nat

/-- A read returns what there is room for, and nothing only at the end of the stream. -/
def readSome (stream : List UInt8) (room count : Nat) : List UInt8 :=
  stream.take (min (count + 1) room)

namespace ProbeMeeting

variable (meeting : ProbeMeeting)

def readBanner : Option (List UInt8) :=
  meeting.first.map fun count => readSome meeting.stream maxBannerBytes count

/-- The bytes of the greeting and of the reply to the command, each from one read. -/
def exchangeEhlo (hostname : String) : Option (List UInt8) :=
  match meeting.readBanner with
  | none => none
  | some greeting =>
    if greeting.length < maxBannerBytes then
      if meeting.writes (ehloCommand hostname) then
        meeting.second.map fun count => greeting ++
          readSome (meeting.stream.drop greeting.length) (maxBannerBytes - greeting.length) count
      else none
    else some greeting

def bannerBytes (hostname : String) : ProbeBehavior → Option (List UInt8)
  | .http => if meeting.writes (headRequest hostname) then meeting.readBanner else none
  | .request payload => if meeting.writes payload then meeting.readBanner else none
  | .smtpEhlo => meeting.exchangeEhlo hostname
  | .readOnly | .tlsOnly => meeting.readBanner

end ProbeMeeting

def bannerObservation (address : SocketAddr) (banner : String) : ServiceObservation :=
  let (service, confidence) := classifyBanner banner address.port
  { transport := .tcp
    address := address
    service := service
    confidence := confidence
    banner := if banner = "" then none else some banner
    protocolDetails := if service = .smtp then smtpDetails banner else .empty
    ssh := none }

def probeInner (address : SocketAddr) (hostname : String) (meeting : ProbeMeeting) :
    Option ServiceObservation :=
  if meeting.connected then
    (meeting.bannerBytes hostname (probeBehavior address.port)).map fun bytes =>
      bannerObservation address (sanitizeBanner bytes)
  else none

/-- A probe that comes to nothing leaves the hint of its port. -/
def probe (address : SocketAddr) (hostname : String) (meeting : ProbeMeeting) :
    Option ServiceObservation :=
  if meeting.cancelled then none
  else some ((probeInner address hostname meeting).getD (hintObservation address))

end Surface

import Surface.Dns.Axfr
import Surface.Ordered

/-!
# Surface.Dns.AxfrCheck

Zone transfers tried at the observed nameservers of a zone.

* `evidencedNameservers`: the nameservers of the zone, in order and at most four.
* `addAxfrEndpoints`, `resolveNameservers`: the endpoints they resolve to, each with the nameserver
  it was first seen for.
* `attemptEndpoints`: the attempts, in the order of the endpoints.
* `analyzeAuthoritativeAxfr`: the check.
-/

namespace Surface

/-- `owned` picks the records whose owner is the zone. -/
def evidencedNameservers (platform : Platform) (owned : Record → Bool) (records : List Record) :
    List String :=
  (OrdSet.ofList ((records.filter owned).filterMap fun record =>
    match record.data with
    | .ns nameserver => some (trimName platform nameserver)
    | _ => none)).toList.take maxAxfrNameservers

/-! ## Endpoints -/

abbrev AxfrEndpoints := OrdMap SocketAddr String

def addEndpoints (nameserver : String) : List IpAddr → AxfrEndpoints → AxfrEndpoints
  | [], endpoints => endpoints
  | ip :: ips, endpoints =>
    if endpoints.size ≥ maxAxfrEndpoints then endpoints
    else
      addEndpoints nameserver ips
        (if (endpoints.get ⟨ip, 53⟩).isSome then endpoints
        else endpoints.insert ⟨ip, 53⟩ nameserver)

/-- The addresses of a nameserver that are tried. -/
def axfrAddresses (addresses : List IpAddr) : List IpAddr :=
  (OrdSet.ofList addresses).toList.take maxAxfrIpsPerNameserver

def addAxfrEndpoints (endpoints : AxfrEndpoints) (nameserver : String) (addresses : List IpAddr) :
    AxfrEndpoints :=
  addEndpoints nameserver (axfrAddresses addresses) endpoints

/-- What the lookup of a nameserver ends with, and whether the deadline has passed after it. -/
structure NameserverLookup where
  result : Awaited (Except NetError (List IpAddr))
  expired : Bool

/-- A nameserver that cannot be resolved is passed over. -/
def resolveNameservers (lookup : String → NameserverLookup) :
    List String → AxfrEndpoints → Except AxfrCheckState AxfrEndpoints
  | [], endpoints => .ok endpoints
  | nameserver :: nameservers, endpoints =>
    match (lookup nameserver).result with
    | .cancelled => .error .cancelled
    | .ready (.ok addresses) =>
      resolveNameservers lookup nameservers (addAxfrEndpoints endpoints nameserver addresses)
    | .ready (.error _) | .timedOut =>
      if (lookup nameserver).expired then .error .timedOut
      else resolveNameservers lookup nameservers endpoints

/-! ## The check -/

section Check

variable {N Q : Type} [BEq N] [BEq Q]

/-- What the check meets. The nameservers are different names, so that each is looked up once;
`session` is what the attempt at an endpoint meets, `expired` what the deadline is after it. -/
structure AxfrMeeting (N Q : Type) where
  before : Reading
  built : Bool
  lookup : String → NameserverLookup
  session : SocketAddr → AxfrSession N Q
  expired : SocketAddr → Bool

def AxfrMeeting.attempt (meeting : AxfrMeeting N Q) (server : String) (endpoint : SocketAddr) :
    AxfrAttempt :=
  checkAxfrEndpoint { meeting.session endpoint with server, endpoint }

def attemptEndpoints (meeting : AxfrMeeting N Q) :
    List (SocketAddr × String) → List AxfrAttempt × AxfrCheckState
  | [] => ([], .completed)
  | (endpoint, server) :: endpoints =>
    let attempt := meeting.attempt server endpoint
    if attempt.outcome = .cancelled then ([attempt], .cancelled)
    else if meeting.expired endpoint then ([attempt], .timedOut)
    else
      let (attempts, state) := attemptEndpoints meeting endpoints
      (attempt :: attempts, state)

def unresolvedNameservers : String :=
  "authoritative NS endpoints could not be resolved from observed NS hostnames"

def analyzeAuthoritativeAxfr (platform : Platform) (evidence : AuthoritativeEvidence)
    (meeting : AxfrMeeting N Q) : AxfrCheck :=
  if meeting.before.cancelled then ⟨none, .cancelled⟩
  else if meeting.before.expired then ⟨none, .timedOut⟩
  else
    let nameservers := evidence.nameservers.take maxAxfrNameservers
    if !meeting.built then ⟨none, .skipped unresolvedNameservers⟩
    else
      match resolveNameservers meeting.lookup nameservers .empty with
      | .error state => ⟨none, state⟩
      | .ok endpoints =>
        if endpoints.size = 0 then ⟨none, .skipped unresolvedNameservers⟩
        else
          let (attempts, state) :=
            attemptEndpoints meeting (endpoints.entries.take maxAxfrEndpoints)
          ⟨some { zone := trimName platform evidence.zone, nameservers, attempts }, state⟩

end Check

end Surface

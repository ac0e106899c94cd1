import Surface.Dns.Message
import Surface.Net
import Surface.Ordered

/-!
# Surface.Dns.Wildcard

Wildcard detection: two random child names are looked up, and the answers of the two probes are
compared.

What the lookups of a probe meet is a `WildcardMeeting` for each record type.

* `appendWildcardAnswers`: collect the fingerprints of an answer section within the bounds.
* `wildcardLookup`: one lookup, with its effect on the flags of its probe.
* `analyzeWildcardDnsWithResolver`: both probes, and the observation made of them.
-/

namespace Surface

namespace WildcardDnsRecordType

def rank : WildcardDnsRecordType → Nat
  | a => 0
  | aaaa => 1
  | cname => 2

theorem rank_injective : Function.Injective rank := by
  intro s t h
  cases s <;> cases t <;> simp [rank] at h ⊢

instance : LinearOrder WildcardDnsRecordType := LinearOrder.lift' rank rank_injective

end WildcardDnsRecordType

structure WildcardProbeResult where
  fingerprints : OrdSet String := .empty
  answerTypes : OrdSet WildcardDnsRecordType := .empty
  allNegative : Bool := true
  conclusive : Bool := true
  limited : Bool := false
deriving DecidableEq

def pushWildcardMessage (messages : List String) (message : String) : List String :=
  if messages.length < maxSpecialTxtRecords then messages ++ [capped message] else messages

/-! ## Answers -/

section Answers

variable (platform : Platform)

/-- The type and the normalised text of a supported answer record. -/
def wildcardAnswer (record : Record) : Option (WildcardDnsRecordType × String) :=
  match record.data with
  | .a address => some (.a, "A:" ++ IpAddr.displayV4 address)
  | .aaaa address => some (.aaaa, "AAAA:" ++ IpAddr.displayV6 address)
  | .cname name => some (.cname, "CNAME:" ++ (trimName platform name).toLower)
  | _ => none

def appendAnswers : List Record → Nat → WildcardProbeResult → WildcardProbeResult
  | [], _, probe => probe
  | record :: rest, retainedBytes, probe =>
    match wildcardAnswer platform record with
    | none => appendAnswers rest retainedBytes probe
    | some (recordType, normalized) =>
      if normalized ∈ probe.fingerprints then appendAnswers rest retainedBytes probe
      else if maxDnsRecords ≤ probe.fingerprints.size ∨
          maxTxtBytes < saturatingAdd retainedBytes normalized.utf8ByteSize then
        { probe with limited := true, conclusive := false }
      else
        appendAnswers rest (saturatingAdd retainedBytes normalized.utf8ByteSize)
          { probe with
            answerTypes := probe.answerTypes.insert recordType
            fingerprints := probe.fingerprints.insert normalized }

def appendWildcardAnswers (records : List Record) (probe : WildcardProbeResult) :
    WildcardProbeResult :=
  appendAnswers platform records (probe.fingerprints.weight String.utf8ByteSize) probe

end Answers

def Proof.validated (proof : Proof) : Bool := proof = .secure || proof = .insecure

def authenticatedNegativeAuthorities (records : List Record) : Bool :=
  let relevant := records.filter fun record =>
    record.data.recordType ∈ [RecordType.soa, .nsec, .nsec3]
  !relevant.isEmpty && relevant.all fun record => record.proof.validated

def wildcardNegativeResponse : NetError → Bool
  | .noRecordsFound responseCode authorities =>
    (responseCode = .nxDomain || responseCode = .noError) &&
      authorities.any authenticatedNegativeAuthorities
  | .nsec responseCode proof authorities =>
    (responseCode = .nxDomain || responseCode = .noError) && proof.validated &&
      authenticatedNegativeAuthorities authorities
  | _ => false

def wildcardErrorSummary : NetError → String
  | .responseCode .servFail => "returned SERVFAIL"
  | .noRecordsFound _ _ | .nsec _ _ _ => "returned an unauthenticated negative answer"
  | .timeout => "reached the resolver timeout"
  | .transport | .noConnections => "failed at the DNS transport layer"
  | _ => "failed without a conclusive answer"

/-! ## Lookups -/

/-- What one lookup meets: the look at token and deadline before it, whether the deadline of the
check comes before that of the request, and what awaiting the answer ends with. -/
structure WildcardMeeting where
  before : Reading
  deadlineFirst : Bool
  answer : Awaited (Except NetError (List Record))

structure WildcardProgress where
  probe : WildcardProbeResult := {}
  errors : List String := []
deriving DecidableEq

namespace WildcardProgress

def inconclusive (progress : WildcardProgress) : WildcardProgress :=
  { progress with probe := { progress.probe with conclusive := false } }

/-- The lookup brought neither an answer nor a denial. -/
def fail (progress : WildcardProgress) (message : String) : WildcardProgress where
  probe := { progress.probe with conclusive := false, allNegative := false }
  errors := pushWildcardMessage progress.errors message

end WildcardProgress

section Lookups

variable (platform : Platform)

def wildcardLookup (probeIndex : Nat) (recordType : RecordType) (meeting : WildcardMeeting)
    (progress : WildcardProgress) :
    Except (WildcardDnsCheckState × WildcardProgress) WildcardProgress :=
  let failed := fun reason : String =>
    progress.fail ("Probe " ++ toString (probeIndex + 1) ++ " " ++ recordType.display ++
      " lookup " ++ reason ++ ".")
  if meeting.before.cancelled then .error (.cancelled, progress.inconclusive)
  else if meeting.before.expired then .error (.timedOut, progress.inconclusive)
  else
    match meeting.answer with
    | .cancelled => .error (.cancelled, progress.inconclusive)
    | .timedOut =>
      if meeting.deadlineFirst then .error (.timedOut, progress.inconclusive)
      else .ok (failed "reached the request timeout")
    | .ready (.ok records) =>
      let probe := appendWildcardAnswers platform records progress.probe
      if probe.fingerprints.size = progress.probe.fingerprints.size then
        .ok { failed "returned no supported answer records" with
          probe := { probe with conclusive := false, allNegative := false } }
      else .ok { progress with probe := { probe with allNegative := false } }
    | .ready (.error error) =>
      if wildcardNegativeResponse error then .ok progress
      else .ok (failed (wildcardErrorSummary error))

def wildcardLookups (probeIndex : Nat) (lookup : RecordType → WildcardMeeting) :
    List RecordType → WildcardProgress →
      Except (WildcardDnsCheckState × WildcardProgress) WildcardProgress
  | [], progress => .ok progress
  | recordType :: rest, progress =>
    match wildcardLookup platform probeIndex recordType (lookup recordType) progress with
    | .error stopped => .error stopped
    | .ok progress => wildcardLookups probeIndex lookup rest progress

end Lookups

/-! ## The observation -/

def wildcardStatus : List WildcardProbeResult → WildcardDnsStatus
  | [first, second] =>
    if [first, second].all fun probe => probe.conclusive && !probe.limited then
      if [first, second].all WildcardProbeResult.allNegative then .notDetected
      else if !first.fingerprints.isEmpty && decide (first.fingerprints = second.fingerprints) then
        .detected
      else .indeterminate
    else .indeterminate
  | _ => .indeterminate

def wildcardBound : String :=
  toString maxDnsRecords ++ "-record or " ++ toString maxTxtBytes ++ "-byte DNS bound."

/-- The leading fingerprints that stay within the byte bound. -/
def takeRetained : Nat → List String → List String
  | _, [] => []
  | retainedBytes, fingerprint :: rest =>
    let nextBytes := saturatingAdd retainedBytes fingerprint.utf8ByteSize
    if maxTxtBytes < nextBytes then [] else fingerprint :: takeRetained nextBytes rest

def finishWildcardObservation (platform : Platform) (observation : WildcardDnsObservation)
    (probes : List WildcardProbeResult) : WildcardDnsObservation :=
  let status := wildcardStatus probes
  let answerTypes := OrdSet.ofList (probes.flatMap fun probe => probe.answerTypes.toList)
  let raw := OrdSet.ofList (probes.flatMap fun probe => probe.fingerprints.toList)
  let hashed := OrdSet.ofList (raw.toList.map fun value => "sha256:" ++ platform.sha256Hex value)
  let kept := takeRetained 0 (hashed.toList.take maxDnsRecords)
  let limitations := observation.limitations
  let limitations :=
    if probes.any WildcardProbeResult.limited then
      pushWildcardMessage limitations ("Wildcard answers exceeded the " ++ wildcardBound)
    else limitations
  let limitations :=
    if status = .indeterminate then
      pushWildcardMessage limitations
        "Mixed, rotating, incomplete, or errored probe answers are not classified as wildcard DNS."
    else limitations
  let limitations :=
    if kept.length < hashed.size then
      pushWildcardMessage limitations
        ("Wildcard fingerprint summary was truncated at the " ++ wildcardBound)
    else limitations
  { observation with
    status := status
    answerTypes := answerTypes.toList
    answerFingerprints := kept
    errors := observation.errors.take maxSpecialTxtRecords
    limitations := limitations.take maxSpecialTxtRecords }

/-- What one probe meets: the look at token and deadline before it, and its lookups. -/
structure WildcardProbe where
  entry : Reading
  lookup : RecordType → WildcardMeeting

def wildcardQueryTypes (ipv4Only ipv6Only : Bool) : List RecordType :=
  match ipv4Only, ipv6Only with
  | true, false => [.a, .cname]
  | false, true => [.aaaa, .cname]
  | false, false => [.a, .aaaa, .cname]
  | true, true => [.cname]

section Analysis

variable (platform : Platform)

def wildcardProbes (queryTypes : List RecordType) :
    List WildcardProbe → WildcardDnsObservation → List WildcardProbeResult → WildcardDnsCheck
  | [], observation, probes => ⟨finishWildcardObservation platform observation probes, .completed⟩
  | probe :: rest, observation, probes =>
    if probe.entry.cancelled then
      ⟨finishWildcardObservation platform observation probes, .cancelled⟩
    else if probe.entry.expired then
      ⟨finishWildcardObservation platform observation probes, .timedOut⟩
    else
      let attempted := min (observation.probesAttempted + 1) 255
      match wildcardLookups platform probes.length probe.lookup queryTypes
          { errors := observation.errors } with
      | .error (state, progress) =>
        ⟨finishWildcardObservation platform
          { observation with probesAttempted := attempted, errors := progress.errors }
          (probes ++ [progress.probe]), state⟩
      | .ok progress =>
        wildcardProbes queryTypes rest
          { observation with probesAttempted := attempted, errors := progress.errors }
          (probes ++ [progress.probe])

def analyzeWildcardDnsWithResolver (ipv4Only ipv6Only : Bool) (first second : WildcardProbe) :
    WildcardDnsCheck :=
  wildcardProbes platform (wildcardQueryTypes ipv4Only ipv6Only) [first, second]
    { limitations := [
        "Detection uses exactly two random UUID-v4 child names and selected A/AAAA plus CNAME " ++
          "lookups.",
        "Random probe answers were not scanned or used as downstream targets."] } []

end Analysis

end Surface

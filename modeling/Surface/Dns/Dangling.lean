import Surface.Dns.Baseline
import Surface.Dns.Wildcard

/-!
# Surface.Dns.Dangling

The look at the destinations of the alias chain.

* `danglingCnameLookup`: one lookup, with its messages.
* `checkTargets`: the destinations one after the other. A destination that was classified before
  is not asked for again, and a lookup that stops the check marks all hops from there on.
* `analyzeDanglingCnames`: the whole check. It keeps the queries it sends.
-/

namespace Surface

def maxDanglingCnameMessages : Nat := 8
def maxDanglingCnameMessageChars : Nat := 256

def pushDanglingMessage (messages : List String) (message : String) : List String :=
  if messages.length ≥ maxDanglingCnameMessages then messages
  else
    let message := String.ofList (message.toList.take maxDanglingCnameMessageChars)
    if message ∈ messages then messages else messages ++ [message]

namespace DanglingCnameObservation

def addEvidence (observation : DanglingCnameObservation) (message : String) :
    DanglingCnameObservation :=
  { observation with evidence := pushDanglingMessage observation.evidence message }

def addError (observation : DanglingCnameObservation) (message : String) :
    DanglingCnameObservation :=
  { observation with errors := pushDanglingMessage observation.errors message }

def addLimitation (observation : DanglingCnameObservation) (message : String) :
    DanglingCnameObservation :=
  { observation with limitations := pushDanglingMessage observation.limitations message }

/-- The result of another hop with the same destination. -/
def copyResult (observation classified : DanglingCnameObservation) : DanglingCnameObservation :=
  { observation with
    status := classified.status
    evidence := classified.evidence
    errors := classified.errors
    limitations := classified.limitations }

end DanglingCnameObservation

/-! ## One lookup -/

inductive DanglingQueryOutcome where
  | address
  | nxDomain
  | noAddress
  | indeterminate
deriving DecidableEq

def danglingNegativeOutcome (error : NetError) : Option DanglingQueryOutcome :=
  let responseCode := match error with
    | .noRecordsFound responseCode authorities =>
      if authorities.any authenticatedNegativeAuthorities then some responseCode else none
    | .nsec responseCode proof authorities =>
      if proof.validated && authenticatedNegativeAuthorities authorities then some responseCode
      else none
    | _ => none
  match responseCode with
  | some .nxDomain => some .nxDomain
  | some .noError => some .noAddress
  | _ => none

def isSelectedAddress (recordType : RecordType) (record : Record) : Bool :=
  match recordType, record.data with
  | .a, .a _ => true
  | .aaaa, .aaaa _ => true
  | _, _ => false

def negativeDescription : DanglingQueryOutcome → String
  | .nxDomain => "conclusive authenticated NXDOMAIN"
  | .noAddress => "authenticated NOERROR/NODATA with SOA/NSEC/NSEC3 evidence"
  | .address | .indeterminate => "an indeterminate negative answer"

/-- The outcome of a lookup or the state that stops the check, and the observation with its
messages. -/
def danglingCnameLookup (recordType : RecordType) (meeting : WildcardMeeting)
    (observation : DanglingCnameObservation) :
    Except DanglingCnameCheckState DanglingQueryOutcome × DanglingCnameObservation :=
  if meeting.before.cancelled then (.error .cancelled, observation)
  else if meeting.before.expired then (.error .timedOut, observation)
  else
    match meeting.answer with
    | .cancelled => (.error .cancelled, observation)
    | .timedOut =>
      if meeting.deadlineFirst then (.error .timedOut, observation)
      else (.ok .indeterminate,
        observation.addError (recordType.display ++ " lookup reached the request timeout."))
    | .ready (.ok records) =>
      if records.any (isSelectedAddress recordType) then
        (.ok .address,
          observation.addEvidence (recordType.display ++ " returned an address answer."))
      else (.ok .indeterminate, observation.addError (recordType.display ++
        " returned no selected address or authenticated negative evidence."))
    | .ready (.error error) =>
      match danglingNegativeOutcome error with
      | some outcome =>
        (.ok outcome, observation.addEvidence
          (recordType.display ++ " returned " ++ negativeDescription outcome ++ "."))
      | none => (.ok .indeterminate, observation.addError
        (recordType.display ++ " lookup " ++ wildcardErrorSummary error ++ "."))

def classifyDanglingOutcomes (outcomes : List DanglingQueryOutcome) : DanglingCnameStatus :=
  if .address ∈ outcomes then .resolved
  else if !outcomes.isEmpty && outcomes.all (· = .nxDomain) then .nxDomain
  else if !outcomes.isEmpty && outcomes.all (· = .noAddress) then .noAddress
  else .indeterminate

/-! ## One destination -/

/-- A query that reached the resolver, and what awaiting it ended with. -/
structure DanglingQuery where
  target : String
  recordType : RecordType
  answer : Awaited (Except NetError (List Record))

/-- The query of a lookup, unless it was stopped before. -/
def sentQuery (target : String) (recordType : RecordType) (meeting : WildcardMeeting) :
    List DanglingQuery :=
  if meeting.before.stops then [] else [⟨target, recordType, meeting.answer⟩]

structure DanglingLookups where
  result : Except DanglingCnameCheckState (List DanglingQueryOutcome)
  observation : DanglingCnameObservation
  queries : List DanglingQuery

/-- The lookups for one hop, up to one that stops the check. -/
def danglingLookups (lookup : RecordType → WildcardMeeting) :
    List RecordType → DanglingCnameObservation → DanglingLookups
  | [], observation => ⟨.ok [], observation, []⟩
  | recordType :: recordTypes, observation =>
    let query := sentQuery observation.canonicalTarget recordType (lookup recordType)
    match danglingCnameLookup recordType (lookup recordType) observation with
    | (.error state, observation) => ⟨.error state, observation, query⟩
    | (.ok outcome, observation) =>
      let rest := danglingLookups lookup recordTypes observation
      ⟨rest.result.map (outcome :: ·), rest.observation, query ++ rest.queries⟩

/-! ## The check -/

def stopMessage : DanglingCnameCheckState → String
  | .cancelled => "CNAME destination checking was cancelled."
  | .timedOut => "The caller deadline expired during CNAME destination checking."
  | .completed => "CNAME destination checking stopped before completion."

structure DanglingRun where
  observations : List DanglingCnameObservation := []
  classifiedTargets : OrdMap String Nat := .empty
  queries : List DanglingQuery := []

/-- `lookup` is what the lookups for a hop meet. -/
def checkTargets (queryTypes : List RecordType) (lookup : Nat → RecordType → WildcardMeeting) :
    List DanglingCnameObservation → DanglingRun → DanglingCnameCheck × List DanglingQuery
  | [], run => (⟨run.observations, .completed⟩, run.queries)
  | observation :: rest, run =>
    let normalizedTarget := observation.canonicalTarget.toLower
    match run.classifiedTargets.get normalizedTarget with
    | some classifiedIndex =>
      let classified := run.observations.getD classifiedIndex observation
      checkTargets queryTypes lookup rest
        { run with observations := run.observations ++ [observation.copyResult classified] }
    | none =>
      if run.classifiedTargets.size ≥ maxCnameChainHops then
        checkTargets queryTypes lookup rest
          { run with
            observations := run.observations ++
              [observation.addLimitation ("CNAME destination checking is limited to " ++
                toString maxCnameChainHops ++ " unique targets.")] }
      else
        let index := run.observations.length
        let lookups := danglingLookups (lookup index) queryTypes observation
        match lookups.result with
        | .error state =>
          (⟨run.observations ++ (lookups.observation :: rest).map fun observation =>
              observation.addLimitation (stopMessage state), state⟩,
            run.queries ++ lookups.queries)
        | .ok outcomes =>
          checkTargets queryTypes lookup rest
            { observations := run.observations ++
                [{ lookups.observation with status := classifyDanglingOutcomes outcomes }]
              classifiedTargets := run.classifiedTargets.insert normalizedTarget index
              queries := run.queries ++ lookups.queries }

def danglingCnameObservation (hop : CnameHop) : DanglingCnameObservation where
  sourceAlias := hop.source
  canonicalTarget := hop.destination
  limitations := [
    "Only selected A/AAAA lookups were performed; ownership, claimability, and takeover " ++
      "feasibility were not tested.",
    "Destination addresses were not scanned or used as downstream targets."]

def danglingQueryTypes (ipv4Only ipv6Only : Bool) : Option (List RecordType) :=
  match ipv4Only, ipv6Only with
  | true, false => some [.a]
  | false, true => some [.aaaa]
  | false, false => some [.a, .aaaa]
  | true, true => none

/-- What the check meets: whether the resolver can be initialized and built, and its lookups. -/
structure DanglingMeeting where
  initialized : Bool
  built : Bool
  lookup : Nat → RecordType → WildcardMeeting

/-- The check of an alias chain, and the queries it sent. -/
def analyzeDanglingCnames (cnameChain : List CnameHop) (meeting : DanglingMeeting)
    (ipv4Only ipv6Only : Bool) : DanglingCnameCheck × List DanglingQuery :=
  let observations := (cnameChain.take maxCnameChainHops).map danglingCnameObservation
  if observations.isEmpty then (⟨observations, .completed⟩, [])
  else
    match danglingQueryTypes ipv4Only ipv6Only with
    | none =>
      (⟨observations.map (·.addLimitation "No address record type was selected."), .completed⟩, [])
    | some queryTypes =>
      if !meeting.initialized then
        (⟨observations.map
          (·.addError "Could not initialize the CNAME destination resolver."), .completed⟩, [])
      else if !meeting.built then
        (⟨observations.map (·.addError "Could not build the CNAME destination resolver."),
          .completed⟩, [])
      else checkTargets queryTypes meeting.lookup observations {}

end Surface

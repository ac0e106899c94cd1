import Surface.Gather
import Surface.Http.Inspect

/-!
# Surface.Http.Analyze

The HTTP candidates among the services, inspected concurrently.

* `isHttpCandidate`: the services an HTTP request is sent to.
* `AnalyzesHttp`: the runs of the analysis, over every order of completion.
* `analyzesHttp_eq`: candidates at different addresses are listed as inspecting them in turn does.
-/

namespace Surface

def isHttpCandidate (service : ServiceObservation) : Bool :=
  decide (service.transport = .tcp) &&
    (decide (service.service = .http ∨ service.service = .https) ||
      decide (service.address.port ∈ [80, 443, 8000, 8080, 8443]))

section Analyze

variable {Url : Type} (library : UrlLibrary Url) (platform : Platform)

/-- What the inspection of a service meets; `none` when the token is cancelled before it ends. -/
abbrev HttpNetwork (Url : Type) := ServiceObservation → Option (HttpMeeting Url)

def HttpNetwork.inspect (network : HttpNetwork Url) (target : NormalizedTarget)
    (service : ServiceObservation) : Option HttpObservation :=
  (network service).map fun meeting => (inspectInner library platform meeting target service).1

variable (network : HttpNetwork Url) (target : NormalizedTarget)

/-- A run of the analysis: the inspections complete in any order. -/
def AnalyzesHttp (concurrency : Nat) (services : List ServiceObservation)
    (observations : List HttpObservation) : Prop :=
  CollectsBy HttpObservation.address (max 1 (min concurrency 16))
    (network.inspect library platform target) (services.filter isHttpCandidate) observations

/-- One candidate after the other. -/
def analyzeHttpInTurn (services : List ServiceObservation) : List HttpObservation :=
  collectBy HttpObservation.address (network.inspect library platform target)
    (services.filter isHttpCandidate)

variable {library platform network target}

theorem inspectInner_address (meeting : HttpMeeting Url) (service : ServiceObservation) :
    (inspectInner library platform meeting target service).1.address = service.address := by
  unfold inspectInner
  dsimp only
  cases library.parse (endpointUrl target service) with
  | none => rfl
  | some initialUrl =>
    cases hbuilt : meeting.built with
    | false => rfl
    | true =>
      simp only [Bool.not_true, Bool.false_eq_true, if_false]
      split <;> rfl

theorem inspect_http_address {service : ServiceObservation} {observation : HttpObservation}
    (h : network.inspect library platform target service = some observation) :
    observation.address = service.address := by
  obtain ⟨meeting, -, rfl⟩ := Option.map_eq_some_iff.mp h
  exact inspectInner_address meeting service

/-- Candidates at different addresses are inspected as if in turn. -/
theorem analyzesHttp_eq {concurrency : Nat} {services : List ServiceObservation}
    {observations : List HttpObservation}
    (hnodup : ((services.filter isHttpCandidate).map ServiceObservation.address).Nodup)
    (h : AnalyzesHttp library platform network target concurrency services observations) :
    observations = analyzeHttpInTurn library platform network target services :=
  h.eq ServiceObservation.address (fun _ _ hsome => inspect_http_address hsome) hnodup

theorem analyzesHttp_inTurn (concurrency : Nat) (services : List ServiceObservation) :
    AnalyzesHttp library platform network target concurrency services
      (analyzeHttpInTurn library platform network target services) :=
  collectsBy_collectBy (by omega) _

end Analyze

end Surface

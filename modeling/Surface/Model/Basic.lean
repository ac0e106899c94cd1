import Surface.Net

/-!
# Surface.Model.Basic

The vocabulary every stage shares: the lifecycle states and stages of a scan, its errors, its
configuration and target, and the selection of active stages.

`ScanSelection` carries the prerequisites of its stages as fields. `ScanSelection.all` and
`ScanSelection.only` are the two ways the code has to build one, and `exists_only` shows that the
fields say exactly that.
-/

namespace Surface

/-- An instant, in nanoseconds since the epoch. -/
structure OffsetDateTime where
  nanoseconds : Int
deriving DecidableEq

/-- Seconds since the epoch. -/
abbrev Timestamp := Int

namespace OffsetDateTime

def unixEpoch : OffsetDateTime := ⟨0⟩

/-- The second in which an instant lies. -/
def unixTimestamp (time : OffsetDateTime) : Timestamp := time.nanoseconds / 10 ^ 9

theorem unixTimestamp_mono {time time' : OffsetDateTime}
    (h : time.nanoseconds ≤ time'.nanoseconds) : time.unixTimestamp ≤ time'.unixTimestamp :=
  Int.ediv_le_ediv (by decide) h

end OffsetDateTime

inductive ScanStatus where
  | notStarted
  | completed
  | partialScan
  | interrupted
  | failed
deriving DecidableEq

inductive ScanStage where
  | preflight
  | dns
  | ports
  | services
  | http
  | tls
  | findings
deriving DecidableEq

/-- A stage transition reported to the caller. -/
inductive ScanProgress where
  | started (stage : ScanStage)
  | completed (stage : ScanStage) (observations : Nat)
deriving DecidableEq

inductive ScanErrorKind where
  | configuration
  | dns
  | timeout
  | network
  | http
  | tls
  | cancelled
  | authorization
  | other
deriving DecidableEq

structure ScanError where
  stage : ScanStage
  target : Option String
  kind : ScanErrorKind
  message : String
  recoverable : Bool
deriving DecidableEq

structure ScanConfiguration where
  ports : List Nat
  udpPorts : List Nat
  concurrency : Nat
  connectTimeoutMs : Nat
  requestTimeoutMs : Nat
  globalTimeoutMs : Nat
  ipv4Only : Bool
  ipv6Only : Bool
  authorizationAcknowledged : Bool
deriving DecidableEq

/-- One omitted check and why it was omitted. -/
structure SkippedCheck where
  check : String
  reason : String
deriving DecidableEq

structure NormalizedTarget where
  original : String
  hostname : Option String
  explicitIp : Option IpAddr
  scheme : Option String
  explicitPort : Option Nat
  initialPath : Option String
deriving DecidableEq

/-- The canonical identity of a target: its hostname, else its address, else the input. -/
def NormalizedTarget.identity (t : NormalizedTarget) : String :=
  (t.hostname.or (t.explicitIp.map IpAddr.display)).getD t.original

/-! ## Selected stages -/

/-- The selected active stages. HTTP and TLS need the services, services need the ports. -/
structure ScanSelection where
  ports : Bool
  services : Bool
  http : Bool
  tls : Bool
  services_ports : services = true → ports = true
  http_services : http = true → services = true
  tls_services : tls = true → services = true

namespace ScanSelection

def all : ScanSelection := ⟨true, true, true, true, fun _ => rfl, fun _ => rfl, fun _ => rfl⟩

/-- Select stages together with their prerequisites. -/
def only (stages : List ScanStage) : ScanSelection where
  ports := decide (.ports ∈ stages) || (decide (.services ∈ stages) ||
    decide (.http ∈ stages) || decide (.tls ∈ stages))
  services := decide (.services ∈ stages) || decide (.http ∈ stages) || decide (.tls ∈ stages)
  http := decide (.http ∈ stages)
  tls := decide (.tls ∈ stages)
  services_ports h := by rw [h, Bool.or_true]
  http_services h := by rw [h, Bool.or_true, Bool.true_or]
  tls_services h := by rw [h, Bool.or_true]

theorem ext_fields {s t : ScanSelection} (hp : s.ports = t.ports) (hs : s.services = t.services)
    (hh : s.http = t.http) (ht : s.tls = t.tls) : s = t := by
  cases s; cases t; simp_all

/-- Every selection comes from some list of stages. -/
theorem exists_only (s : ScanSelection) : ∃ stages, s = only stages := by
  obtain ⟨ports, services, http, tls, hsp, hhs, hts⟩ := s
  refine ⟨(if ports then [.ports] else []) ++ (if services then [.services] else []) ++
    (if http then [.http] else []) ++ (if tls then [.tls] else []), ext_fields ?_ ?_ ?_ ?_⟩ <;>
  cases ports <;> cases services <;> cases http <;> cases tls <;> simp_all [only]

theorem not_selected_of_not_services (s : ScanSelection) (h : s.services = false) :
    s.http = false ∧ s.tls = false := by
  constructor
  · cases hc : s.http with
    | false => rfl
    | true => rw [s.http_services hc] at h; cases h
  · cases hc : s.tls with
    | false => rfl
    | true => rw [s.tls_services hc] at h; cases h

theorem not_selected_of_not_ports (s : ScanSelection) (h : s.ports = false) :
    s.services = false ∧ s.http = false ∧ s.tls = false := by
  have hs : s.services = false := by
    cases hc : s.services with
    | false => rfl
    | true => rw [s.services_ports hc] at h; cases h
  exact ⟨hs, s.not_selected_of_not_services hs⟩

end ScanSelection

/-! ## Time and cancellation

A run reads the cancellation token and the deadline at fixed points of the code. One reading is a
`Reading`; what an awaited operation comes to under both is an `Awaited`. -/

/-- What one point of the code sees of the cancellation token and of the deadline. -/
structure Reading where
  cancelled : Bool
  expired : Bool
deriving DecidableEq

def Reading.stops (reading : Reading) : Bool := reading.cancelled || reading.expired

/-- Neither flag is ever lowered again. -/
def Reading.le (a b : Reading) : Prop :=
  (a.cancelled = true → b.cancelled = true) ∧ (a.expired = true → b.expired = true)

instance (a b : Reading) : Decidable (a.le b) := inferInstanceAs (Decidable (_ ∧ _))

/-- The result of an operation awaited under the token and a deadline, the token winning ties. -/
inductive Awaited (α : Type) where
  | cancelled
  | timedOut
  | ready (value : α)

def Awaited.isReady {α : Type} : Awaited α → Bool
  | ready _ => true
  | _ => false

/-- How a check that watches the token and the deadline came to an end. -/
inductive CheckState where
  | completed
  | timedOut
  | cancelled
deriving DecidableEq

end Surface

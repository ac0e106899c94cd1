import Surface.Text
import Surface.Unordered
import Surface.Engine

/-!
# Surface.Scanner

The TCP and UDP port scans: a bounded number of probes in flight, their observations sorted and
grouped by host.

* `connect`, `probeUdp`: the observation of one probe, given how it ended.
* `Scans`: the runs of a scan, over every order of completion.
* `ScanPorts`, `ScanUdpPorts`: the two scans of the port stage.
-/

namespace Surface

/-! ## One probe -/

/-- The kinds of connection errors the scanner tells apart. -/
inductive IoErrorKind where
  | connectionRefused
  | timedOut
  | hostUnreachable
  | networkUnreachable
  | other
deriving DecidableEq

/-- How the race of a probe with its timeout and the token ended. -/
inductive ProbeResult where
  | cancelled
  | answered (latencyMs : Option Nat)
  | failed (kind : IoErrorKind) (text : String) (latencyMs : Option Nat)
  | elapsed (latencyMs : Option Nat)
deriving DecidableEq

def classifyError : IoErrorKind → PortState
  | .connectionRefused => .closed
  | .timedOut => .timedOut
  | .hostUnreachable => .unreachable
  | .networkUnreachable => .unreachable
  | .other => .error

def sanitizeError (value : String) : String :=
  String.ofList ((value.toList.filter fun character => !isControl character).take 256)

def connect (result : ProbeResult) (address : SocketAddr) : PortObservation :=
  match result with
  | .cancelled => ⟨.tcp, address, .cancelled, none, none⟩
  | .answered latencyMs => ⟨.tcp, address, .open, latencyMs, none⟩
  | .failed kind text latencyMs =>
    ⟨.tcp, address, classifyError kind, latencyMs, some (sanitizeError text)⟩
  | .elapsed latencyMs => ⟨.tcp, address, .timedOut, latencyMs, some "connection timed out"⟩

/-- A UDP port that stays silent may be open. -/
def probeUdp (result : ProbeResult) (address : SocketAddr) : PortObservation :=
  match result with
  | .cancelled => ⟨.udp, address, .cancelled, none, none⟩
  | .answered latencyMs => ⟨.udp, address, .open, latencyMs, none⟩
  | .failed kind text latencyMs =>
    ⟨.udp, address, classifyError kind, latencyMs, some (sanitizeError text)⟩
  | .elapsed latencyMs => ⟨.udp, address, .openFiltered, latencyMs, none⟩

theorem connect_address (result : ProbeResult) (address : SocketAddr) :
    (connect result address).address = address := by
  cases result <;> rfl

theorem connect_transport (result : ProbeResult) (address : SocketAddr) :
    (connect result address).transport = .tcp := by
  cases result <;> rfl

theorem probeUdp_address (result : ProbeResult) (address : SocketAddr) :
    (probeUdp result address).address = address := by
  cases result <;> rfl

theorem probeUdp_transport (result : ProbeResult) (address : SocketAddr) :
    (probeUdp result address).transport = .udp := by
  cases result <;> rfl

/-! ## Scans -/

def attempts (addresses : List IpAddr) (ports : List Nat) : List SocketAddr :=
  addresses.flatMap fun ip => ports.map fun port => ⟨ip, port⟩

def groupByHost (addresses : List IpAddr) (observations : List PortObservation) :
    List HostObservation :=
  addresses.map fun ip =>
    ⟨ip, observations.filter fun observation => observation.address.ip = ip⟩

/-- What a scan makes of its observations, in the order in which they were collected. -/
def arrange (addresses : List IpAddr) (observations : List PortObservation) :
    List HostObservation :=
  groupByHost addresses (sortBy PortObservation.address observations)

/-- A run of a scan that returns `hosts`: the probes complete in any order. -/
def Scans (concurrency : Nat) (probe : SocketAddr → PortObservation) (addresses : List IpAddr)
    (ports : List Nat) (hosts : List HostObservation) : Prop :=
  ∃ observations, Buffer.Collects (max concurrency 1) probe (attempts addresses ports) observations ∧
    hosts = arrange addresses observations

/-- One probe after the other. -/
def scanInTurn (probe : SocketAddr → PortObservation) (addresses : List IpAddr)
    (ports : List Nat) : List HostObservation :=
  arrange addresses ((attempts addresses ports).map probe)

/-- How every single attempt ends. -/
abbrev Outcomes := SocketAddr → ProbeResult

def Outcomes.connect (outcomes : Outcomes) (address : SocketAddr) : PortObservation :=
  Surface.connect (outcomes address) address

def Outcomes.probeUdp (outcomes : Outcomes) (address : SocketAddr) : PortObservation :=
  Surface.probeUdp (outcomes address) address

@[simp] theorem Outcomes.connect_address (outcomes : Outcomes) (address : SocketAddr) :
    (outcomes.connect address).address = address := Surface.connect_address _ _

@[simp] theorem Outcomes.connect_transport (outcomes : Outcomes) (address : SocketAddr) :
    (outcomes.connect address).transport = .tcp := Surface.connect_transport _ _

@[simp] theorem Outcomes.probeUdp_address (outcomes : Outcomes) (address : SocketAddr) :
    (outcomes.probeUdp address).address = address := Surface.probeUdp_address _ _

@[simp] theorem Outcomes.probeUdp_transport (outcomes : Outcomes) (address : SocketAddr) :
    (outcomes.probeUdp address).transport = .udp := Surface.probeUdp_transport _ _

def ScanPorts (concurrency : Nat) (outcomes : Outcomes) :
    List IpAddr → List Nat → List HostObservation → Prop :=
  Scans concurrency outcomes.connect

def ScanUdpPorts (concurrency : Nat) (outcomes : Outcomes) :
    List IpAddr → List Nat → List HostObservation → Prop :=
  Scans concurrency outcomes.probeUdp

end Surface

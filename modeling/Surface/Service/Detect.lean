import Surface.Unordered
import Surface.Engine

/-!
# Surface.Service.Detect

The service detection: active probes of the first open TCP endpoints, hints for the rest and for
the UDP endpoints.

* `tcpAddresses`, `activeAddresses`: the open TCP endpoints, and those that are probed.
* `Detects`: the runs of the detection, over every order of completion.
* `truncation_agrees_iff`: when the engine's note about truncated probing is right.
-/

namespace Surface

def maxServiceEndpoints : Nat := 256

/-! ## Hints -/

/-- The services hinted at by a port, with their TCP ports and their UDP ports. -/
def serviceHints : List (ServiceKind × List Nat × List Nat) :=
  [(.ftp, [21], []), (.smtp, [25, 587], []), (.dns, [53], [53]),
    (.http, [80, 8000, 8080, 8888], []), (.pop3, [110], []), (.imap, [143], []),
    (.https, [443, 8443], []), (.smb, [445], []), (.smtps, [465], []), (.imaps, [993], []),
    (.pop3s, [995], []), (.mssql, [1433], []), (.oracle, [1521, 2483, 2484], []),
    (.mqtt, [1883, 8883], []), (.nfs, [2049], [2049]), (.docker, [2375, 2376], []),
    (.mysql, [3306, 33060], []), (.rdp, [3389], [3389]), (.postgresql, [5432], []),
    (.rabbitmq, [5671, 5672, 15671, 15672], []), (.vnc, [5900], []), (.redis, [6379], []),
    (.kubernetes, [6443], []), (.neo4j, [7474, 7687], []), (.terraria, [7777], [7777]),
    (.clickhouse, [8123, 9000], []), (.prometheus, [9090, 9100], []), (.kafka, [9092], []),
    (.cassandra, [9042], []), (.elasticsearch, [9200, 9300], []),
    (.memcached, [11211], [11211]), (.minecraftBedrock, [19132, 19133], [19132, 19133]),
    (.valheim, [], [2456, 2457, 2458]), (.minecraftJava, [25565], []),
    (.sourceEngine, [], [27015]), (.mongodb, [27017], []), (.factorio, [], [34197]),
    (.stunTurn, [], [3478]), (.grafana, [3000], []), (.netbird, [33073, 33080], []),
    (.wireguard, [], [51820])]

def hintedService (transport : TransportProtocol) (port : Nat) : ServiceKind :=
  ((serviceHints.find? fun hint => decide (port ∈ match transport with
    | .tcp => hint.2.1
    | .udp => hint.2.2)).map Prod.fst).getD .unknown

def hintObservation (address : SocketAddr) : ServiceObservation where
  transport := .tcp
  address := address
  service := hintedService .tcp address.port
  confidence := .low
  banner := none
  protocolDetails := .empty
  ssh := none

/-- A UDP endpoint is listed when it answered, or when its port hints at a service. -/
def udpObservation (port : PortObservation) : Option ServiceObservation :=
  let service := hintedService .udp port.address.port
  if port.transport = .udp ∧ (port.state = .open ∨ port.state = .openFiltered ∧ service ≠ .unknown) then
    some
      { transport := .udp
        address := port.address
        service := service
        confidence := if port.state = .open ∧ service ≠ .unknown then .medium else .low
        banner := none
        protocolDetails := .empty
        ssh := none }
  else none

/-! ## Detection -/

def tcpAddresses (hosts : List HostObservation) : List SocketAddr :=
  ((hosts.flatMap HostObservation.ports).filter fun port =>
    port.transport = .tcp ∧ port.state = .open).map PortObservation.address

/-- The endpoints that are probed. -/
def activeAddresses (hosts : List HostObservation) : List SocketAddr :=
  (tcpAddresses hosts).take maxServiceEndpoints

def ServiceObservation.sortKey (service : ServiceObservation) : SocketAddr ×ₗ Nat :=
  toLex (service.address, match service.transport with | .tcp => 0 | .udp => 1)

/-- The observations of the detection, given the results of the probes as they completed. -/
def detected (hosts : List HostObservation) (probed : List (Option ServiceObservation)) :
    List ServiceObservation :=
  sortBy ServiceObservation.sortKey (probed.filterMap id ++
    (((tcpAddresses hosts).drop maxServiceEndpoints).map hintObservation).filter
      (fun observation => observation.service ≠ .unknown) ++
    (hosts.flatMap HostObservation.ports).filterMap udpObservation)

/-- A run of the detection: the probes complete in any order. -/
def Detects (concurrency : Nat) (probe : SocketAddr → Option ServiceObservation)
    (hosts : List HostObservation) (observations : List ServiceObservation) : Prop :=
  ∃ probed, Buffer.Collects (max concurrency 1) probe (activeAddresses hosts) probed ∧
    observations = detected hosts probed

/-! ## The note about truncation -/

/-- Some open TCP endpoint is listed more often than it is probed. -/
def LeavesUnprobed (hosts : List HostObservation) : Prop :=
  ∃ address, (activeAddresses hosts).count address < (tcpAddresses hosts).count address

/-- The engine adds the note that probing was truncated. -/
def RecordsTruncation (report : ScanReport) : Prop :=
  (truncateEndpoints report).errors = report.errors ++
    [⟨.services, report.target.hostname, .other,
      "active protocol probing truncated at 256 endpoints", true⟩]

def openTcpCount (report : ScanReport) : Nat :=
  (report.hosts.flatMap HostObservation.ports).countP fun port =>
    port.transport = .tcp ∧ port.state = .open

theorem length_tcpAddresses (report : ScanReport) :
    (tcpAddresses report.hosts).length = openTcpCount report := by
  unfold tcpAddresses openTcpCount
  rw [List.length_map, List.countP_eq_length_filter]

theorem openTcpCount_le (report : ScanReport) : openTcpCount report ≤ report.openEndpointCount := by
  unfold openTcpCount ScanReport.openEndpointCount
  refine List.countP_mono_left (fun port _ h => ?_)
  simp only [decide_eq_true_eq] at h ⊢
  exact h.2

/-- Cutting a list short leaves some element with fewer occurrences. -/
theorem exists_count_take_lt {α : Type*} [DecidableEq α] {l : List α} {n : Nat} :
    (∃ a, (l.take n).count a < l.count a) ↔ n < l.length := by
  constructor
  · rintro ⟨a, ha⟩
    by_contra hle
    rw [List.take_of_length_le (Nat.le_of_not_lt hle)] at ha
    exact Nat.lt_irrefl _ ha
  · intro hlt
    refine ⟨l[n], ?_⟩
    have hsplit : l.count l[n] = (l.take n).count l[n] + (l.drop n).count l[n] := by
      rw [← List.count_append, List.take_append_drop]
    have hhead : 0 < (l.drop n).count l[n] := by
      rw [List.count_pos_iff, List.drop_eq_getElem_cons hlt]
      exact List.mem_cons_self
    omega

theorem leavesUnprobed_iff (report : ScanReport) :
    LeavesUnprobed report.hosts ↔ 256 < openTcpCount report := by
  rw [← length_tcpAddresses]
  exact exists_count_take_lt

theorem recordsTruncation_iff (report : ScanReport) :
    RecordsTruncation report ↔ 256 < report.openEndpointCount := by
  unfold RecordsTruncation truncateEndpoints
  by_cases h : maxActiveEndpoints < report.openEndpointCount
  · rw [if_pos h]
    exact iff_of_true rfl h
  · rw [if_neg h]
    refine iff_of_false (fun heq => ?_) h
    have hlength := congrArg List.length heq
    rw [List.length_append, List.length_singleton] at hlength
    omega

/-- Among distinct endpoints, one of them is left without a probe. -/
theorem leavesUnprobed_iff_of_nodup {hosts : List HostObservation} (h : (tcpAddresses hosts).Nodup) :
    LeavesUnprobed hosts ↔ ∃ address ∈ tcpAddresses hosts, address ∉ activeAddresses hosts := by
  have hactive : (activeAddresses hosts).Nodup := h.sublist (List.take_sublist _ _)
  unfold LeavesUnprobed
  refine exists_congr (fun address => ?_)
  rw [h.count, hactive.count]
  by_cases ha : address ∈ tcpAddresses hosts <;> by_cases hb : address ∈ activeAddresses hosts <;>
    simp [ha, hb]

/-- The note is right unless it counts UDP endpoints beyond a TCP list that fits. -/
theorem truncation_agrees_iff (report : ScanReport) :
    ((RecordsTruncation report ↔ LeavesUnprobed report.hosts) ↔
      ¬ (openTcpCount report ≤ 256 ∧ 256 < report.openEndpointCount)) ∧
    ((tcpAddresses report.hosts).Nodup →
      ((RecordsTruncation report ↔
          ∃ address ∈ tcpAddresses report.hosts, address ∉ activeAddresses report.hosts) ↔
        ¬ (openTcpCount report ≤ 256 ∧ 256 < report.openEndpointCount))) := by
  have hagree : (RecordsTruncation report ↔ LeavesUnprobed report.hosts) ↔
      ¬ (openTcpCount report ≤ 256 ∧ 256 < report.openEndpointCount) := by
    have hle := openTcpCount_le report
    rw [recordsTruncation_iff, leavesUnprobed_iff]
    omega
  refine ⟨hagree, fun hnodup => ?_⟩
  rw [← leavesUnprobed_iff_of_nodup hnodup]
  exact hagree

/-- A host with 256 open TCP ports and one open UDP port. -/
def fixtureCrowdedReport : ScanReport :=
  { fixtureReport with
    hosts := [⟨.v4 (BitVec.ofNat 32 1),
      (⟨.udp, ⟨.v4 (BitVec.ofNat 32 1), 53⟩, .open, none, none⟩ : PortObservation) ::
        (List.range 256).map fun port =>
          ⟨.tcp, ⟨.v4 (BitVec.ofNat 32 1), port + 1⟩, .open, none, none⟩⟩] }

/-- All TCP endpoints are probed, and yet the note is made. -/
theorem truncation_noted_without_loss :
    ¬ (RecordsTruncation fixtureCrowdedReport ↔ LeavesUnprobed fixtureCrowdedReport.hosts) := by
  have htcp : openTcpCount fixtureCrowdedReport = 256 := by decide +kernel
  have hopen : fixtureCrowdedReport.openEndpointCount = 257 := by decide +kernel
  rw [recordsTruncation_iff, leavesUnprobed_iff, htcp, hopen]
  decide

/-- A host with one open UDP port and more open TCP ports than are probed. -/
def fixtureOverfullReport : ScanReport :=
  { fixtureReport with
    hosts := [⟨.v4 (BitVec.ofNat 32 1),
      (⟨.udp, ⟨.v4 (BitVec.ofNat 32 1), 53⟩, .open, none, none⟩ : PortObservation) ::
        (List.range 257).map fun port =>
          ⟨.tcp, ⟨.v4 (BitVec.ofNat 32 1), port + 1⟩, .open, none, none⟩⟩] }

theorem truncation_agrees_iff_fixture :
    openTcpCount fixtureOverfullReport = 257 ∧ fixtureOverfullReport.openEndpointCount = 258 ∧
      (RecordsTruncation fixtureOverfullReport ↔
        ∃ address ∈ tcpAddresses fixtureOverfullReport.hosts,
          address ∉ activeAddresses fixtureOverfullReport.hosts) := by
  have htcp : openTcpCount fixtureOverfullReport = 257 := by decide +kernel
  have hopen : fixtureOverfullReport.openEndpointCount = 258 := by decide +kernel
  have hports : (tcpAddresses fixtureOverfullReport.hosts).map SocketAddr.port =
      List.range' 1 257 := by decide +kernel
  refine ⟨htcp, hopen, ((truncation_agrees_iff fixtureOverfullReport).2 ?_).mpr ?_⟩
  · refine List.Nodup.of_map SocketAddr.port ?_
    rw [hports]
    exact List.nodup_range'
  · rw [htcp, hopen]
    decide

end Surface

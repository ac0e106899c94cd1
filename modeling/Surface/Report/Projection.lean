import Surface.Report.Serialize

/-!
# Surface.Report.Projection

The parts of a report as the renderers share them: its lifecycle, the ports of a host that are
shown, and the SSH posture of a service.
-/

namespace Surface

/-! ## Names -/

def ServiceKind.display : ServiceKind → String
  | smtps => "SMTPS" | imaps => "IMAPS" | pop3s => "POP3S" | dns => "DNS" | mssql => "MSSQL"
  | smb => "SMB" | nfs => "NFS" | rdp => "RDP" | vnc => "VNC" | stunTurn => "STUN/TURN"
  | sourceEngine => "Source Engine" | http => "Http" | https => "Https" | ssh => "Ssh"
  | smtp => "Smtp" | ftp => "Ftp" | imap => "Imap" | pop3 => "Pop3" | redis => "Redis"
  | mysql => "Mysql" | postgresql => "Postgresql" | mqtt => "Mqtt" | oracle => "Oracle"
  | mongodb => "Mongodb" | memcached => "Memcached" | elasticsearch => "Elasticsearch"
  | rabbitmq => "Rabbitmq" | kafka => "Kafka" | cassandra => "Cassandra"
  | clickhouse => "Clickhouse" | neo4j => "Neo4j" | docker => "Docker"
  | kubernetes => "Kubernetes" | prometheus => "Prometheus" | grafana => "Grafana"
  | wireguard => "Wireguard" | netbird => "Netbird" | minecraftJava => "MinecraftJava"
  | minecraftBedrock => "MinecraftBedrock" | terraria => "Terraria" | valheim => "Valheim"
  | factorio => "Factorio" | tls => "Tls" | unknown => "Unknown"

def DetectionConfidence.debug : DetectionConfidence → String
  | low => "Low"
  | medium => "Medium"
  | high => "High"

def FindingConfidence.debug : FindingConfidence → String
  | low => "Low"
  | medium => "Medium"
  | high => "High"

/-! ## Lifecycle -/

structure LifecycleProjection where
  status : String
  successful : Bool
  partialScan : Bool
  errors : Nat
  scoreIncomplete : Bool
deriving DecidableEq

def lifecycle (report : ScanReport) : LifecycleProjection where
  status := report.status.name
  successful := report.status = .completed
  partialScan := report.status = .partialScan
  errors := report.errors.length
  scoreIncomplete := report.exposureScore.any ExposureScore.incomplete

/-! ## Ports -/

structure PortProjection where
  number : Nat
  transport : String
  state : String
  service : String
deriving DecidableEq

/-- The open ports of a host, and those that may be open when a service was recognized there. -/
def ports (report : ScanReport) (host : HostObservation) : List PortProjection :=
  host.ports.filterMap fun port =>
    let service := report.services.find? fun service =>
      service.address = port.address ∧ service.transport = port.transport
    if port.state ≠ .open ∧ ¬ (port.state = .openFiltered ∧ service.isSome) then none
    else some
      { number := port.address.port
        transport := port.transport.name
        state := if port.state = .open then "open" else "open|filtered"
        service := (service.map fun value => value.service.display).getD "unknown" }

/-! ## SSH -/

structure SshProjection where
  protocol : Option String
  software : Option String
  status : String
  selections : PartialSshAlgorithmSelections
  reason : Option String
deriving DecidableEq

def SshAlgorithmSelections.toPartial (value : SshAlgorithmSelections) :
    PartialSshAlgorithmSelections where
  kex := some value.kex
  hostKey := some value.hostKey
  cipherC2s := some value.cipherC2s
  cipherS2c := some value.cipherS2c
  macC2s := some value.macC2s
  macS2c := some value.macS2c

def SshPosture.projection (posture : SshPosture) : SshProjection :=
  let (status, selections, reason) : String × PartialSshAlgorithmSelections × Option String :=
    match posture.outcome with
    | .complete selections => ("complete", selections.toPartial, none)
    | .partialPosture selections reason => ("partial", selections, some reason)
    | .indeterminate reason => ("indeterminate", {}, some reason)
  { protocol := posture.identification.map SshIdentification.protocol
    software := posture.identification.map SshIdentification.software
    status := status
    selections := selections
    reason := reason }

def ssh (service : ServiceObservation) : Option SshProjection :=
  service.ssh.map SshPosture.projection

end Surface

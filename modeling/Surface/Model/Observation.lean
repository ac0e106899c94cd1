import Surface.Ordered
import Surface.Model.Basic

/-!
# Surface.Model.Observation

What the active stages observe of hosts, services, HTTP and TLS endpoints, and the findings and
the exposure score interpreted from it.
-/

namespace Surface

inductive TransportProtocol where
  | tcp
  | udp
deriving DecidableEq

inductive PortState where
  | open
  | closed
  | openFiltered
  | timedOut
  | unreachable
  | error
  | cancelled
deriving DecidableEq

structure PortObservation where
  transport : TransportProtocol
  address : SocketAddr
  state : PortState
  latencyMs : Option Nat
  error : Option String
deriving DecidableEq

structure HostObservation where
  ip : IpAddr
  ports : List PortObservation
deriving DecidableEq

inductive ServiceKind where
  | http | https | ssh | smtp | smtps | ftp | imap | imaps | pop3 | pop3s | dns | redis | mysql
  | postgresql | mqtt | mssql | oracle | mongodb | memcached | elasticsearch | rabbitmq | kafka
  | cassandra | clickhouse | neo4j | smb | nfs | rdp | vnc | docker | kubernetes | prometheus
  | grafana | wireguard | stunTurn | netbird | minecraftJava | minecraftBedrock | terraria
  | valheim | factorio | sourceEngine | tls | unknown
deriving DecidableEq

inductive DetectionConfidence where
  | low
  | medium
  | high
deriving DecidableEq

structure SshIdentification where
  protocol : String
  software : String
deriving DecidableEq

structure SshAlgorithmSelections where
  kex : String
  hostKey : String
  cipherC2s : String
  cipherS2c : String
  macC2s : String
  macS2c : String
deriving DecidableEq

structure PartialSshAlgorithmSelections where
  kex : Option String := none
  hostKey : Option String := none
  cipherC2s : Option String := none
  cipherS2c : Option String := none
  macC2s : Option String := none
  macS2c : Option String := none
deriving DecidableEq

inductive SshPostureOutcome where
  | complete (selections : SshAlgorithmSelections)
  | partialPosture (selections : PartialSshAlgorithmSelections) (reason : String)
  | indeterminate (reason : String)
deriving DecidableEq

structure SshPosture where
  identification : Option SshIdentification
  outcome : SshPostureOutcome
deriving DecidableEq

structure ServiceObservation where
  transport : TransportProtocol
  address : SocketAddr
  service : ServiceKind
  confidence : DetectionConfidence
  banner : Option String
  protocolDetails : OrdMap String String
  ssh : Option SshPosture
deriving DecidableEq

structure CookieObservation where
  name : String
  secure : Bool
  httpOnly : Bool
  sameSite : Option String
  domain : Option String
  path : Option String
deriving DecidableEq

structure RedirectObservation where
  source : String
  status : Nat
  destination : String
deriving DecidableEq

structure HttpObservation where
  address : SocketAddr
  url : String
  finalUrl : Option String
  status : Option Nat
  version : Option String
  latencyMs : Option Nat
  redirects : List RedirectObservation
  headers : OrdMap String String
  cookies : List CookieObservation
  title : Option String
  bodyBytes : Nat
  bodyTruncated : Bool
  robotsTxt : Option Bool
  securityTxt : Option Bool
  sitemapXml : Option Bool
  error : Option String
deriving DecidableEq

structure TlsObservation where
  address : SocketAddr
  serverName : String
  handshakeSucceeded : Bool
  certificateTrusted : Option Bool
  hostnameMatches : Option Bool
  protocolVersion : Option String
  cipherSuite : Option String
  alpn : Option String
  certificateChainLength : Option Nat
  leafCertificateSha256 : Option String
  subject : Option String
  issuer : Option String
  serialNumber : Option String
  validFromUnix : Option Int
  validUntilUnix : Option Int
  subjectAltNames : List String
  subjectAltNamesTruncated : Bool
  publicKeyAlgorithm : Option String
  publicKeyBits : Option Nat
  signatureAlgorithm : Option String
  errors : List String
deriving DecidableEq

/-! ## Findings and score -/

inductive Severity where
  | info
  | low
  | medium
  | high
  | critical
deriving DecidableEq

inductive FindingCategory where
  | network
  | http
  | tls
  | mail
deriving DecidableEq

inductive FindingConfidence where
  | low
  | medium
  | high
deriving DecidableEq

structure Evidence where
  location : String
  observed : String
deriving DecidableEq

structure Finding where
  id : String
  title : String
  severity : Severity
  category : FindingCategory
  target : String
  description : String
  evidence : List Evidence
  remediation : Option String
  references : List String
  confidence : FindingConfidence
deriving DecidableEq

structure ScoreDeduction where
  id : String
  points : Nat
  reason : String
  findingIds : List String
  target : Option String
deriving DecidableEq

inductive ScoreClassification where
  | favorable
  | review
  | elevated
  | critical
deriving DecidableEq

structure ExposureScore where
  modelVersion : String
  value : Nat
  classification : ScoreClassification
  deductions : List ScoreDeduction
  incomplete : Bool
  limitations : List String
deriving DecidableEq

end Surface

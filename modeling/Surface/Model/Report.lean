import Surface.Model.Observation
import Surface.Model.Intelligence

/-!
# Surface.Model.Report

The versioned report that every stage updates and every renderer reads.
-/

namespace Surface

structure ScanReport where
  schemaVersion : String
  scannerVersion : String
  scanId : String
  startedAt : OffsetDateTime
  completedAt : Option OffsetDateTime
  target : NormalizedTarget
  configuration : ScanConfiguration
  status : ScanStatus
  dns : Option DnsObservation
  hosts : List HostObservation
  services : List ServiceObservation
  http : List HttpObservation
  tls : List TlsObservation
  findings : List Finding
  exposureScore : Option ExposureScore
  intelligence : Option IntelligenceObservation
  skippedChecks : List SkippedCheck
  errors : List ScanError
  message : String
deriving DecidableEq

namespace ScanReport

/-- A report that records no scanning activity. -/
def notStarted (scannerVersion scanId : String) (startedAt : OffsetDateTime)
    (target : NormalizedTarget) (configuration : ScanConfiguration) : ScanReport where
  schemaVersion := "0.4.0"
  scannerVersion := scannerVersion
  scanId := scanId
  startedAt := startedAt
  completedAt := none
  target := target
  configuration := configuration
  status := .notStarted
  dns := none
  hosts := []
  services := []
  http := []
  tls := []
  findings := []
  exposureScore := none
  intelligence := none
  skippedChecks := []
  errors := []
  message := "Scan has not started."

end ScanReport

/-! ## The report of the test fixtures -/

def fixtureTarget : NormalizedTarget where
  original := "example.com"
  hostname := some "example.com"
  explicitIp := none
  scheme := none
  explicitPort := none
  initialPath := none

def fixtureConfiguration : ScanConfiguration where
  ports := [443]
  udpPorts := []
  concurrency := 1
  connectTimeoutMs := 100
  requestTimeoutMs := 100
  globalTimeoutMs := 1000
  ipv4Only := false
  ipv6Only := false
  authorizationAcknowledged := true

def fixtureReport : ScanReport :=
  .notStarted "0.3.0" "00000000-0000-4000-8000-000000000000" .unixEpoch fixtureTarget
    fixtureConfiguration

/-! ### A scan that observed something -/

def observedHost : IpAddr := .ofOctets 192 0 2 1

def observedDns : DnsObservation where
  queriedName := "example.com"
  records := [.a (BitVec.ofNat 32 0xc0000201), .cname "edge.example.net", .mx 10 "mail.example.com",
    .txt "v=spf1 -all", .caa 0 "issue" "ca.example"]
  cnameChain := [⟨"example.com", "edge.example.net"⟩]
  danglingCnames := [⟨"example.com", "edge.example.net", .resolved, ["A: 1"], [], []⟩]
  resolvedHosts := [⟨some "edge.example.net", observedHost, .aRecord⟩]
  mail := ⟨true, ⟨["v=spf1 -all"], some "-all"⟩,
    [⟨"v=DMARC1; p=reject", some "reject", none, some 100, [], none, none⟩], [], none, []⟩
  dnssec := some ⟨.secure, [⟨"example.com", .a, .secure⟩], [], []⟩
  authoritativeAxfr := some
    { zone := "example.com"
      nameservers := ["ns1.example.com"]
      attempts := [⟨"ns1.example.com", ⟨observedHost, 53⟩, .refused, some "Refused", 1, 0, 12,
        none⟩] }
  wildcardDns := some { status := .notDetected, probesAttempted := 2 }
  errors := []

def observedPorts : List PortObservation :=
  [⟨.tcp, ⟨observedHost, 22⟩, .open, some 3, none⟩,
    ⟨.tcp, ⟨observedHost, 443⟩, .open, some 4, none⟩,
    ⟨.udp, ⟨observedHost, 53⟩, .openFiltered, none, some "no answer"⟩]

def observedPosture : SshPosture where
  identification := some ⟨"2.0", "OpenSSH_9.9"⟩
  outcome := .complete ⟨"curve25519-sha256", "ssh-ed25519", "aes128-ctr", "aes128-ctr",
    "hmac-sha2-256", "hmac-sha2-512"⟩

def observedServices : List ServiceObservation :=
  [⟨.tcp, ⟨observedHost, 22⟩, .ssh, .high, some "SSH-2.0-OpenSSH_9.9",
      .ofList [("software", "OpenSSH_9.9"), ("protocol", "2.0")], some observedPosture⟩,
    ⟨.tcp, ⟨observedHost, 443⟩, .https, .medium, none, .empty, none⟩]

def observedHttp : HttpObservation where
  address := ⟨observedHost, 443⟩
  url := "https://example.com/"
  finalUrl := some "https://example.com/start"
  status := some 200
  version := some "HTTP/2.0"
  latencyMs := some 20
  redirects := [⟨"https://example.com/", 302, "https://example.com/start"⟩]
  headers := .ofList [("server", "nginx"), ("content-type", "text/html")]
  cookies := [⟨"session", true, true, some "Lax", none, some "/"⟩]
  title := some "Example \"start\""
  bodyBytes := 1024
  bodyTruncated := false
  robotsTxt := some true
  securityTxt := some false
  sitemapXml := none
  error := none

def observedTls : TlsObservation where
  address := ⟨observedHost, 443⟩
  serverName := "example.com"
  handshakeSucceeded := true
  certificateTrusted := some true
  hostnameMatches := some true
  protocolVersion := some "TLSv1_2"
  cipherSuite := some "TLS13_AES_128_GCM_SHA256"
  alpn := some "h2"
  certificateChainLength := some 2
  leafCertificateSha256 := some "00ff"
  subject := some "CN=example.com"
  issuer := some "CN=ca.example"
  serialNumber := some "01"
  validFromUnix := some (-1)
  validUntilUnix := some 2000
  subjectAltNames := ["example.com", "www.example.com"]
  subjectAltNamesTruncated := false
  publicKeyAlgorithm := some "RSA"
  publicKeyBits := some 2048
  signatureAlgorithm := none
  errors := []

def observedFinding (id : String) (severity : Severity) : Finding where
  id := id
  title := "Finding " ++ id
  severity := severity
  category := .tls
  target := "example.com"
  description := "Observed at the fixture."
  evidence := [⟨"192.0.2.1:443", "remaining_days=0"⟩]
  remediation := some "Renew the certificate."
  references := []
  confidence := .high

def observedIntelligence : IntelligenceObservation where
  dkim := [⟨"default", 1, some "DKIM1", some "rsa", some "ab", false, false⟩]
  networks := [⟨observedHost, "192.0.2.0/24", some 64496, some "Example", none⟩]
  cveCandidates := [⟨"CVE-2024-0001", "openssh", "9.9", "high", "https://example.com/cve", "bundle",
    "medium"⟩]
  bundleVersion := some "1"
  bgpRoutes := [⟨observedHost, some "192.0.2.0/24", [64496, 64497], "bgp", true, []⟩]
  complete := true

def observedReport : ScanReport :=
  { fixtureReport with
    startedAt := ⟨1000100000000⟩
    completedAt := some ⟨1061250000000⟩
    status := .partialScan
    dns := some observedDns
    hosts := [⟨observedHost, observedPorts⟩, ⟨.v6 1, []⟩]
    services := observedServices
    http := [observedHttp]
    tls := [observedTls]
    findings := [observedFinding "TLS-CERT-EXPIRED" .high, observedFinding "MAIL-DMARC" .medium,
      observedFinding "HTTP-HSTS" .low, observedFinding "HTTP-SERVER" .info]
    exposureScore := some ⟨"2", 75, .review, [⟨"TLS", 25, "one finding", ["TLS-CERT-EXPIRED"],
      some "example.com"⟩], true, ["A lookup failed."]⟩
    intelligence := some observedIntelligence
    skippedChecks := [⟨"udp", "not selected"⟩]
    errors := [⟨.http, some "example.com", .timeout, "timed out", true⟩]
    message := "Scan finished." }

end Surface

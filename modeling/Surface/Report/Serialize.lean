import Surface.Json
import Surface.Model.Report

/-!
# Surface.Report.Serialize

The JSON values of the records of a report: every record an object named after its fields, every
enumeration a string.
-/

namespace Surface

open Json

def strings (l : List String) : Json := ofList .string l

def optString (o : Option String) : Json := ofOption .string o

def optBool (o : Option Bool) : Json := ofOption .bool o

def optNat (o : Option Nat) : Json := ofOption ofNat o

def IpAddr.toJson (ip : IpAddr) : Json := .string ip.display

/-! ## Lifecycle -/

def ScanStatus.name : ScanStatus → String
  | notStarted => "not_started"
  | completed => "completed"
  | partialScan => "partial"
  | interrupted => "interrupted"
  | failed => "failed"

def ScanStage.name : ScanStage → String
  | preflight => "preflight"
  | dns => "dns"
  | ports => "ports"
  | services => "services"
  | http => "http"
  | tls => "tls"
  | findings => "findings"

def ScanErrorKind.name : ScanErrorKind → String
  | configuration => "configuration"
  | dns => "dns"
  | timeout => "timeout"
  | network => "network"
  | http => "http"
  | tls => "tls"
  | cancelled => "cancelled"
  | authorization => "authorization"
  | other => "other"

def ScanError.toJson (error : ScanError) : Json :=
  mapOf [("stage", .string error.stage.name), ("target", optString error.target),
    ("kind", .string error.kind.name), ("message", .string error.message),
    ("recoverable", .bool error.recoverable)]

/-! ## DNS -/

/-- The tagged form of a record, with its objects built by `object`. -/
def DnsRecord.tagged (object : List (String × Json) → Json) : DnsRecord → Json
  | a address => object [("type", .string "a"), ("value", .string (IpAddr.displayV4 address))]
  | aaaa address =>
    object [("type", .string "aaaa"), ("value", .string (IpAddr.displayV6 address))]
  | cname name => object [("type", .string "cname"), ("value", .string name)]
  | ns name => object [("type", .string "ns"), ("value", .string name)]
  | mx preference exchange =>
    object [("type", .string "mx"), ("value", object [("preference", ofNat preference),
      ("exchange", .string exchange)])]
  | txt value => object [("type", .string "txt"), ("value", .string value)]
  | caa flags tag value =>
    object [("type", .string "caa"), ("value", object [("flags", ofNat flags),
      ("tag", .string tag), ("value", .string value)])]

def DnsRecord.toJson : DnsRecord → Json := DnsRecord.tagged mapOf

/-- The text of a record written directly, its members in the order of the declaration. -/
def DnsRecord.jsonKey (record : DnsRecord) : String := (record.tagged .object).text

def AddressSource.name : AddressSource → String
  | explicit => "explicit"
  | aRecord => "a_record"
  | aaaaRecord => "aaaa_record"

def CnameHop.toJson (hop : CnameHop) : Json :=
  mapOf [("from", .string hop.source), ("to", .string hop.destination)]

def DanglingCnameStatus.name : DanglingCnameStatus → String
  | resolved => "resolved"
  | nxDomain => "nxdomain"
  | noAddress => "no_address"
  | indeterminate => "indeterminate"

def DanglingCnameObservation.toJson (o : DanglingCnameObservation) : Json :=
  mapOf [("source_alias", .string o.sourceAlias), ("canonical_target", .string o.canonicalTarget),
    ("status", .string o.status.name), ("evidence", strings o.evidence),
    ("errors", strings o.errors), ("limitations", strings o.limitations)]

def ResolvedHost.toJson (host : ResolvedHost) : Json :=
  mapOf [("hostname", optString host.hostname), ("ip", host.ip.toJson),
    ("source", .string host.source.name)]

def SpfObservation.toJson (o : SpfObservation) : Json :=
  mapOf [("records", strings o.records), ("terminal_policy", optString o.terminalPolicy)]

def DmarcObservation.toJson (o : DmarcObservation) : Json :=
  mapOf [("record", .string o.record), ("policy", optString o.policy),
    ("subdomain_policy", optString o.subdomainPolicy), ("percentage", optNat o.percentage),
    ("aggregate_reports", strings o.aggregateReports), ("adkim", optString o.adkim),
    ("aspf", optString o.aspf)]

def MailObservation.toJson (o : MailObservation) : Json :=
  mapOf [("mx_present", .bool o.mxPresent), ("spf", o.spf.toJson),
    ("dmarc", ofList DmarcObservation.toJson o.dmarc), ("mta_sts", strings o.mtaSts),
    ("mta_sts_policy_available", optBool o.mtaStsPolicyAvailable), ("tls_rpt", strings o.tlsRpt)]

def DnssecStatus.name : DnssecStatus → String
  | secure => "secure"
  | insecure => "insecure"
  | bogus => "bogus"
  | indeterminate => "indeterminate"
  | notApplicable => "not_applicable"

def DnssecRecordType.name : DnssecRecordType → String
  | a => "a"
  | aaaa => "aaaa"

def DnssecRrsetObservation.toJson (o : DnssecRrsetObservation) : Json :=
  mapOf [("name", .string o.name), ("record_type", .string o.recordType.name),
    ("status", .string o.status.name)]

def DnssecObservation.toJson (o : DnssecObservation) : Json :=
  mapOf [("status", .string o.status.name),
    ("checked_rrsets", ofList DnssecRrsetObservation.toJson o.checkedRrsets),
    ("errors", strings o.errors), ("limitations", strings o.limitations)]

def WildcardDnsStatus.name : WildcardDnsStatus → String
  | detected => "detected"
  | notDetected => "not_detected"
  | indeterminate => "indeterminate"
  | notApplicable => "not_applicable"

def WildcardDnsRecordType.name : WildcardDnsRecordType → String
  | a => "a"
  | aaaa => "aaaa"
  | cname => "cname"

def WildcardDnsObservation.toJson (o : WildcardDnsObservation) : Json :=
  mapOf [("status", .string o.status.name), ("probes_attempted", ofNat o.probesAttempted),
    ("answer_types", strings (o.answerTypes.map WildcardDnsRecordType.name)),
    ("answer_fingerprints", strings o.answerFingerprints), ("errors", strings o.errors),
    ("limitations", strings o.limitations), ("probe_answers_scanned", .bool o.probeAnswersScanned)]

def AxfrOutcome.name : AxfrOutcome → String
  | allowed => "allowed"
  | refused => "refused"
  | notAuthoritative => "not_authoritative"
  | incomplete => "incomplete"
  | unreachable => "unreachable"
  | timeout => "timeout"
  | cancelled => "cancelled"
  | limitExceeded => "limit_exceeded"

def AxfrLimits.toJson (o : AxfrLimits) : Json :=
  mapOf [("nameservers", ofNat o.nameservers), ("ips_per_nameserver", ofNat o.ipsPerNameserver),
    ("endpoints", ofNat o.endpoints), ("bytes", ofNat o.bytes), ("records", ofNat o.records),
    ("messages", ofNat o.messages)]

def AxfrAttempt.toJson (o : AxfrAttempt) : Json :=
  mapOf [("server", .string o.server), ("endpoint", .string o.endpoint.display),
    ("outcome", .string o.outcome.name), ("response_code", optString o.responseCode),
    ("messages", ofNat o.messages), ("records", ofNat o.records), ("bytes", ofNat o.bytes),
    ("error", optString o.error)]

def AuthoritativeAxfrObservation.toJson (o : AuthoritativeAxfrObservation) : Json :=
  mapOf [("zone", .string o.zone), ("nameservers", strings o.nameservers),
    ("attempts", ofList AxfrAttempt.toJson o.attempts), ("limits", o.limits.toJson),
    ("transferred_records_retained", .bool o.transferredRecordsRetained),
    ("transferred_owner_names_retained", .bool o.transferredOwnerNamesRetained),
    ("transferred_owner_names_scanned", .bool o.transferredOwnerNamesScanned)]

def DnsObservation.toJson (o : DnsObservation) : Json :=
  mapOf [("queried_name", .string o.queriedName), ("records", ofList DnsRecord.toJson o.records),
    ("cname_chain", ofList CnameHop.toJson o.cnameChain),
    ("dangling_cnames", ofList DanglingCnameObservation.toJson o.danglingCnames),
    ("resolved_hosts", ofList ResolvedHost.toJson o.resolvedHosts), ("mail", o.mail.toJson),
    ("dnssec", ofOption DnssecObservation.toJson o.dnssec),
    ("authoritative_axfr", ofOption AuthoritativeAxfrObservation.toJson o.authoritativeAxfr),
    ("wildcard_dns", ofOption WildcardDnsObservation.toJson o.wildcardDns),
    ("errors", ofList ScanError.toJson o.errors)]

/-! ## Services, HTTP and TLS -/

def TransportProtocol.name : TransportProtocol → String
  | tcp => "tcp"
  | udp => "udp"

def TransportProtocol.debug : TransportProtocol → String
  | tcp => "Tcp"
  | udp => "Udp"

def ServiceKind.name : ServiceKind → String
  | http => "http" | https => "https" | ssh => "ssh" | smtp => "smtp" | smtps => "smtps"
  | ftp => "ftp" | imap => "imap" | imaps => "imaps" | pop3 => "pop3" | pop3s => "pop3s"
  | dns => "dns" | redis => "redis" | mysql => "mysql" | postgresql => "postgresql"
  | mqtt => "mqtt" | mssql => "mssql" | oracle => "oracle" | mongodb => "mongodb"
  | memcached => "memcached" | elasticsearch => "elasticsearch" | rabbitmq => "rabbitmq"
  | kafka => "kafka" | cassandra => "cassandra" | clickhouse => "clickhouse" | neo4j => "neo4j"
  | smb => "smb" | nfs => "nfs" | rdp => "rdp" | vnc => "vnc" | docker => "docker"
  | kubernetes => "kubernetes" | prometheus => "prometheus" | grafana => "grafana"
  | wireguard => "wireguard" | stunTurn => "stun_turn" | netbird => "netbird"
  | minecraftJava => "minecraft_java" | minecraftBedrock => "minecraft_bedrock"
  | terraria => "terraria" | valheim => "valheim" | factorio => "factorio"
  | sourceEngine => "source_engine" | tls => "tls" | unknown => "unknown"

def DetectionConfidence.name : DetectionConfidence → String
  | low => "low"
  | medium => "medium"
  | high => "high"

def SshIdentification.toJson (o : SshIdentification) : Json :=
  mapOf [("protocol", .string o.protocol), ("software", .string o.software)]

def SshAlgorithmSelections.toJson (o : SshAlgorithmSelections) : Json :=
  mapOf [("kex", .string o.kex), ("host_key", .string o.hostKey),
    ("cipher_c2s", .string o.cipherC2s), ("cipher_s2c", .string o.cipherS2c),
    ("mac_c2s", .string o.macC2s), ("mac_s2c", .string o.macS2c)]

def PartialSshAlgorithmSelections.toJson (o : PartialSshAlgorithmSelections) : Json :=
  mapOf [("kex", optString o.kex), ("host_key", optString o.hostKey),
    ("cipher_c2s", optString o.cipherC2s), ("cipher_s2c", optString o.cipherS2c),
    ("mac_c2s", optString o.macC2s), ("mac_s2c", optString o.macS2c)]

def SshPostureOutcome.toJson : SshPostureOutcome → Json
  | complete selections =>
    mapOf [("status", .string "complete"), ("selections", selections.toJson)]
  | partialPosture selections reason =>
    mapOf [("status", .string "partial"), ("selections", selections.toJson),
      ("reason", .string reason)]
  | indeterminate reason =>
    mapOf [("status", .string "indeterminate"), ("reason", .string reason)]

def SshPosture.toJson (o : SshPosture) : Json :=
  mapOf [("identification", ofOption SshIdentification.toJson o.identification),
    ("outcome", o.outcome.toJson)]

def RedirectObservation.toJson (o : RedirectObservation) : Json :=
  mapOf [("from", .string o.source), ("status", ofNat o.status), ("to", .string o.destination)]

def CookieObservation.toJson (o : CookieObservation) : Json :=
  mapOf [("name", .string o.name), ("secure", .bool o.secure), ("http_only", .bool o.httpOnly),
    ("same_site", optString o.sameSite), ("domain", optString o.domain),
    ("path", optString o.path)]

/-! ## Findings and score -/

def Severity.name : Severity → String
  | info => "info"
  | low => "low"
  | medium => "medium"
  | high => "high"
  | critical => "critical"

def FindingCategory.name : FindingCategory → String
  | network => "network"
  | http => "http"
  | tls => "tls"
  | mail => "mail"

def FindingConfidence.name : FindingConfidence → String
  | low => "low"
  | medium => "medium"
  | high => "high"

def ScoreDeduction.toJson (o : ScoreDeduction) : Json :=
  mapOf [("id", .string o.id), ("points", ofNat o.points), ("reason", .string o.reason),
    ("finding_ids", strings o.findingIds), ("target", optString o.target)]

def ScoreClassification.name : ScoreClassification → String
  | favorable => "favorable"
  | review => "review"
  | elevated => "elevated"
  | critical => "critical"

def ExposureScore.toJson (o : ExposureScore) : Json :=
  mapOf [("model_version", .string o.modelVersion), ("value", ofNat o.value),
    ("classification", .string o.classification.name),
    ("deductions", ofList ScoreDeduction.toJson o.deductions), ("incomplete", .bool o.incomplete),
    ("limitations", strings o.limitations)]

/-! ## Intelligence -/

def SubdomainObservation.toJson (o : SubdomainObservation) : Json :=
  mapOf [("name", .string o.name), ("dns", ofOption DnsObservation.toJson o.dns),
    ("error", optString o.error)]

def RelatedDomainCandidate.toJson (o : RelatedDomainCandidate) : Json :=
  mapOf [("name", .string o.name), ("matched_nameservers", strings o.matchedNameservers),
    ("confidence", .string o.confidence), ("evidence", strings o.evidence)]

def RelatedDomainsObservation.toJson (o : RelatedDomainsObservation) : Json :=
  mapOf [("nameservers", strings o.nameservers), ("provider", optString o.provider),
    ("candidates", ofList RelatedDomainCandidate.toJson o.candidates),
    ("complete", .bool o.complete), ("errors", strings o.errors)]

def CertificateTransparencyDnsStatus.name : CertificateTransparencyDnsStatus → String
  | notChecked => "not_checked"
  | resolved => "resolved"
  | noAddress => "no_address"
  | nxDomain => "nxdomain"
  | indeterminate => "indeterminate"

def CertificateTransparencyCandidate.toJson (o : CertificateTransparencyCandidate) : Json :=
  mapOf [("name", .string o.name), ("wildcard", .bool o.wildcard),
    ("issuance_count", ofNat o.issuanceCount), ("dns_status", .string o.dnsStatus.name)]

def CertificateTransparencyObservation.toJson (o : CertificateTransparencyObservation) : Json :=
  mapOf [("source", .string o.source),
    ("candidates", ofList CertificateTransparencyCandidate.toJson o.candidates),
    ("issuance_count", ofNat o.issuanceCount), ("pages_fetched", ofNat o.pagesFetched),
    ("complete", .bool o.complete), ("errors", strings o.errors)]

def NetworkRegistrationObservation.toJson (o : NetworkRegistrationObservation) : Json :=
  mapOf [("address", o.address.toJson), ("source", .string o.source),
    ("registry", .string o.registry), ("handle", optString o.handle), ("name", optString o.name),
    ("network_type", optString o.networkType),
    ("start_address", ofOption IpAddr.toJson o.startAddress),
    ("end_address", ofOption IpAddr.toJson o.endAddress),
    ("registration_country", optString o.registrationCountry), ("statuses", strings o.statuses)]

def BgpRouteObservation.toJson (o : BgpRouteObservation) : Json :=
  mapOf [("address", o.address.toJson), ("prefix", optString o.prefixText),
    ("origin_asns", ofList ofNat o.originAsns), ("source", .string o.source),
    ("complete", .bool o.complete), ("limitations", strings o.limitations)]

def DkimObservation.toJson (o : DkimObservation) : Json :=
  mapOf [("selector", .string o.selector), ("records", ofNat o.records),
    ("version", optString o.version), ("key_type", optString o.keyType),
    ("public_key_fingerprint", optString o.publicKeyFingerprint), ("revoked", .bool o.revoked),
    ("malformed", .bool o.malformed)]

def NetworkMetadata.toJson (o : NetworkMetadata) : Json :=
  mapOf [("address", o.address.toJson), ("prefix", .string o.prefixText), ("asn", optNat o.asn),
    ("organization", optString o.organization), ("country", optString o.country)]

def CveCandidate.toJson (o : CveCandidate) : Json :=
  mapOf [("cve_id", .string o.cveId), ("product", .string o.product),
    ("version", .string o.version), ("severity", .string o.severity),
    ("advisory_url", .string o.advisoryUrl), ("source", .string o.source),
    ("confidence", .string o.confidence)]

def IntelligenceObservation.toJson (o : IntelligenceObservation) : Json :=
  mapOf [("subdomains", ofList SubdomainObservation.toJson o.subdomains),
    ("dkim", ofList DkimObservation.toJson o.dkim),
    ("networks", ofList NetworkMetadata.toJson o.networks),
    ("cve_candidates", ofList CveCandidate.toJson o.cveCandidates),
    ("bundle_version", optString o.bundleVersion),
    ("related_domains", ofOption RelatedDomainsObservation.toJson o.relatedDomains),
    ("certificate_transparency",
      ofOption CertificateTransparencyObservation.toJson o.certificateTransparency),
    ("network_registrations",
      ofList NetworkRegistrationObservation.toJson o.networkRegistrations),
    ("bgp_routes", ofList BgpRouteObservation.toJson o.bgpRoutes), ("complete", .bool o.complete),
    ("errors", strings o.errors)]

end Surface

import Surface.Codec
import Surface.Report.Diff

/-!
# Surface.Report.Format

The report as a JSON document: every record described once, for writing and for reading, with its
members in the order of their declaration, the defaults of the members that older documents do not
have, and the width of every number.

* `ScanReport.codec`: a whole report, over the formats of times and of scan identifiers.
* `renderJson`, `readReport`: a document from a report and back.
* `readReport_renderJson`: what was rendered is read as the report it was rendered from.
-/

namespace Surface

open Json Codec Surface.Field

/-! ## Plain values -/

def u8 : Codec Nat := .unsigned 8 (by decide)
def u16 : Codec Nat := .unsigned 16 (by decide)
def u32 : Codec Nat := .unsigned 32 (by decide)
/-- Also the format of sizes. -/
def u64 : Codec Nat := .unsigned 64 (by decide)

def IpAddr.codec : Codec IpAddr :=
  .text IpAddr.display IpAddr.parse (fun _ => true) (fun _ => IpAddr.parse_display _) fun _ => rfl

def Ipv4Addr.codec : Codec (BitVec 32) :=
  .text IpAddr.displayV4 IpAddr.parseV4 (fun _ => true) (fun _ => IpAddr.parseV4_display _)
    fun _ => rfl

def Ipv6Addr.codec : Codec (BitVec 128) :=
  .text IpAddr.displayV6 IpAddr.parseV6 (fun _ => true) (fun _ => IpAddr.parseV6_display _)
    fun _ => rfl

def SocketAddr.codec : Codec SocketAddr :=
  .text SocketAddr.display SocketAddr.parse (fun address => decide (address.port < 65536))
    (fun h => SocketAddr.parse_display (of_decide_eq_true h))
    fun h => decide_eq_true (SocketAddr.parse_port h)

/-! ## Lifecycle -/

def ScanStatus.codec : Codec ScanStatus :=
  .enumeration ScanStatus.name [.notStarted, .completed, .partialScan, .interrupted, .failed]
    (by intro value; cases value <;> rfl)

def ScanStage.codec : Codec ScanStage :=
  .enumeration ScanStage.name [.preflight, .dns, .ports, .services, .http, .tls, .findings]
    (by intro value; cases value <;> rfl)

def ScanErrorKind.codec : Codec ScanErrorKind :=
  .enumeration ScanErrorKind.name [.configuration, .dns, .timeout, .network, .http, .tls,
    .cancelled, .authorization, .other] (by intro value; cases value <;> rfl)

def ScanError.fields : Fields ScanError :=
  (Fields.cons (required "stage" ScanStage.codec) <|
    .cons (optional "target" .string false) <|
    .cons (required "kind" ScanErrorKind.codec) <|
    .cons (required "message" .string) <|
    .cons (required "recoverable" .bool) .nil).iso
  (fun e => (e.stage, e.target, e.kind, e.message, e.recoverable, ()))
  (fun (stage, target, kind, message, recoverable, _) =>
    ⟨stage, target, kind, message, recoverable⟩) (fun _ => rfl) (fun _ => rfl)

def ScanError.codec : Codec ScanError := ScanError.fields.codec (by decide)

def NormalizedTarget.codec : Codec NormalizedTarget :=
  ((Fields.cons (required "original" .string) <|
    .cons (optional "hostname" .string false) <|
    .cons (optional "explicit_ip" IpAddr.codec false) <|
    .cons (optional "scheme" .string false) <|
    .cons (optional "explicit_port" u16 false) <|
    .cons (optional "initial_path" .string false) .nil).iso
  (fun t => (t.original, t.hostname, t.explicitIp, t.scheme, t.explicitPort, t.initialPath, ()))
  (fun (original, hostname, explicitIp, scheme, explicitPort, initialPath, _) =>
    ⟨original, hostname, explicitIp, scheme, explicitPort, initialPath⟩)
  (fun _ => rfl) (fun _ => rfl)).codec (by decide)

def ScanConfiguration.codec : Codec ScanConfiguration :=
  ((Fields.cons (required "ports" u16.list) <|
    .cons (defaulted "udp_ports" u16.list []) <|
    .cons (required "concurrency" u64) <|
    .cons (required "connect_timeout_ms" u64) <|
    .cons (required "request_timeout_ms" u64) <|
    .cons (required "global_timeout_ms" u64) <|
    .cons (required "ipv4_only" .bool) <|
    .cons (required "ipv6_only" .bool) <|
    .cons (required "authorization_acknowledged" .bool) .nil).iso
  (fun c => (c.ports, c.udpPorts, c.concurrency, c.connectTimeoutMs, c.requestTimeoutMs,
    c.globalTimeoutMs, c.ipv4Only, c.ipv6Only, c.authorizationAcknowledged, ()))
  (fun (ports, udpPorts, concurrency, connectTimeoutMs, requestTimeoutMs, globalTimeoutMs,
      ipv4Only, ipv6Only, authorizationAcknowledged, _) =>
    ⟨ports, udpPorts, concurrency, connectTimeoutMs, requestTimeoutMs, globalTimeoutMs, ipv4Only,
      ipv6Only, authorizationAcknowledged⟩)
  (fun _ => rfl) (fun _ => rfl)).codec (by decide)

def SkippedCheck.codec : Codec SkippedCheck :=
  ((Fields.cons (required "check" .string) <|
    .cons (required "reason" .string) .nil).iso
  (fun o => (o.check, o.reason, ()))
  (fun (check, reason, _) => ⟨check, reason⟩)
  (fun _ => rfl) (fun _ => rfl)).codec (by decide)

/-! ## DNS -/

def DnsRecord.mxCodec : Codec (Nat × String) :=
  ((Fields.cons (required "preference" u16) <| .cons (required "exchange" .string) .nil).iso
  (fun value => (value.1, value.2, ())) (fun (preference, exchange, _) => (preference, exchange))
  (fun _ => rfl) (fun _ => rfl)).codec (by decide)

def DnsRecord.caaCodec : Codec (Nat × String × String) :=
  ((Fields.cons (required "flags" u8) <| .cons (required "tag" .string) <|
    .cons (required "value" .string) .nil).iso
  (fun value => (value.1, value.2.1, value.2.2, ()))
  (fun (flags, tag, value, _) => (flags, tag, value)) (fun _ => rfl) (fun _ => rfl)).codec
    (by decide)

def DnsRecord.readContent (kind : String) (value : Json) : Option DnsRecord :=
  if kind = "a" then (Ipv4Addr.codec.read value).map .a
  else if kind = "aaaa" then (Ipv6Addr.codec.read value).map .aaaa
  else if kind = "cname" then (string.read value).map .cname
  else if kind = "ns" then (string.read value).map .ns
  else if kind = "mx" then (mxCodec.read value).map fun content => .mx content.1 content.2
  else if kind = "txt" then (string.read value).map .txt
  else if kind = "caa" then
    (caaCodec.read value).map fun content => .caa content.1 content.2.1 content.2.2
  else none

def DnsRecord.fits : DnsRecord → Bool
  | mx preference exchange => mxCodec.fits (preference, exchange)
  | caa flags tag value => caaCodec.fits (flags, tag, value)
  | _ => true

theorem DnsRecord.readContent_fits {kind : String} {value : Json} {record : DnsRecord}
    (h : readContent kind value = some record) : record.fits = true := by
  have hplain : ∀ {α : Type} {o : Option α} {f : α → DnsRecord}, (∀ a, (f a).fits = true) →
      o.map f = some record → record.fits = true := by
    intro α o f hf hmap
    obtain ⟨a, -, rfl⟩ := Option.map_eq_some_iff.mp hmap
    exact hf a
  unfold readContent at h
  split at h
  · exact hplain (fun _ => rfl) h
  split at h
  · exact hplain (fun _ => rfl) h
  split at h
  · exact hplain (fun _ => rfl) h
  split at h
  · exact hplain (fun _ => rfl) h
  split at h
  · obtain ⟨content, hcontent, rfl⟩ := Option.map_eq_some_iff.mp h
    exact mxCodec.read_fits hcontent
  split at h
  · exact hplain (fun _ => rfl) h
  split at h
  · obtain ⟨content, hcontent, rfl⟩ := Option.map_eq_some_iff.mp h
    exact caaCodec.read_fits hcontent
  · cases h

def DnsRecord.kind : DnsRecord → String
  | a _ => "a"
  | aaaa _ => "aaaa"
  | cname _ => "cname"
  | ns _ => "ns"
  | mx _ _ => "mx"
  | txt _ => "txt"
  | caa _ _ _ => "caa"

def DnsRecord.content : DnsRecord → Json
  | a address => Ipv4Addr.codec.write address
  | aaaa address => Ipv6Addr.codec.write address
  | cname name | ns name | txt name => .string name
  | mx preference exchange => mxCodec.write (preference, exchange)
  | caa flags tag value => caaCodec.write (flags, tag, value)

theorem DnsRecord.tagged_object (record : DnsRecord) :
    record.tagged .object = .object [("type", .string record.kind), ("value", record.content)] := by
  cases record <;> rfl

theorem DnsRecord.readContent_content {record : DnsRecord} (h : record.fits = true) :
    readContent record.kind record.content = some record := by
  cases record with
  | a address =>
    rw [content, kind, readContent, if_pos rfl, Ipv4Addr.codec.read_write rfl]
    rfl
  | aaaa address =>
    rw [content, kind, readContent, if_neg (by decide), if_pos rfl, Ipv6Addr.codec.read_write rfl]
    rfl
  | cname name => rfl
  | ns name => rfl
  | mx preference exchange =>
    have hread : readContent "mx" (mxCodec.write (preference, exchange)) =
      (mxCodec.read (mxCodec.write (preference, exchange))).map fun value => .mx value.1 value.2 :=
      rfl
    rw [content, kind, hread, mxCodec.read_write h]
    rfl
  | txt value => rfl
  | caa flags tag value =>
    have hread : readContent "caa" (caaCodec.write (flags, tag, value)) =
      (caaCodec.read (caaCodec.write (flags, tag, value))).map fun content =>
        .caa content.1 content.2.1 content.2.2 := rfl
    rw [content, kind, hread, caaCodec.read_write h]
    rfl

theorem DnsRecord.content_readable {record : DnsRecord} (h : record.fits = true) :
    readable 1 record.content = true := by
  cases record with
  | mx preference exchange =>
    exact mxCodec.readable_write h
  | caa flags tag value =>
    exact caaCodec.readable_write h
  | _ => rfl

def DnsRecord.codec : Codec DnsRecord where
  write := DnsRecord.tagged .object
  read j := (readAdjacent "type" "value" j).bind fun tagged =>
    DnsRecord.readContent tagged.1 tagged.2
  fits := DnsRecord.fits
  depth := 2
  read_write {record} h := by
    rw [DnsRecord.tagged_object, readAdjacent_object (by decide)]
    exact DnsRecord.readContent_content h
  read_fits h := by
    obtain ⟨tagged, -, h⟩ := Option.bind_eq_some_iff.mp h
    exact DnsRecord.readContent_fits h
  write_ne_null record := by
    rw [DnsRecord.tagged_object]
    exact fun h => by cases h
  readable_write {record} h := by
    rw [DnsRecord.tagged_object]
    refine readable_object fun member hmember => ?_
    rcases List.mem_cons.mp hmember with rfl | hmember
    · rfl
    · rw [List.mem_singleton.mp hmember]
      exact DnsRecord.content_readable h

def AddressSource.codec : Codec AddressSource :=
  .enumeration AddressSource.name [.explicit, .aRecord, .aaaaRecord]
    (by intro value; cases value <;> rfl)

def CnameHop.codec : Codec CnameHop :=
  ((Fields.cons (required "from" .string) <|
    .cons (required "to" .string) .nil).iso
  (fun o => (o.source, o.destination, ()))
  (fun (source, destination, _) => ⟨source, destination⟩)
  (fun _ => rfl) (fun _ => rfl)).codec (by decide)

def DanglingCnameStatus.codec : Codec DanglingCnameStatus :=
  .enumeration DanglingCnameStatus.name [.resolved, .nxDomain, .noAddress, .indeterminate]
    (by intro value; cases value <;> rfl)

def DanglingCnameObservation.codec : Codec DanglingCnameObservation :=
  ((Fields.cons (defaulted "source_alias" .string "") <|
    .cons (defaulted "canonical_target" .string "") <|
    .cons (defaulted "status" DanglingCnameStatus.codec .indeterminate) <|
    .cons (defaulted "evidence" string.list []) <|
    .cons (defaulted "errors" string.list []) <|
    .cons (defaulted "limitations" string.list []) .nil).iso
  (fun o => (o.sourceAlias, o.canonicalTarget, o.status, o.evidence, o.errors, o.limitations, ()))
  (fun (sourceAlias, canonicalTarget, status, evidence, errors, limitations, _) =>
    ⟨sourceAlias, canonicalTarget, status, evidence, errors, limitations⟩)
  (fun _ => rfl) (fun _ => rfl)).codec (by decide)

def ResolvedHost.codec : Codec ResolvedHost :=
  ((Fields.cons (optional "hostname" .string false) <|
    .cons (required "ip" IpAddr.codec) <|
    .cons (required "source" AddressSource.codec) .nil).iso
  (fun o => (o.hostname, o.ip, o.source, ()))
  (fun (hostname, ip, source, _) => ⟨hostname, ip, source⟩)
  (fun _ => rfl) (fun _ => rfl)).codec (by decide)

def SpfObservation.codec : Codec SpfObservation :=
  ((Fields.cons (required "records" string.list) <|
    .cons (optional "terminal_policy" .string false) .nil).iso
  (fun o => (o.records, o.terminalPolicy, ()))
  (fun (records, terminalPolicy, _) => ⟨records, terminalPolicy⟩)
  (fun _ => rfl) (fun _ => rfl)).codec (by decide)

def DmarcObservation.codec : Codec DmarcObservation :=
  ((Fields.cons (required "record" .string) <|
    .cons (optional "policy" .string false) <|
    .cons (optional "subdomain_policy" .string false) <|
    .cons (optional "percentage" u8 false) <|
    .cons (required "aggregate_reports" string.list) <|
    .cons (optional "adkim" .string false) <|
    .cons (optional "aspf" .string false) .nil).iso
  (fun o => (o.record, o.policy, o.subdomainPolicy, o.percentage, o.aggregateReports, o.adkim,
    o.aspf, ()))
  (fun (record, policy, subdomainPolicy, percentage, aggregateReports, adkim, aspf, _) =>
    ⟨record, policy, subdomainPolicy, percentage, aggregateReports, adkim, aspf⟩)
  (fun _ => rfl) (fun _ => rfl)).codec (by decide)

def MailObservation.codec : Codec MailObservation :=
  ((Fields.cons (required "mx_present" .bool) <|
    .cons (required "spf" SpfObservation.codec) <|
    .cons (required "dmarc" DmarcObservation.codec.list) <|
    .cons (required "mta_sts" string.list) <|
    .cons (optional "mta_sts_policy_available" .bool false) <|
    .cons (required "tls_rpt" string.list) .nil).iso
  (fun o => (o.mxPresent, o.spf, o.dmarc, o.mtaSts, o.mtaStsPolicyAvailable, o.tlsRpt, ()))
  (fun (mxPresent, spf, dmarc, mtaSts, mtaStsPolicyAvailable, tlsRpt, _) =>
    ⟨mxPresent, spf, dmarc, mtaSts, mtaStsPolicyAvailable, tlsRpt⟩)
  (fun _ => rfl) (fun _ => rfl)).codec (by decide)

def DnssecStatus.codec : Codec DnssecStatus :=
  .enumeration DnssecStatus.name [.secure, .insecure, .bogus, .indeterminate, .notApplicable]
    (by intro value; cases value <;> rfl)

def DnssecRecordType.codec : Codec DnssecRecordType :=
  .enumeration DnssecRecordType.name [.a, .aaaa] (by intro value; cases value <;> rfl)

def DnssecRrsetObservation.codec : Codec DnssecRrsetObservation :=
  ((Fields.cons (required "name" .string) <|
    .cons (required "record_type" DnssecRecordType.codec) <|
    .cons (required "status" DnssecStatus.codec) .nil).iso
  (fun o => (o.name, o.recordType, o.status, ()))
  (fun (name, recordType, status, _) => ⟨name, recordType, status⟩)
  (fun _ => rfl) (fun _ => rfl)).codec (by decide)

def DnssecObservation.codec : Codec DnssecObservation :=
  ((Fields.cons (defaulted "status" DnssecStatus.codec .indeterminate) <|
    .cons (defaulted "checked_rrsets" DnssecRrsetObservation.codec.list []) <|
    .cons (defaulted "errors" string.list []) <|
    .cons (defaulted "limitations" string.list []) .nil).iso
  (fun o => (o.status, o.checkedRrsets, o.errors, o.limitations, ()))
  (fun (status, checkedRrsets, errors, limitations, _) =>
    ⟨status, checkedRrsets, errors, limitations⟩)
  (fun _ => rfl) (fun _ => rfl)).codec (by decide)

def WildcardDnsStatus.codec : Codec WildcardDnsStatus :=
  .enumeration WildcardDnsStatus.name [.detected, .notDetected, .indeterminate, .notApplicable]
    (by intro value; cases value <;> rfl)

def WildcardDnsRecordType.codec : Codec WildcardDnsRecordType :=
  .enumeration WildcardDnsRecordType.name [.a, .aaaa, .cname] (by intro value; cases value <;> rfl)

def WildcardDnsObservation.codec : Codec WildcardDnsObservation :=
  ((Fields.cons (defaulted "status" WildcardDnsStatus.codec .indeterminate) <|
    .cons (defaulted "probes_attempted" u8 0) <|
    .cons (defaulted "answer_types" WildcardDnsRecordType.codec.list []) <|
    .cons (defaulted "answer_fingerprints" string.list []) <|
    .cons (defaulted "errors" string.list []) <|
    .cons (defaulted "limitations" string.list []) <|
    .cons (defaulted "probe_answers_scanned" .bool false) .nil).iso
  (fun o => (o.status, o.probesAttempted, o.answerTypes, o.answerFingerprints, o.errors,
    o.limitations, o.probeAnswersScanned, ()))
  (fun (status, probesAttempted, answerTypes, answerFingerprints, errors, limitations,
      probeAnswersScanned, _) =>
    ⟨status, probesAttempted, answerTypes, answerFingerprints, errors, limitations,
      probeAnswersScanned⟩)
  (fun _ => rfl) (fun _ => rfl)).codec (by decide)

def AxfrOutcome.codec : Codec AxfrOutcome :=
  .enumeration AxfrOutcome.name [.allowed, .refused, .notAuthoritative, .incomplete, .unreachable,
    .timeout, .cancelled, .limitExceeded] (by intro value; cases value <;> rfl)

def AxfrLimits.codec : Codec AxfrLimits :=
  ((Fields.cons (defaulted "nameservers" u64 maxAxfrNameservers) <|
    .cons (defaulted "ips_per_nameserver" u64 maxAxfrIpsPerNameserver) <|
    .cons (defaulted "endpoints" u64 maxAxfrEndpoints) <|
    .cons (defaulted "bytes" u64 maxAxfrBytes) <|
    .cons (defaulted "records" u64 maxAxfrRecords) <|
    .cons (defaulted "messages" u64 maxAxfrMessages) .nil).iso
  (fun o => (o.nameservers, o.ipsPerNameserver, o.endpoints, o.bytes, o.records, o.messages, ()))
  (fun (nameservers, ipsPerNameserver, endpoints, bytes, records, messages, _) =>
    ⟨nameservers, ipsPerNameserver, endpoints, bytes, records, messages⟩)
  (fun _ => rfl) (fun _ => rfl)).codec (by decide)

def AxfrAttempt.codec : Codec AxfrAttempt :=
  ((Fields.cons (required "server" .string) <|
    .cons (required "endpoint" SocketAddr.codec) <|
    .cons (required "outcome" AxfrOutcome.codec) <|
    .cons (optional "response_code" .string false) <|
    .cons (required "messages" u64) <|
    .cons (required "records" u64) <|
    .cons (required "bytes" u64) <|
    .cons (optional "error" .string false) .nil).iso
  (fun o => (o.server, o.endpoint, o.outcome, o.responseCode, o.messages, o.records, o.bytes,
    o.error, ()))
  (fun (server, endpoint, outcome, responseCode, messages, records, bytes, error, _) =>
    ⟨server, endpoint, outcome, responseCode, messages, records, bytes, error⟩)
  (fun _ => rfl) (fun _ => rfl)).codec (by decide)

def AuthoritativeAxfrObservation.codec : Codec AuthoritativeAxfrObservation :=
  ((Fields.cons (defaulted "zone" .string "") <|
    .cons (defaulted "nameservers" string.list []) <|
    .cons (defaulted "attempts" AxfrAttempt.codec.list []) <|
    .cons (defaulted "limits" AxfrLimits.codec {}) <|
    .cons (defaulted "transferred_records_retained" .bool false) <|
    .cons (defaulted "transferred_owner_names_retained" .bool false) <|
    .cons (defaulted "transferred_owner_names_scanned" .bool false) .nil).iso
  (fun o => (o.zone, o.nameservers, o.attempts, o.limits, o.transferredRecordsRetained,
    o.transferredOwnerNamesRetained, o.transferredOwnerNamesScanned, ()))
  (fun (zone, nameservers, attempts, limits, transferredRecordsRetained,
      transferredOwnerNamesRetained, transferredOwnerNamesScanned, _) =>
    ⟨zone, nameservers, attempts, limits, transferredRecordsRetained, transferredOwnerNamesRetained,
      transferredOwnerNamesScanned⟩)
  (fun _ => rfl) (fun _ => rfl)).codec (by decide)

def DnsObservation.codec : Codec DnsObservation :=
  ((Fields.cons (required "queried_name" .string) <|
    .cons (required "records" DnsRecord.codec.list) <|
    .cons (defaulted "cname_chain" CnameHop.codec.list []) <|
    .cons (defaulted "dangling_cnames" DanglingCnameObservation.codec.list []) <|
    .cons (required "resolved_hosts" ResolvedHost.codec.list) <|
    .cons (required "mail" MailObservation.codec) <|
    .cons (optional "dnssec" DnssecObservation.codec true) <|
    .cons (optional "authoritative_axfr" AuthoritativeAxfrObservation.codec true) <|
    .cons (optional "wildcard_dns" WildcardDnsObservation.codec true) <|
    .cons (required "errors" ScanError.codec.list) .nil).iso
  (fun o => (o.queriedName, o.records, o.cnameChain, o.danglingCnames, o.resolvedHosts, o.mail,
    o.dnssec, o.authoritativeAxfr, o.wildcardDns, o.errors, ()))
  (fun (queriedName, records, cnameChain, danglingCnames, resolvedHosts, mail, dnssec,
      authoritativeAxfr, wildcardDns, errors, _) =>
    ⟨queriedName, records, cnameChain, danglingCnames, resolvedHosts, mail, dnssec,
      authoritativeAxfr, wildcardDns, errors⟩)
  (fun _ => rfl) (fun _ => rfl)).codec (by decide)

/-! ## Hosts and services -/

def TransportProtocol.codec : Codec TransportProtocol :=
  .enumeration TransportProtocol.name [.tcp, .udp] (by intro value; cases value <;> rfl)

def PortState.codec : Codec PortState :=
  .enumeration PortState.name [.open, .closed, .openFiltered, .timedOut, .unreachable, .error,
    .cancelled] (by intro value; cases value <;> rfl)

def PortObservation.codec : Codec PortObservation :=
  ((Fields.cons (defaulted "transport" TransportProtocol.codec .tcp) <|
    .cons (required "address" SocketAddr.codec) <|
    .cons (required "state" PortState.codec) <|
    .cons (optional "latency_ms" u64 false) <|
    .cons (optional "error" .string false) .nil).iso
  (fun o => (o.transport, o.address, o.state, o.latencyMs, o.error, ()))
  (fun (transport, address, state, latencyMs, error, _) =>
    ⟨transport, address, state, latencyMs, error⟩)
  (fun _ => rfl) (fun _ => rfl)).codec (by decide)

def HostObservation.codec : Codec HostObservation :=
  ((Fields.cons (required "ip" IpAddr.codec) <|
    .cons (required "ports" PortObservation.codec.list) .nil).iso
  (fun o => (o.ip, o.ports, ()))
  (fun (ip, ports, _) => ⟨ip, ports⟩)
  (fun _ => rfl) (fun _ => rfl)).codec (by decide)

def ServiceKind.codec : Codec ServiceKind :=
  .enumeration ServiceKind.name [.http, .https, .ssh, .smtp, .smtps, .ftp, .imap, .imaps, .pop3,
    .pop3s, .dns, .redis, .mysql, .postgresql, .mqtt, .mssql, .oracle, .mongodb, .memcached,
    .elasticsearch, .rabbitmq, .kafka, .cassandra, .clickhouse, .neo4j, .smb, .nfs, .rdp, .vnc,
    .docker, .kubernetes, .prometheus, .grafana, .wireguard, .stunTurn, .netbird, .minecraftJava,
    .minecraftBedrock, .terraria, .valheim, .factorio, .sourceEngine, .tls, .unknown]
    (by intro value; cases value <;> rfl)

def DetectionConfidence.codec : Codec DetectionConfidence :=
  .enumeration DetectionConfidence.name [.low, .medium, .high] (by intro value; cases value <;> rfl)

def SshIdentification.codec : Codec SshIdentification :=
  ((Fields.cons (required "protocol" .string) <|
    .cons (required "software" .string) .nil).iso
  (fun o => (o.protocol, o.software, ()))
  (fun (protocol, software, _) => ⟨protocol, software⟩)
  (fun _ => rfl) (fun _ => rfl)).codec (by decide)

def SshAlgorithmSelections.codec : Codec SshAlgorithmSelections :=
  ((Fields.cons (required "kex" .string) <|
    .cons (required "host_key" .string) <|
    .cons (required "cipher_c2s" .string) <|
    .cons (required "cipher_s2c" .string) <|
    .cons (required "mac_c2s" .string) <|
    .cons (required "mac_s2c" .string) .nil).iso
  (fun o => (o.kex, o.hostKey, o.cipherC2s, o.cipherS2c, o.macC2s, o.macS2c, ()))
  (fun (kex, hostKey, cipherC2s, cipherS2c, macC2s, macS2c, _) =>
    ⟨kex, hostKey, cipherC2s, cipherS2c, macC2s, macS2c⟩)
  (fun _ => rfl) (fun _ => rfl)).codec (by decide)

def PartialSshAlgorithmSelections.codec : Codec PartialSshAlgorithmSelections :=
  ((Fields.cons (optional "kex" .string false) <|
    .cons (optional "host_key" .string false) <|
    .cons (optional "cipher_c2s" .string false) <|
    .cons (optional "cipher_s2c" .string false) <|
    .cons (optional "mac_c2s" .string false) <|
    .cons (optional "mac_s2c" .string false) .nil).iso
  (fun o => (o.kex, o.hostKey, o.cipherC2s, o.cipherS2c, o.macC2s, o.macS2c, ()))
  (fun (kex, hostKey, cipherC2s, cipherS2c, macC2s, macS2c, _) =>
    ⟨kex, hostKey, cipherC2s, cipherS2c, macC2s, macS2c⟩)
  (fun _ => rfl) (fun _ => rfl)).codec (by decide)

def SshPostureOutcome.completeFields : Fields SshAlgorithmSelections :=
  (Fields.cons (required "selections" SshAlgorithmSelections.codec) .nil).iso
  (fun selections => (selections, ())) Prod.fst (fun _ => rfl) (fun _ => rfl)

def SshPostureOutcome.partialFields : Fields (PartialSshAlgorithmSelections × String) :=
  (Fields.cons (required "selections" PartialSshAlgorithmSelections.codec) <|
    .cons (required "reason" .string) .nil).iso
  (fun value => (value.1, value.2, ())) (fun (selections, reason, _) => (selections, reason))
  (fun _ => rfl) (fun _ => rfl)

def SshPostureOutcome.indeterminateFields : Fields String :=
  (Fields.cons (required "reason" .string) .nil).iso (fun reason => (reason, ())) Prod.fst
  (fun _ => rfl) (fun _ => rfl)

def SshPostureOutcome.completeCodec := completeFields.codec (by decide)

def SshPostureOutcome.partialCodec := partialFields.codec (by decide)

def SshPostureOutcome.indeterminateCodec := indeterminateFields.codec (by decide)

def SshPostureOutcome.tag : SshPostureOutcome → String
  | complete _ => "complete"
  | partialPosture _ _ => "partial"
  | indeterminate _ => "indeterminate"

def SshPostureOutcome.members : SshPostureOutcome → List (String × Json)
  | complete selections => completeFields.write selections
  | partialPosture selections reason => partialFields.write (selections, reason)
  | indeterminate reason => indeterminateFields.write reason

def SshPostureOutcome.readContent (status : String) (content : Json) : Option SshPostureOutcome :=
  if status = "complete" then (completeCodec.read content).map .complete
  else if status = "partial" then
    (partialCodec.read content).map fun value => .partialPosture value.1 value.2
  else if status = "indeterminate" then (indeterminateCodec.read content).map .indeterminate
  else none

def SshPostureOutcome.fits : SshPostureOutcome → Bool
  | complete selections => completeCodec.fits selections
  | partialPosture selections reason => partialCodec.fits (selections, reason)
  | indeterminate reason => indeterminateCodec.fits reason

theorem SshPostureOutcome.readContent_fits {status : String} {content : Json}
    {outcome : SshPostureOutcome} (h : readContent status content = some outcome) :
    outcome.fits = true := by
  unfold readContent at h
  split at h
  · obtain ⟨selections, hread, rfl⟩ := Option.map_eq_some_iff.mp h
    exact completeCodec.read_fits hread
  split at h
  · obtain ⟨value, hread, rfl⟩ := Option.map_eq_some_iff.mp h
    exact partialCodec.read_fits hread
  split at h
  · obtain ⟨reason, hread, rfl⟩ := Option.map_eq_some_iff.mp h
    exact indeterminateCodec.read_fits hread
  · cases h

theorem SshPostureOutcome.readContent_members {outcome : SshPostureOutcome}
    (h : outcome.fits = true) :
    readContent outcome.tag (.object outcome.members) = some outcome := by
  cases outcome with
  | complete selections =>
    exact congrArg (Option.map SshPostureOutcome.complete) (completeCodec.read_write h)
  | partialPosture selections reason =>
    exact congrArg (Option.map fun value : PartialSshAlgorithmSelections × String =>
      SshPostureOutcome.partialPosture value.1 value.2) (partialCodec.read_write h)
  | indeterminate reason =>
    exact congrArg (Option.map SshPostureOutcome.indeterminate) (indeterminateCodec.read_write h)

theorem SshPostureOutcome.tag_notMem (outcome : SshPostureOutcome) :
    "status" ∉ outcome.members.map Prod.fst := by
  cases outcome with
  | complete selections =>
    exact fun h => absurd ((completeFields.write_names selections).subset h) (by decide)
  | partialPosture selections reason =>
    exact fun h => absurd ((partialFields.write_names (selections, reason)).subset h) (by decide)
  | indeterminate reason =>
    exact fun h => absurd ((indeterminateFields.write_names reason).subset h) (by decide)

theorem SshPostureOutcome.members_readable {outcome : SshPostureOutcome}
    (h : outcome.fits = true) : ∀ member ∈ outcome.members, readable 1 member.2 = true := by
  cases outcome with
  | complete selections => exact completeFields.readable_write h
  | partialPosture selections reason => exact partialFields.readable_write h
  | indeterminate reason =>
    exact fun member hmember =>
      readable_mono (Nat.zero_le 1) (indeterminateFields.readable_write h member hmember)

def SshPostureOutcome.codec : Codec SshPostureOutcome where
  write outcome := .object (("status", .string outcome.tag) :: outcome.members)
  read j := (readInternal "status" j).bind fun tagged =>
    SshPostureOutcome.readContent tagged.1 tagged.2
  fits := SshPostureOutcome.fits
  depth := 2
  read_write {outcome} h := by
    rw [readInternal_object _ outcome.tag_notMem]
    exact SshPostureOutcome.readContent_members h
  read_fits h := by
    obtain ⟨tagged, -, h⟩ := Option.bind_eq_some_iff.mp h
    exact SshPostureOutcome.readContent_fits h
  write_ne_null _ := fun h => by cases h
  readable_write {outcome} h := by
    refine readable_object fun member hmember => ?_
    rcases List.mem_cons.mp hmember with rfl | hmember
    · rfl
    · exact SshPostureOutcome.members_readable h member hmember

def SshPosture.codec : Codec SshPosture :=
  ((Fields.cons (optional "identification" SshIdentification.codec false) <|
    .cons (required "outcome" SshPostureOutcome.codec) .nil).iso
  (fun o => (o.identification, o.outcome, ()))
  (fun (identification, outcome, _) => ⟨identification, outcome⟩)
  (fun _ => rfl) (fun _ => rfl)).codec (by decide)

def ServiceObservation.codec : Codec ServiceObservation :=
  ((Fields.cons (defaulted "transport" TransportProtocol.codec .tcp) <|
    .cons (required "address" SocketAddr.codec) <|
    .cons (required "service" ServiceKind.codec) <|
    .cons (required "confidence" DetectionConfidence.codec) <|
    .cons (optional "banner" .string false) <|
    .cons (required "protocol_details" string.map) <|
    .cons (skipped "ssh" SshPosture.codec) .nil).iso
  (fun o => (o.transport, o.address, o.service, o.confidence, o.banner, o.protocolDetails, o.ssh,
    ()))
  (fun (transport, address, service, confidence, banner, protocolDetails, ssh, _) =>
    ⟨transport, address, service, confidence, banner, protocolDetails, ssh⟩)
  (fun _ => rfl) (fun _ => rfl)).codec (by decide)

/-! ## HTTP and TLS -/

def CookieObservation.codec : Codec CookieObservation :=
  ((Fields.cons (required "name" .string) <|
    .cons (required "secure" .bool) <|
    .cons (required "http_only" .bool) <|
    .cons (optional "same_site" .string false) <|
    .cons (optional "domain" .string false) <|
    .cons (optional "path" .string false) .nil).iso
  (fun o => (o.name, o.secure, o.httpOnly, o.sameSite, o.domain, o.path, ()))
  (fun (name, secure, httpOnly, sameSite, domain, path, _) =>
    ⟨name, secure, httpOnly, sameSite, domain, path⟩)
  (fun _ => rfl) (fun _ => rfl)).codec (by decide)

def RedirectObservation.codec : Codec RedirectObservation :=
  ((Fields.cons (required "from" .string) <|
    .cons (required "status" u16) <|
    .cons (required "to" .string) .nil).iso
  (fun o => (o.source, o.status, o.destination, ()))
  (fun (source, status, destination, _) => ⟨source, status, destination⟩)
  (fun _ => rfl) (fun _ => rfl)).codec (by decide)

def HttpObservation.codec : Codec HttpObservation :=
  ((Fields.cons (required "address" SocketAddr.codec) <|
    .cons (required "url" .string) <|
    .cons (optional "final_url" .string false) <|
    .cons (optional "status" u16 false) <|
    .cons (optional "version" .string false) <|
    .cons (optional "latency_ms" u64 false) <|
    .cons (required "redirects" RedirectObservation.codec.list) <|
    .cons (required "headers" string.map) <|
    .cons (required "cookies" CookieObservation.codec.list) <|
    .cons (optional "title" .string false) <|
    .cons (required "body_bytes" u64) <|
    .cons (required "body_truncated" .bool) <|
    .cons (optional "robots_txt" .bool false) <|
    .cons (optional "security_txt" .bool false) <|
    .cons (optional "sitemap_xml" .bool false) <|
    .cons (optional "error" .string false) .nil).iso
  (fun o => (o.address, o.url, o.finalUrl, o.status, o.version, o.latencyMs, o.redirects, o.headers,
    o.cookies, o.title, o.bodyBytes, o.bodyTruncated, o.robotsTxt, o.securityTxt, o.sitemapXml,
    o.error, ()))
  (fun (address, url, finalUrl, status, version, latencyMs, redirects, headers, cookies, title,
      bodyBytes, bodyTruncated, robotsTxt, securityTxt, sitemapXml, error, _) =>
    ⟨address, url, finalUrl, status, version, latencyMs, redirects, headers, cookies, title,
      bodyBytes, bodyTruncated, robotsTxt, securityTxt, sitemapXml, error⟩)
  (fun _ => rfl) (fun _ => rfl)).codec (by decide)

def TlsObservation.codec : Codec TlsObservation :=
  ((Fields.cons (required "address" SocketAddr.codec) <|
    .cons (required "server_name" .string) <|
    .cons (required "handshake_succeeded" .bool) <|
    .cons (optional "certificate_trusted" .bool false) <|
    .cons (optional "hostname_matches" .bool false) <|
    .cons (optional "protocol_version" .string false) <|
    .cons (optional "cipher_suite" .string true) <|
    .cons (optional "alpn" .string false) <|
    .cons (optional "certificate_chain_length" u64 true) <|
    .cons (optional "leaf_certificate_sha256" .string true) <|
    .cons (optional "subject" .string false) <|
    .cons (optional "issuer" .string false) <|
    .cons (optional "serial_number" .string false) <|
    .cons (optional "valid_from_unix" signed false) <|
    .cons (optional "valid_until_unix" signed false) <|
    .cons (required "subject_alt_names" string.list) <|
    .cons (defaulted "subject_alt_names_truncated" .bool false) <|
    .cons (optional "public_key_algorithm" .string false) <|
    .cons (optional "public_key_bits" u64 true) <|
    .cons (optional "signature_algorithm" .string false) <|
    .cons (required "errors" string.list) .nil).iso
  (fun o => (o.address, o.serverName, o.handshakeSucceeded, o.certificateTrusted, o.hostnameMatches,
    o.protocolVersion, o.cipherSuite, o.alpn, o.certificateChainLength, o.leafCertificateSha256,
    o.subject, o.issuer, o.serialNumber, o.validFromUnix, o.validUntilUnix, o.subjectAltNames,
    o.subjectAltNamesTruncated, o.publicKeyAlgorithm, o.publicKeyBits, o.signatureAlgorithm,
    o.errors, ()))
  (fun (address, serverName, handshakeSucceeded, certificateTrusted, hostnameMatches,
      protocolVersion, cipherSuite, alpn, certificateChainLength, leafCertificateSha256, subject,
      issuer, serialNumber, validFromUnix, validUntilUnix, subjectAltNames,
      subjectAltNamesTruncated, publicKeyAlgorithm, publicKeyBits, signatureAlgorithm, errors, _) =>
    ⟨address, serverName, handshakeSucceeded, certificateTrusted, hostnameMatches, protocolVersion,
      cipherSuite, alpn, certificateChainLength, leafCertificateSha256, subject, issuer,
      serialNumber, validFromUnix, validUntilUnix, subjectAltNames, subjectAltNamesTruncated,
      publicKeyAlgorithm, publicKeyBits, signatureAlgorithm, errors⟩)
  (fun _ => rfl) (fun _ => rfl)).codec (by decide)

/-! ## Findings and score -/

def Severity.codec : Codec Severity :=
  .enumeration Severity.name [.info, .low, .medium, .high, .critical]
    (by intro value; cases value <;> rfl)

def FindingCategory.codec : Codec FindingCategory :=
  .enumeration FindingCategory.name [.network, .http, .tls, .mail]
    (by intro value; cases value <;> rfl)

def FindingConfidence.codec : Codec FindingConfidence :=
  .enumeration FindingConfidence.name [.low, .medium, .high] (by intro value; cases value <;> rfl)

def Evidence.codec : Codec Evidence :=
  ((Fields.cons (required "location" .string) <|
    .cons (required "observed" .string) .nil).iso
  (fun o => (o.location, o.observed, ()))
  (fun (location, observed, _) => ⟨location, observed⟩)
  (fun _ => rfl) (fun _ => rfl)).codec (by decide)

def Finding.codec : Codec Finding :=
  ((Fields.cons (required "id" .string) <|
    .cons (required "title" .string) <|
    .cons (required "severity" Severity.codec) <|
    .cons (required "category" FindingCategory.codec) <|
    .cons (required "target" .string) <|
    .cons (required "description" .string) <|
    .cons (required "evidence" Evidence.codec.list) <|
    .cons (optional "remediation" .string false) <|
    .cons (required "references" string.list) <|
    .cons (required "confidence" FindingConfidence.codec) .nil).iso
  (fun o => (o.id, o.title, o.severity, o.category, o.target, o.description, o.evidence,
    o.remediation, o.references, o.confidence, ()))
  (fun (id, title, severity, category, target, description, evidence, remediation, references,
      confidence, _) =>
    ⟨id, title, severity, category, target, description, evidence, remediation, references,
      confidence⟩)
  (fun _ => rfl) (fun _ => rfl)).codec (by decide)

def ScoreDeduction.codec : Codec ScoreDeduction :=
  ((Fields.cons (required "id" .string) <|
    .cons (required "points" u8) <|
    .cons (required "reason" .string) <|
    .cons (required "finding_ids" string.list) <|
    .cons (optional "target" .string false) .nil).iso
  (fun o => (o.id, o.points, o.reason, o.findingIds, o.target, ()))
  (fun (id, points, reason, findingIds, target, _) => ⟨id, points, reason, findingIds, target⟩)
  (fun _ => rfl) (fun _ => rfl)).codec (by decide)

def ScoreClassification.codec : Codec ScoreClassification :=
  .enumeration ScoreClassification.name [.favorable, .review, .elevated, .critical]
    (by intro value; cases value <;> rfl)

def ExposureScore.codec : Codec ExposureScore :=
  ((Fields.cons (required "model_version" .string) <|
    .cons (required "value" u8) <|
    .cons (required "classification" ScoreClassification.codec) <|
    .cons (required "deductions" ScoreDeduction.codec.list) <|
    .cons (required "incomplete" .bool) <|
    .cons (required "limitations" string.list) .nil).iso
  (fun o => (o.modelVersion, o.value, o.classification, o.deductions, o.incomplete, o.limitations,
    ()))
  (fun (modelVersion, value, classification, deductions, incomplete, limitations, _) =>
    ⟨modelVersion, value, classification, deductions, incomplete, limitations⟩)
  (fun _ => rfl) (fun _ => rfl)).codec (by decide)

/-! ## Intelligence -/

def SubdomainObservation.codec : Codec SubdomainObservation :=
  ((Fields.cons (required "name" .string) <|
    .cons (optional "dns" DnsObservation.codec false) <|
    .cons (optional "error" .string false) .nil).iso
  (fun o => (o.name, o.dns, o.error, ()))
  (fun (name, dns, error, _) => ⟨name, dns, error⟩)
  (fun _ => rfl) (fun _ => rfl)).codec (by decide)

def RelatedDomainCandidate.codec : Codec RelatedDomainCandidate :=
  ((Fields.cons (required "name" .string) <|
    .cons (required "matched_nameservers" string.list) <|
    .cons (required "confidence" .string) <|
    .cons (required "evidence" string.list) .nil).iso
  (fun o => (o.name, o.matchedNameservers, o.confidence, o.evidence, ()))
  (fun (name, matchedNameservers, confidence, evidence, _) =>
    ⟨name, matchedNameservers, confidence, evidence⟩)
  (fun _ => rfl) (fun _ => rfl)).codec (by decide)

def RelatedDomainsObservation.codec : Codec RelatedDomainsObservation :=
  ((Fields.cons (required "nameservers" string.list) <|
    .cons (optional "provider" .string false) <|
    .cons (required "candidates" RelatedDomainCandidate.codec.list) <|
    .cons (required "complete" .bool) <|
    .cons (required "errors" string.list) .nil).iso
  (fun o => (o.nameservers, o.provider, o.candidates, o.complete, o.errors, ()))
  (fun (nameservers, provider, candidates, complete, errors, _) =>
    ⟨nameservers, provider, candidates, complete, errors⟩)
  (fun _ => rfl) (fun _ => rfl)).codec (by decide)

def CertificateTransparencyDnsStatus.codec : Codec CertificateTransparencyDnsStatus :=
  .enumeration CertificateTransparencyDnsStatus.name [.notChecked, .resolved, .noAddress, .nxDomain,
    .indeterminate] (by intro value; cases value <;> rfl)

def CertificateTransparencyCandidate.codec : Codec CertificateTransparencyCandidate :=
  ((Fields.cons (required "name" .string) <|
    .cons (required "wildcard" .bool) <|
    .cons (required "issuance_count" u64) <|
    .cons (defaulted "dns_status" CertificateTransparencyDnsStatus.codec .notChecked) .nil).iso
  (fun o => (o.name, o.wildcard, o.issuanceCount, o.dnsStatus, ()))
  (fun (name, wildcard, issuanceCount, dnsStatus, _) => ⟨name, wildcard, issuanceCount, dnsStatus⟩)
  (fun _ => rfl) (fun _ => rfl)).codec (by decide)

def CertificateTransparencyObservation.codec : Codec CertificateTransparencyObservation :=
  ((Fields.cons (required "source" .string) <|
    .cons (required "candidates" CertificateTransparencyCandidate.codec.list) <|
    .cons (required "issuance_count" u64) <|
    .cons (required "pages_fetched" u64) <|
    .cons (required "complete" .bool) <|
    .cons (required "errors" string.list) .nil).iso
  (fun o => (o.source, o.candidates, o.issuanceCount, o.pagesFetched, o.complete, o.errors, ()))
  (fun (source, candidates, issuanceCount, pagesFetched, complete, errors, _) =>
    ⟨source, candidates, issuanceCount, pagesFetched, complete, errors⟩)
  (fun _ => rfl) (fun _ => rfl)).codec (by decide)

def NetworkRegistrationObservation.codec : Codec NetworkRegistrationObservation :=
  ((Fields.cons (required "address" IpAddr.codec) <|
    .cons (required "source" .string) <|
    .cons (required "registry" .string) <|
    .cons (optional "handle" .string false) <|
    .cons (optional "name" .string false) <|
    .cons (optional "network_type" .string false) <|
    .cons (optional "start_address" IpAddr.codec false) <|
    .cons (optional "end_address" IpAddr.codec false) <|
    .cons (optional "registration_country" .string false) <|
    .cons (required "statuses" string.list) .nil).iso
  (fun o => (o.address, o.source, o.registry, o.handle, o.name, o.networkType, o.startAddress,
    o.endAddress, o.registrationCountry, o.statuses, ()))
  (fun (address, source, registry, handle, name, networkType, startAddress, endAddress,
      registrationCountry, statuses, _) =>
    ⟨address, source, registry, handle, name, networkType, startAddress, endAddress,
      registrationCountry, statuses⟩)
  (fun _ => rfl) (fun _ => rfl)).codec (by decide)

def BgpRouteObservation.codec : Codec BgpRouteObservation :=
  ((Fields.cons (required "address" IpAddr.codec) <|
    .cons (optional "prefix" .string false) <|
    .cons (required "origin_asns" u32.list) <|
    .cons (required "source" .string) <|
    .cons (required "complete" .bool) <|
    .cons (required "limitations" string.list) .nil).iso
  (fun o => (o.address, o.prefixText, o.originAsns, o.source, o.complete, o.limitations, ()))
  (fun (address, prefixText, originAsns, source, complete, limitations, _) =>
    ⟨address, prefixText, originAsns, source, complete, limitations⟩)
  (fun _ => rfl) (fun _ => rfl)).codec (by decide)

def DkimObservation.codec : Codec DkimObservation :=
  ((Fields.cons (required "selector" .string) <|
    .cons (required "records" u64) <|
    .cons (optional "version" .string false) <|
    .cons (optional "key_type" .string false) <|
    .cons (optional "public_key_fingerprint" .string false) <|
    .cons (required "revoked" .bool) <|
    .cons (required "malformed" .bool) .nil).iso
  (fun o => (o.selector, o.records, o.version, o.keyType, o.publicKeyFingerprint, o.revoked,
    o.malformed, ()))
  (fun (selector, records, version, keyType, publicKeyFingerprint, revoked, malformed, _) =>
    ⟨selector, records, version, keyType, publicKeyFingerprint, revoked, malformed⟩)
  (fun _ => rfl) (fun _ => rfl)).codec (by decide)

def NetworkMetadata.codec : Codec NetworkMetadata :=
  ((Fields.cons (required "address" IpAddr.codec) <|
    .cons (required "prefix" .string) <|
    .cons (optional "asn" u32 false) <|
    .cons (optional "organization" .string false) <|
    .cons (optional "country" .string false) .nil).iso
  (fun o => (o.address, o.prefixText, o.asn, o.organization, o.country, ()))
  (fun (address, prefixText, asn, organization, country, _) =>
    ⟨address, prefixText, asn, organization, country⟩)
  (fun _ => rfl) (fun _ => rfl)).codec (by decide)

def CveCandidate.codec : Codec CveCandidate :=
  ((Fields.cons (required "cve_id" .string) <|
    .cons (required "product" .string) <|
    .cons (required "version" .string) <|
    .cons (required "severity" .string) <|
    .cons (required "advisory_url" .string) <|
    .cons (required "source" .string) <|
    .cons (required "confidence" .string) .nil).iso
  (fun o => (o.cveId, o.product, o.version, o.severity, o.advisoryUrl, o.source, o.confidence, ()))
  (fun (cveId, product, version, severity, advisoryUrl, source, confidence, _) =>
    ⟨cveId, product, version, severity, advisoryUrl, source, confidence⟩)
  (fun _ => rfl) (fun _ => rfl)).codec (by decide)

def IntelligenceObservation.codec : Codec IntelligenceObservation :=
  ((Fields.cons (required "subdomains" SubdomainObservation.codec.list) <|
    .cons (required "dkim" DkimObservation.codec.list) <|
    .cons (required "networks" NetworkMetadata.codec.list) <|
    .cons (required "cve_candidates" CveCandidate.codec.list) <|
    .cons (optional "bundle_version" .string false) <|
    .cons (optional "related_domains" RelatedDomainsObservation.codec true) <|
    .cons (optional "certificate_transparency" CertificateTransparencyObservation.codec true) <|
    .cons (defaulted "network_registrations" NetworkRegistrationObservation.codec.list []) <|
    .cons (defaulted "bgp_routes" BgpRouteObservation.codec.list []) <|
    .cons (required "complete" .bool) <|
    .cons (required "errors" string.list) .nil).iso
  (fun o => (o.subdomains, o.dkim, o.networks, o.cveCandidates, o.bundleVersion, o.relatedDomains,
    o.certificateTransparency, o.networkRegistrations, o.bgpRoutes, o.complete, o.errors, ()))
  (fun (subdomains, dkim, networks, cveCandidates, bundleVersion, relatedDomains,
      certificateTransparency, networkRegistrations, bgpRoutes, complete, errors, _) =>
    ⟨subdomains, dkim, networks, cveCandidates, bundleVersion, relatedDomains,
      certificateTransparency, networkRegistrations, bgpRoutes, complete, errors⟩)
  (fun _ => rfl) (fun _ => rfl)).codec (by decide)

/-! ## Reports -/

section Report

-- the formats of times and of scan identifiers
variable (time : Codec OffsetDateTime) (uuid : Codec String)

def ScanReport.memberNames : List String :=
  ["schema_version", "scanner_version", "scan_id", "started_at", "completed_at", "target",
    "configuration", "status", "dns", "hosts", "services", "http", "tls", "findings",
    "exposure_score", "intelligence", "skipped_checks", "errors", "message"]

def ScanReport.fields : Fields ScanReport :=
  (Fields.cons (required "schema_version" .string) <|
    .cons (required "scanner_version" .string) <|
    .cons (required "scan_id" uuid) <|
    .cons (required "started_at" time) <|
    .cons (optional "completed_at" time false) <|
    .cons (required "target" NormalizedTarget.codec) <|
    .cons (required "configuration" ScanConfiguration.codec) <|
    .cons (required "status" ScanStatus.codec) <|
    .cons (optional "dns" DnsObservation.codec false) <|
    .cons (required "hosts" HostObservation.codec.list) <|
    .cons (required "services" ServiceObservation.codec.list) <|
    .cons (required "http" HttpObservation.codec.list) <|
    .cons (required "tls" TlsObservation.codec.list) <|
    .cons (required "findings" Finding.codec.list) <|
    .cons (optional "exposure_score" ExposureScore.codec true) <|
    .cons (optional "intelligence" IntelligenceObservation.codec true) <|
    .cons (defaulted "skipped_checks" SkippedCheck.codec.list []) <|
    .cons (required "errors" ScanError.codec.list) <|
    .cons (required "message" .string) .nil).iso
  (fun o => (o.schemaVersion, o.scannerVersion, o.scanId, o.startedAt, o.completedAt, o.target,
    o.configuration, o.status, o.dns, o.hosts, o.services, o.http, o.tls, o.findings,
    o.exposureScore, o.intelligence, o.skippedChecks, o.errors, o.message, ()))
  (fun (schemaVersion, scannerVersion, scanId, startedAt, completedAt, target, configuration,
      status, dns, hosts, services, http, tls, findings, exposureScore, intelligence,
      skippedChecks, errors, message, _) =>
    ⟨schemaVersion, scannerVersion, scanId, startedAt, completedAt, target, configuration, status,
      dns, hosts, services, http, tls, findings, exposureScore, intelligence, skippedChecks, errors,
      message⟩)
  (fun _ => rfl) (fun _ => rfl)

theorem ScanReport.fields_nodup : (ScanReport.fields time uuid).names.Nodup := by
  show ScanReport.memberNames.Nodup
  decide

def ScanReport.codec : Codec ScanReport :=
  (ScanReport.fields time uuid).codec (ScanReport.fields_nodup time uuid)

theorem ScanReport.codec_depth (htime : time.depth ≤ 8) (huuid : uuid.depth ≤ 8) :
    (ScanReport.codec time uuid).depth ≤ 9 := by
  refine Nat.succ_le_succ ?_
  show (Fields.cons _ (.cons _ (.cons _ (.cons _ (.cons _ _))))).depth ≤ 8
  exact Fields.cons_depth_le (by decide) <| Fields.cons_depth_le (by decide) <|
    Fields.cons_depth_le huuid <| Fields.cons_depth_le htime <| Fields.cons_depth_le htime <|
    (by decide)

end Report

/-! ## Documents -/

/-- What other libraries contribute to a document: the formats of times and of scan identifiers,
and the reader of JSON texts, which keeps to a depth of 127. -/
structure DocumentLibrary where
  time : Codec OffsetDateTime
  uuid : Codec String
  time_depth : time.depth ≤ 8
  uuid_depth : uuid.depth ≤ 8
  parse : String → Option Json
  parse_text : ∀ {v : Json}, readable 127 v = true → parse v.text = some v
  parse_prettyText : ∀ {v : Json}, readable 127 v = true → parse v.prettyText = some v

section Documents

variable (library : DocumentLibrary)

def DocumentLibrary.report : Codec ScanReport := ScanReport.codec library.time library.uuid

/-- Every number of the report has room in its member. -/
def ScanReport.InRange (report : ScanReport) : Prop := library.report.fits report = true

instance (report : ScanReport) : Decidable (report.InRange library) :=
  inferInstanceAs (Decidable (_ = true))

def renderJson (report : ScanReport) : String := prettyText (library.report.write report)

/-- The report as the scan history keeps it. -/
def storedJson (report : ScanReport) : String := text (library.report.write report)

def readText (source : String) : Option ScanReport :=
  (library.parse source).bind library.report.read

/-- A document is read from its bytes. -/
def readReport (bytes : List UInt8) : Option ScanReport := (fromUtf8 bytes).bind (readText library)

variable {library} {report : ScanReport}

theorem ScanReport.InRange.readable (h : report.InRange library) :
    Json.readable 127 (library.report.write report) = true :=
  readable_mono (Nat.le_trans (ScanReport.codec_depth _ _ library.time_depth library.uuid_depth)
    (by decide)) (library.report.readable_write h)

theorem readText_renderJson (h : report.InRange library) :
    readText library (renderJson library report) = some report := by
  rw [readText, renderJson, library.parse_prettyText h.readable, Option.bind_some,
    library.report.read_write h]

theorem readText_storedJson (h : report.InRange library) :
    readText library (storedJson library report) = some report := by
  rw [readText, storedJson, library.parse_text h.readable, Option.bind_some,
    library.report.read_write h]

theorem readReport_renderJson (h : report.InRange library) :
    readReport library (utf8Bytes (renderJson library report)) = some report := by
  rw [readReport, fromUtf8_eq_some_iff.mpr rfl, Option.bind_some, readText_renderJson h]

theorem readText_inRange {source : String} (h : readText library source = some report) :
    report.InRange library := by
  obtain ⟨v, -, h⟩ := Option.bind_eq_some_iff.mp h
  exact library.report.read_fits h

theorem readReport_inRange {bytes : List UInt8} (h : readReport library bytes = some report) :
    report.InRange library := by
  obtain ⟨source, -, h⟩ := Option.bind_eq_some_iff.mp h
  exact readText_inRange h

end Documents

/-! ## The library of the test fixtures -/

/-- The seconds of a day of the first year and a time of that day. -/
def secondsOf (year day hour minute second : Int) : Option Int :=
  if year = 1970 ∧ (1 ≤ day ∧ day ≤ 365) ∧ (0 ≤ hour ∧ hour < 24) ∧ (0 ≤ minute ∧ minute < 60) ∧
      (0 ≤ second ∧ second < 60) then
    some ((day - 1) * 86400 + hour * 3600 + minute * 60 + second)
  else none

theorem secondsOf_parts {t : Int} (hlow : 0 ≤ t) (hhigh : t < 31536000) :
    secondsOf 1970 (t / 86400 + 1) (t / 3600 % 24) (t / 60 % 60) (t % 60) = some t := by
  rw [secondsOf, if_pos (by omega), Option.some.injEq]
  omega

theorem secondsOf_range {year day hour minute second t : Int}
    (h : secondsOf year day hour minute second = some t) : 0 ≤ t ∧ t < 31536000 := by
  unfold secondsOf at h
  split at h
  · rename_i hparts
    rw [← Option.some.inj h]
    omega
  · cases h

/-- The year, the day of the year, the time of the day, the nanoseconds and the offset. -/
def timeParts (time : OffsetDateTime) : List Int :=
  let t := time.nanoseconds / 10 ^ 9
  [1970, t / 86400 + 1, t / 3600 % 24, t / 60 % 60, t % 60, time.nanoseconds % 10 ^ 9, 0, 0, 0]

def isFirstYear (time : OffsetDateTime) : Bool :=
  decide (0 ≤ time.nanoseconds ∧ time.nanoseconds < 31536000 * 10 ^ 9)

theorem readable_timeParts {time : OffsetDateTime} (h : isFirstYear time = true) :
    Json.readable 1 (.array ((timeParts time).map Json.number)) = true := by
  obtain ⟨hlow, hhigh⟩ := of_decide_eq_true h
  have hwhole : ∀ n ∈ timeParts time, Json.IsWhole n := by
    intro n hn
    simp only [timeParts, List.mem_cons, List.not_mem_nil, or_false] at hn
    rw [Json.IsWhole]
    omega
  refine Json.readable_array fun v hv => ?_
  obtain ⟨n, hn, rfl⟩ := List.mem_map.mp hv
  rw [Json.readable, decide_eq_true_eq]
  exact hwhole n hn

def readTime : Json → Option OffsetDateTime
  | .array [.number year, .number day, .number hour, .number minute, .number second,
      .number nanosecond, .number offsetHour, .number offsetMinute, .number offsetSecond] =>
    if (0 ≤ nanosecond ∧ nanosecond < 10 ^ 9) ∧
        offsetHour = 0 ∧ offsetMinute = 0 ∧ offsetSecond = 0 then
      (secondsOf year day hour minute second).map fun t => ⟨t * 10 ^ 9 + nanosecond⟩
    else none
  | _ => none

theorem readTime_parts {time : OffsetDateTime} (h : isFirstYear time = true) :
    readTime (.array ((timeParts time).map Json.number)) = some time := by
  obtain ⟨hlow, hhigh⟩ := of_decide_eq_true h
  have hnanosecond : 0 ≤ time.nanoseconds % 10 ^ 9 ∧ time.nanoseconds % 10 ^ 9 < 10 ^ 9 := by
    omega
  have hseconds := secondsOf_parts (t := time.nanoseconds / 10 ^ 9) (by omega) (by omega)
  simp only [readTime, timeParts, List.map_cons, List.map_nil, hnanosecond, and_self, if_true,
    hseconds, Option.map_some, Int.ediv_mul_add_emod]

theorem readTime_range {j : Json} {time : OffsetDateTime} (h : readTime j = some time) :
    isFirstYear time = true := by
  unfold readTime at h
  split at h
  · split at h
    · rename_i hparts
      obtain ⟨t, ht, rfl⟩ := Option.map_eq_some_iff.mp h
      have hrange := secondsOf_range ht
      refine decide_eq_true ?_
      simp only
      omega
    · cases h
  · cases h

/-- Times of the first year, as the time library serialises them. -/
def fixtureTime : Codec OffsetDateTime where
  write time := .array ((timeParts time).map Json.number)
  read := readTime
  fits := isFirstYear
  depth := 1
  read_write := readTime_parts
  read_fits := readTime_range
  write_ne_null _ := Json.array_ne_null _
  readable_write := readable_timeParts

/-- The hyphenated form of an identifier. -/
def isHyphenated (id : String) : Bool :=
  decide (id.toList.length = 36) && (id.toList.zipIdx.all fun (c, i) =>
    if [8, 13, 18, 23].contains i then c == '-' else hexDigits.contains c)

def fixtureUuid : Codec String :=
  .text id (fun s => if isHyphenated s = true then some s else none) isHyphenated
    (fun h => if_pos h) fun {s a} h => by
      split at h
      · rename_i hs
        rwa [← Option.some.inj h]
      · cases h

def fixtureLibrary : DocumentLibrary where
  time := fixtureTime
  uuid := fixtureUuid
  time_depth := by decide
  uuid_depth := by decide
  parse := Json.parse 127
  parse_text := Json.parse_text
  parse_prettyText := Json.parse_prettyText

end Surface

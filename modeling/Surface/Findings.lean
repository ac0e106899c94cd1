import Surface.Text
import Surface.Finalize

/-!
# Surface.Findings

The interpretation of observations into findings.

* `FindingRule`: what all findings of one rule share. Each rule of the source is one definition.
* `dnsFindings`, `mailFindings`, `exposureFindings`, `httpFindings`, `tlsFindings`: the findings of
  each kind of observation, in the order in which the code pushes them.
* `generateFindings`: all of them, each kept once, in the order of the report.
-/

namespace Surface

/-! ## Texts and numbers -/

/-- Subtraction of 64-bit integers, wrapping around. -/
def subI64 (a b : Int) : Int := (BitVec.ofInt 64 (a - b)).toInt

def WildcardDnsRecordType.asStr : WildcardDnsRecordType → String
  | a => "A"
  | aaaa => "AAAA"
  | cname => "CNAME"

/-! ## HTTP observations -/

inductive HstsState where
  | notApplicable
  | present
  | missing
deriving DecidableEq

namespace HttpObservation

def effectiveUrl (http : HttpObservation) : String := http.finalUrl.getD http.url

def hstsState (http : HttpObservation) : HstsState :=
  if !hasStart "https://" http.effectiveUrl then .notApplicable
  else if (http.headers.get "strict-transport-security").isSome then .present
  else .missing

end HttpObservation

/-! ## Rules -/

def Severity.rank : Severity → Nat
  | info => 0
  | low => 1
  | medium => 2
  | high => 3
  | critical => 4

theorem Severity.rank_injective : Function.Injective Severity.rank := by
  intro a b h
  cases a <;> cases b <;> simp [rank] at h ⊢

instance : LinearOrder Severity := LinearOrder.lift' Severity.rank Severity.rank_injective

/-- The part of a finding that its rule fixes. -/
structure FindingRule where
  id : String
  title : String
  severity : Severity
  category : FindingCategory
  description : String
  remediation : Option String
  references : List String := []
  confidence : FindingConfidence
deriving DecidableEq

/-- `finding`, and `with_references` where the rule has some. -/
def FindingRule.finding (rule : FindingRule) (target location observed : String) : Finding where
  id := rule.id
  title := rule.title
  severity := rule.severity
  category := rule.category
  target := target
  description := rule.description
  evidence := [⟨location, observed⟩]
  remediation := rule.remediation
  references := rule.references
  confidence := rule.confidence

def rsaEncryptionOid : String := "1.2.840.113549.1.1.1"

def sha1SignatureOids : List String :=
  ["1.2.840.113549.1.1.5", "1.2.840.10040.4.3", "1.2.840.10045.4.1"]

def nistSp800131aRev2 : String := "https://doi.org/10.6028/NIST.SP.800-131Ar2"
def rfc3279 : String := "https://www.rfc-editor.org/rfc/rfc3279.html"
def rfc8996 : String := "https://www.rfc-editor.org/rfc/rfc8996.html"
def rfc4253 : String := "https://www.rfc-editor.org/rfc/rfc4253.html"
def rfc9142 : String := "https://www.rfc-editor.org/rfc/rfc9142.html"
def rfc8758 : String := "https://www.rfc-editor.org/rfc/rfc8758.html"
def rfc6151 : String := "https://www.rfc-editor.org/rfc/rfc6151.html"

namespace FindingRule

def wildcardDetected : FindingRule where
  id := "DNS-WILDCARD-DETECTED"
  title := "Wildcard DNS answers detected"
  severity := .info
  category := .network
  description := "Two random child names returned identical non-empty DNS answer fingerprints. " ++
    "This is contextual routing evidence and is not automatically a vulnerability."
  remediation := none
  confidence := .high

def axfrAllowed : FindingRule where
  id := "DNS-AXFR-ALLOWED"
  title := "Authoritative zone transfer is allowed"
  severity := .high
  category := .network
  description := "An authoritative server returned a complete SOA-delimited AXFR over TCP."
  remediation := some "Restrict AXFR to explicitly authorized secondary DNS servers."
  confidence := .high

def dnssecBogus : FindingRule where
  id := "DNS-DNSSEC-BOGUS"
  title := "DNSSEC validation is bogus"
  severity := .high
  category := .network
  description := "Hickory Resolver cryptographically classified at least one selected " ++
    "primary-host RRset as bogus."
  remediation := some ("Inspect the zone's DS, DNSKEY, and RRSIG chain and repair invalid or " ++
    "missing signed data.")
  confidence := .high

def danglingCname : FindingRule where
  id := "DNS-CNAME-DANGLING-INDICATOR"
  title := "Potential dangling CNAME"
  severity := .medium
  category := .network
  description := "A directly observed primary-target CNAME destination returned conclusive " ++
    "NXDOMAIN across the selected address queries. This is a potential dangling CNAME " ++
    "indicator; ownership, claimability, and takeover feasibility were not tested."
  remediation := some ("Review whether the CNAME destination is still required and controlled by " ++
    "the intended owner.")
  confidence := .medium

def spfMultiple : FindingRule where
  id := "MAIL-SPF-MULTIPLE"
  title := "Multiple SPF records observed"
  severity := .medium
  category := .mail
  description := "Multiple SPF records can cause SPF evaluation to return a permanent error."
  remediation := some "Publish exactly one SPF record."
  confidence := .high

def dmarcMonitoring : FindingRule where
  id := "MAIL-DMARC-MONITORING"
  title := "DMARC policy is monitoring-only"
  severity := .low
  category := .mail
  description := "The observed DMARC p=none policy requests reporting without receiver enforcement."
  remediation := some ("After validating mail sources, consider an enforcement policy " ++
    "appropriate for the domain.")
  confidence := .high

def databaseExposed : FindingRule where
  id := "NET-DATABASE-EXPOSED"
  title := "Database-like TCP service is reachable"
  severity := .high
  category := .network
  description := "A TCP connection succeeded on a port commonly used by database or data-store " ++
    "software; the product was not inferred solely from the port."
  remediation := some ("Restrict network access unless this listener is intentionally exposed.")
  confidence := .medium

def sshReachable : FindingRule where
  id := "NET-SSH-REACHABLE"
  title := "SSH service is externally reachable"
  severity := .info
  category := .network
  description := "Surface received an SSH identification banner from the endpoint."
  remediation := some ("Confirm that access controls and authentication policy match " ++
    "operational requirements.")
  confidence := .high

def sshLegacyAlgorithm : FindingRule where
  id := "NET-SSH-LEGACY-ALGORITHM"
  title := "SSH KEXINIT inferred a legacy algorithm selection"
  severity := .medium
  category := .network
  description := "RFC 4253 client-first KEXINIT preference intersection inferred the listed " ++
    "legacy selection before any completed key exchange. Surface closed after KEXINIT, so no " ++
    "cryptographic negotiation completed, and this does not establish server preference."
  remediation := some ("Disable obsolete SSH algorithms after confirming required client " ++
    "compatibility.")
  references := [rfc4253, rfc9142, rfc8758, rfc6151, nistSp800131aRev2]
  confidence := .medium

def smtpStarttlsNotAdvertised : FindingRule where
  id := "MAIL-SMTP-STARTTLS-NOT-ADVERTISED"
  title := "SMTP service did not advertise STARTTLS"
  severity := .medium
  category := .mail
  description := "A bounded EHLO exchange completed, but the observed capability list did not " ++
    "advertise STARTTLS."
  remediation := some ("Review whether transport encryption should be offered on this SMTP " ++
    "endpoint.")
  confidence := .high

def noHttpsRedirect : FindingRule where
  id := "HTTP-NO-HTTPS-REDIRECT"
  title := "HTTP endpoint did not redirect to HTTPS"
  severity := .medium
  category := .http
  description := "The observed HTTP request completed without a same-host redirect to HTTPS."
  remediation := some ("Redirect plaintext HTTP requests to an HTTPS endpoint when appropriate.")
  confidence := .high

def hstsMissing : FindingRule where
  id := "HTTP-HSTS-MISSING"
  title := "HSTS header missing"
  severity := .medium
  category := .http
  description := "The confirmed HTTPS endpoint returned no Strict-Transport-Security header."
  remediation := some "Evaluate and deploy an appropriate Strict-Transport-Security policy."
  confidence := .high

def httpsDowngrade : FindingRule where
  id := "HTTP-HTTPS-DOWNGRADE"
  title := "HTTPS redirects to HTTP"
  severity := .high
  category := .http
  description := "The HTTPS endpoint redirected to a plaintext HTTP URL."
  remediation := some "Keep redirects on HTTPS."
  confidence := .high

def versionDisclosure : FindingRule where
  id := "HTTP-VERSION-DISCLOSURE"
  title := "Server implementation header disclosed"
  severity := .info
  category := .http
  description := "The endpoint returned Server or X-Powered-By metadata; this is informational " ++
    "and does not prove a vulnerability."
  remediation := some ("Remove unnecessary product/version detail where operationally practical.")
  confidence := .high

def securityTxtMissing : FindingRule where
  id := "HTTP-SECURITY-TXT-MISSING"
  title := "security.txt not found"
  severity := .info
  category := .http
  description := "The well-known security.txt path returned HTTP 404."
  remediation := some "Consider publishing RFC 9116 contact information."
  confidence := .high

def tlsValidationFailed : FindingRule where
  id := "TLS-VALIDATION-FAILED"
  title := "Validating TLS handshake failed"
  severity := .high
  category := .tls
  description := "The expected TLS endpoint did not complete the certificate-validating handshake."
  remediation := some ("Inspect the certificate chain, identity, validity period, and TLS " ++
    "configuration.")
  confidence := .medium

def certNotYetValid : FindingRule where
  id := "TLS-CERT-NOT-YET-VALID"
  title := "TLS certificate is not yet valid"
  severity := .high
  category := .tls
  description := "The observed leaf certificate validity start follows the scan time."
  remediation := some "Install a certificate whose validity period has started."
  confidence := .high

def certExpired : FindingRule where
  id := "TLS-CERT-EXPIRED"
  title := "TLS certificate is expired"
  severity := .high
  category := .tls
  description := "The observed leaf certificate validity end precedes the scan time."
  remediation := some "Replace or renew the certificate."
  confidence := .high

def certExpiring : FindingRule where
  id := "TLS-CERT-EXPIRING"
  title := "TLS certificate expires soon"
  severity := .low
  category := .tls
  description := "The observed leaf certificate expires within 30 days."
  remediation := some "Renew the certificate before expiry."
  confidence := .high

def certWeakRsaKey : FindingRule where
  id := "TLS-CERT-WEAK-RSA-KEY"
  title := "TLS leaf certificate uses a weak RSA key"
  severity := .medium
  category := .tls
  description := "The parsed leaf SubjectPublicKeyInfo uses the exact rsaEncryption OID and " ++
    "reports an RSA modulus smaller than 2048 bits."
  remediation := some ("Replace the leaf certificate with one using an RSA key of at least 2048 " ++
    "bits or an appropriate modern alternative.")
  references := [nistSp800131aRev2, rfc3279]
  confidence := .high

def certSha1Signature : FindingRule where
  id := "TLS-CERT-SHA1-SIGNATURE"
  title := "TLS leaf certificate uses a SHA-1 signature"
  severity := .medium
  category := .tls
  description := "The parsed leaf certificate signatureAlgorithm exactly identifies SHA-1 with " ++
    "RSA, DSA, or ECDSA."
  remediation := some ("Replace the leaf certificate with one signed using SHA-256 or stronger.")
  references := [nistSp800131aRev2, rfc3279]
  confidence := .high

def obsoleteProtocol : FindingRule where
  id := "TLS-OBSOLETE-PROTOCOL"
  title := "TLS endpoint negotiated an obsolete protocol"
  severity := .medium
  category := .tls
  description := "The directly observed negotiated protocol version is TLS 1.0 or TLS 1.1, which " ++
    "RFC 8996 deprecates."
  remediation := some "Disable TLS 1.0 and TLS 1.1; require TLS 1.2 or later."
  references := [rfc8996]
  confidence := .high

end FindingRule

def findingRules : List FindingRule :=
  [.wildcardDetected, .axfrAllowed, .dnssecBogus, .danglingCname, .spfMultiple, .dmarcMonitoring,
    .databaseExposed, .sshReachable, .sshLegacyAlgorithm, .smtpStarttlsNotAdvertised,
    .noHttpsRedirect, .hstsMissing, .httpsDowngrade, .versionDisclosure, .securityTxtMissing,
    .tlsValidationFailed, .certNotYetValid, .certExpired, .certExpiring, .certWeakRsaKey,
    .certSha1Signature, .obsoleteProtocol]

/-! ## DNS and mail -/

/-- Whether the destination of a hop was itself seen not to exist, as part of the chain. -/
def directlyObservedNxdomain (dns : DnsObservation) (hop : CnameHop) : Bool :=
  dns.danglingCnames.any fun observation =>
    decide (observation.status = .nxDomain) &&
    decide (observation.canonicalTarget.toLower = hop.destination.toLower) &&
    dns.cnameChain.any fun observedHop =>
      decide (observedHop.source.toLower = observation.sourceAlias.toLower) &&
      decide (observedHop.destination.toLower = observation.canonicalTarget.toLower)

/-- One finding for each destination, at its first hop. -/
def danglingFrom (target : String) (dns : DnsObservation) (reportedTargets : OrdSet String) :
    List CnameHop → List Finding
  | [] => []
  | hop :: hops =>
    if !directlyObservedNxdomain dns hop || decide (hop.destination.toLower ∈ reportedTargets) then
      danglingFrom target dns reportedTargets hops
    else
      FindingRule.danglingCname.finding target "Primary CNAME chain"
          (hop.source ++ " -> " ++ hop.destination ++ "; status=NXDOMAIN") ::
        danglingFrom target dns (reportedTargets.insert hop.destination.toLower) hops

def danglingCnameFindings (target : String) (dns : DnsObservation) : List Finding :=
  danglingFrom target dns .empty dns.cnameChain

def wildcardFindings (target : String) (dns : DnsObservation) : List Finding :=
  match dns.wildcardDns.filter fun wildcard => wildcard.status = .detected with
  | none => []
  | some wildcard =>
    let answerTypes := ",".intercalate (wildcard.answerTypes.map WildcardDnsRecordType.asStr)
    [FindingRule.wildcardDetected.finding target "Wildcard DNS detection"
      ("probes_attempted=" ++ toString wildcard.probesAttempted ++ "; answer_types=" ++
        (if answerTypes = "" then "none" else answerTypes) ++ "; fingerprints=" ++
        toString wildcard.answerFingerprints.length)]

def AxfrAttempt.transfer (attempt : AxfrAttempt) : String :=
  attempt.server ++ " (" ++ attempt.endpoint.display ++ "): complete, " ++
    toString attempt.messages ++ " messages, " ++ toString attempt.records ++ " records, " ++
    toString attempt.bytes ++ " bytes"

def axfrFindings (target : String) (dns : DnsObservation) : List Finding :=
  match dns.authoritativeAxfr with
  | none => []
  | some axfr =>
    let allowed := " | ".intercalate
      ((axfr.attempts.filter fun attempt => attempt.outcome = .allowed).map AxfrAttempt.transfer)
    if allowed = "" then []
    else [FindingRule.axfrAllowed.finding target "Authoritative AXFR" allowed]

def dnssecFindings (target : String) (dns : DnsObservation) : List Finding :=
  match dns.dnssec.filter fun dnssec => dnssec.status = .bogus with
  | none => []
  | some dnssec =>
    let observed := " | ".intercalate
      ((dnssec.checkedRrsets.filter fun rrset => rrset.status = .bogus).map fun rrset =>
        rrset.name ++ " " ++ rrset.recordType.asStr ++ ": bogus")
    [FindingRule.dnssecBogus.finding target "DNSSEC validation"
      (if observed = "" then "aggregate DNSSEC status: bogus" else observed)]

def dnsFindings (target : String) (dns : DnsObservation) : List Finding :=
  danglingCnameFindings target dns ++ wildcardFindings target dns ++ axfrFindings target dns ++
    dnssecFindings target dns

def mailFindings (target : String) (dns : DnsObservation) : List Finding :=
  (if 1 < dns.mail.spf.records.length then
    [FindingRule.spfMultiple.finding target "DNS TXT" (" | ".intercalate dns.mail.spf.records)]
  else []) ++
  match dns.mail.dmarc.head? with
  | none => []
  | some dmarc =>
    if dmarc.policy = some "none" then
      [FindingRule.dmarcMonitoring.finding target "_dmarc TXT" dmarc.record]
    else []

/-! ## Exposed services -/

def databasePorts : List Nat :=
  [1433, 1521, 2483, 2484, 3306, 5432, 6379, 7474, 7687, 8123, 9000, 9042, 9200, 11211, 27017,
    33060]

def portFindings (port : PortObservation) : List Finding :=
  if port.transport = .tcp ∧ port.state = .open ∧ port.address.port ∈ databasePorts then
    [FindingRule.databaseExposed.finding port.address.display "TCP connect" "open"]
  else []

/-- The selected algorithms next to the obsolete ones, in the order of the code. -/
def legacyAlgorithms (selections : SshAlgorithmSelections) : List (String × String × String) :=
  [("ssh_kex", selections.kex, "diffie-hellman-group14-sha1"),
    ("ssh_kex", selections.kex, "diffie-hellman-group1-sha1"),
    ("ssh_host_key_algorithm", selections.hostKey, "ssh-rsa"),
    ("ssh_host_key_algorithm", selections.hostKey, "ssh-dss"),
    ("ssh_cipher_c2s", selections.cipherC2s, "3des-cbc"),
    ("ssh_cipher_c2s", selections.cipherC2s, "arcfour"),
    ("ssh_cipher_c2s", selections.cipherC2s, "arcfour128"),
    ("ssh_cipher_c2s", selections.cipherC2s, "arcfour256"),
    ("ssh_cipher_s2c", selections.cipherS2c, "3des-cbc"),
    ("ssh_cipher_s2c", selections.cipherS2c, "arcfour"),
    ("ssh_cipher_s2c", selections.cipherS2c, "arcfour128"),
    ("ssh_cipher_s2c", selections.cipherS2c, "arcfour256"),
    ("ssh_mac_c2s", selections.macC2s, "hmac-sha1"),
    ("ssh_mac_c2s", selections.macC2s, "hmac-md5"),
    ("ssh_mac_c2s", selections.macC2s, "hmac-md5-96"),
    ("ssh_mac_s2c", selections.macS2c, "hmac-sha1"),
    ("ssh_mac_s2c", selections.macS2c, "hmac-md5"),
    ("ssh_mac_s2c", selections.macS2c, "hmac-md5-96")]

def sshLegacyFinding (service : ServiceObservation) : List Finding :=
  match service.ssh.map SshPosture.outcome with
  | some (.complete selections) =>
    let legacy := ((legacyAlgorithms selections).filter fun entry => entry.2.1 = entry.2.2).map
      fun entry => entry.1 ++ "=" ++ entry.2.2
    if legacy = [] then []
    else [FindingRule.sshLegacyAlgorithm.finding service.address.display
      "SSH KEXINIT client-first preference intersection" (", ".intercalate legacy)]
  | _ => []

def sshFindings (service : ServiceObservation) : List Finding :=
  if service.service = .ssh then
    FindingRule.sshReachable.finding service.address.display "service banner"
      (service.banner.getD "SSH identification received") :: sshLegacyFinding service
  else []

def smtpFindings (service : ServiceObservation) : List Finding :=
  if service.service = .smtp ∧ service.confidence = .high ∧
      service.banner.any (hasText "250") ∧ service.protocolDetails.get "starttls" = none then
    [FindingRule.smtpStarttlsNotAdvertised.finding service.address.display
      "SMTP EHLO capabilities" (service.banner.getD "EHLO response received")]
  else []

def exposureFindings (hosts : List HostObservation) (services : List ServiceObservation) :
    List Finding :=
  (hosts.flatMap HostObservation.ports).flatMap portFindings ++ services.flatMap sshFindings ++
    services.flatMap smtpFindings

/-! ## HTTP -/

def httpStatusText (http : HttpObservation) : String := "status " ++ toString (http.status.getD 0)

def redirectFindings (target : String) (http : HttpObservation) : List Finding :=
  if !hasStart "https://" http.url && !hasStart "https://" http.effectiveUrl &&
      !http.redirects.any (fun redirect => hasStart "https://" redirect.destination) then
    [FindingRule.noHttpsRedirect.finding target http.url (httpStatusText http)]
  else []

def hstsFindings (target : String) (http : HttpObservation) : List Finding :=
  if http.hstsState = .missing then
    [FindingRule.hstsMissing.finding target http.url (httpStatusText http)]
  else []

def downgradeFindings (target : String) (http : HttpObservation) : List Finding :=
  match http.redirects.find? fun redirect => hasStart "http://" redirect.destination with
  | none => []
  | some redirect =>
    if hasStart "https://" http.url then
      [FindingRule.httpsDowngrade.finding target http.url redirect.destination]
    else []

def disclosureFindings (target : String) (http : HttpObservation) : List Finding :=
  if (http.headers.get "server").isSome || (http.headers.get "x-powered-by").isSome then
    [FindingRule.versionDisclosure.finding target http.url
      (((http.headers.get "server").or (http.headers.get "x-powered-by")).getD "present")]
  else []

def securityTxtFindings (target : String) (http : HttpObservation) : List Finding :=
  if http.securityTxt = some false then
    [FindingRule.securityTxtMissing.finding target "/.well-known/security.txt" "not found"]
  else []

def httpFindings (target : String) (observations : List HttpObservation) : List Finding :=
  (observations.filter fun http => http.status.isSome).flatMap fun http =>
    redirectFindings target http ++ hstsFindings target http ++ downgradeFindings target http ++
      disclosureFindings target http ++ securityTxtFindings target http

/-! ## TLS -/

/-- Whether some service at the address promises TLS. -/
def expectedTls (services : List ServiceObservation) (tls : TlsObservation) : Bool :=
  services.any fun service =>
    decide (service.address = tls.address) &&
      (decide (service.service = .https) || decide (service.address.port ∈ [443, 8443]))

def handshakeFindings (target : String) (services : List ServiceObservation)
    (tls : TlsObservation) : List Finding :=
  if expectedTls services tls && !tls.handshakeSucceeded then
    [FindingRule.tlsValidationFailed.finding target tls.address.display
      (tls.errors.head?.getD "handshake failed")]
  else []

def rsaKeyFindings (target : String) (tls : TlsObservation) : List Finding :=
  match tls.publicKeyBits with
  | none => []
  | some bits =>
    if tls.publicKeyAlgorithm = some rsaEncryptionOid ∧ bits ≠ 0 ∧ bits < 2048 then
      [FindingRule.certWeakRsaKey.finding target tls.address.display
        ("public_key_algorithm=" ++ rsaEncryptionOid ++ ", public_key_bits=" ++ toString bits)]
    else []

def sha1Findings (target : String) (tls : TlsObservation) : List Finding :=
  match tls.signatureAlgorithm with
  | none => []
  | some signatureAlgorithm =>
    if signatureAlgorithm ∈ sha1SignatureOids then
      [FindingRule.certSha1Signature.finding target tls.address.display
        ("signature_algorithm=" ++ signatureAlgorithm)]
    else []

def protocolFindings (target : String) (tls : TlsObservation) : List Finding :=
  match tls.protocolVersion with
  | none => []
  | some protocolVersion =>
    if protocolVersion ∈ ["TLSv1_0", "TLSv1_1"] then
      [FindingRule.obsoleteProtocol.finding target tls.address.display
        ("protocol_version=" ++ protocolVersion)]
    else []

def tlsWeaknessFindings (target : String) (tls : TlsObservation) : List Finding :=
  rsaKeyFindings target tls ++ sha1Findings target tls ++ protocolFindings target tls

def validUntilFindings (target : String) (tls : TlsObservation) (scanTime : Timestamp) :
    List Finding :=
  match tls.validUntilUnix with
  | none => []
  | some validUntil =>
    let remaining := subI64 validUntil scanTime
    if remaining < 0 then
      [FindingRule.certExpired.finding target tls.address.display
        ("valid_until_unix=" ++ toString validUntil)]
    else if tls.handshakeSucceeded ∧ remaining < 30 * 24 * 60 * 60 then
      [FindingRule.certExpiring.finding target tls.address.display
        ("remaining_days=" ++ toString (remaining / 86400))]
    else []

def validityFindings (target : String) (tls : TlsObservation) (scanTime : Timestamp) :
    List Finding :=
  match tls.validFromUnix with
  | none => validUntilFindings target tls scanTime
  | some validFrom =>
    if scanTime < validFrom then
      [FindingRule.certNotYetValid.finding target tls.address.display
        ("valid_from_unix=" ++ toString validFrom)]
    else validUntilFindings target tls scanTime

def tlsFindings (target : String) (services : List ServiceObservation)
    (observations : List TlsObservation) (now : OffsetDateTime) : List Finding :=
  observations.flatMap fun tls =>
    handshakeFindings target services tls ++ tlsWeaknessFindings target tls ++
      validityFindings target tls now.unixTimestamp

/-! ## All findings -/

namespace Finding

/-- The evidence as the code compares it. -/
def evidenceKey (f : Finding) : List (String ×ₗ String) :=
  f.evidence.map fun evidence => toLex (evidence.location, evidence.observed)

/-- What tells findings apart: id, target and evidence. -/
def identity (f : Finding) : String ×ₗ String ×ₗ List (String ×ₗ String) :=
  toLex (f.id, toLex (f.target, f.evidenceKey))

/-- Descending severity, then id, target and evidence. -/
def order (f : Finding) : Severityᵒᵈ ×ₗ String ×ₗ String ×ₗ List (String ×ₗ String) :=
  toLex (OrderDual.toDual f.severity, f.identity)

end Finding

/-- The findings of all observations, before duplicates are dropped. -/
def collectFindings : FindingGenerator := fun target dns hosts services http tls now =>
  (match dns with
    | none => []
    | some dns => dnsFindings target dns ++ mailFindings target dns) ++
  exposureFindings hosts services ++ httpFindings target http ++ tlsFindings target services tls now

def generateFindings : FindingGenerator := fun target dns hosts services http tls now =>
  sortBy Finding.order (keepFirst Finding.identity .empty
    (collectFindings target dns hosts services http tls now))

end Surface

import Surface.Report.Serialize

/-!
# Surface.Report.Diff

The semantic comparison of two reports: each section projects both reports to keyed values and
lists the keys whose values differ.

* `compareMaps`, `compareSets`, `compareValues`: the comparisons.
* `networkChanges`, `serviceChanges`, `dnsChanges` and their siblings: the sections.
* `diffReports`: all sections together, with their counts.
-/

namespace Surface

open Json

structure Change where
  category : String
  key : String
  oldValue : Option Json
  newValue : Option Json
  target : String
  significance : String
  confidence : String
  evidence : String
deriving DecidableEq

structure ScanReference where
  scanId : String
  schemaVersion : String
  scannerVersion : String
  target : String
deriving DecidableEq

structure DiffSummary where
  added : Nat
  removed : Nat
  changed : Nat
deriving DecidableEq

structure ScanDiff where
  schemaVersion : String
  oldScan : ScanReference
  newScan : ScanReference
  summary : DiffSummary
  networkChanges : List Change
  serviceChanges : List Change
  certificateChanges : List Change
  dnsChanges : List Change
  findingChanges : List Change
  scoreChange : Option Change
  completenessChanges : List Change
  warnings : List String
deriving DecidableEq

def diffSchemaVersion : String := "1.0"

/-! ## Comparisons -/

def change (category key : String) (oldValue newValue : Option Json)
    (target significance : String) : Change where
  category := category
  key := key
  oldValue := oldValue
  newValue := newValue
  target := target
  significance := significance
  confidence := "high"
  evidence := key

def compareMaps (category : String) (old new : OrdMap String Json)
    (target significance : String) : List Change :=
  (OrdSet.ofList (old.keys ++ new.keys)).toList.filterMap fun key =>
    if old.get key ≠ new.get key then
      some (change category key (old.get key) (new.get key) target significance)
    else none

def compareSets (category : String) (old new : OrdSet String)
    (target significance : String) : List Change :=
  ((old.toList.filter fun key => key ∉ new).map fun key =>
    change category key (some (.string key)) none target significance) ++
  ((new.toList.filter fun key => key ∉ old).map fun key =>
    change category key none (some (.string key)) target significance)

def Change.sortKey (c : Change) : String ×ₗ String := toLex (c.category, c.key)

def sortChanges (changes : List Change) : List Change := sortBy Change.sortKey changes

/-! ## Sections -/

def PortState.name : PortState → String
  | .open => "open"
  | .closed => "closed"
  | .openFiltered => "open_filtered"
  | .timedOut => "timed_out"
  | .unreachable => "unreachable"
  | .error => "error"
  | .cancelled => "cancelled"

/-- The transport and the address of an endpoint, as a comparison key. -/
def endpointKey (transport : TransportProtocol) (address : SocketAddr) : String :=
  (transport.debug ++ ":" ++ address.display).toLower

def ipSet (report : ScanReport) : OrdSet String :=
  OrdSet.ofList (report.hosts.map fun host => host.ip.display)

def portMap (report : ScanReport) : OrdMap String Json :=
  OrdMap.ofList ((report.hosts.flatMap HostObservation.ports).map fun port =>
    (endpointKey port.transport port.address, .string port.state.name))

def networkChanges (old new : ScanReport) (target : String) : List Change :=
  sortChanges (compareSets "ip_address" (ipSet old) (ipSet new) target "medium" ++
    compareMaps "port" (portMap old) (portMap new) target "medium")

def serviceValue (service : ServiceObservation) : Json :=
  mapOf [("transport", .string service.transport.name), ("service", .string service.service.name),
    ("confidence", .string service.confidence.name), ("banner", optString service.banner),
    ("protocol_details", ofMap .string service.protocolDetails),
    ("ssh", ofOption SshPosture.toJson service.ssh)]

def serviceMap (report : ScanReport) : OrdMap String Json :=
  OrdMap.ofList (report.services.map fun service =>
    (endpointKey service.transport service.address, serviceValue service))

def httpValue (http : HttpObservation) : Json :=
  mapOf [("final_url", optString http.finalUrl), ("status", optNat http.status),
    ("redirects", ofList RedirectObservation.toJson http.redirects),
    ("headers", ofMap .string http.headers),
    ("cookies", ofList CookieObservation.toJson http.cookies),
    ("robots_txt", optBool http.robotsTxt), ("security_txt", optBool http.securityTxt),
    ("sitemap_xml", optBool http.sitemapXml)]

def httpMap (report : ScanReport) : OrdMap String Json :=
  OrdMap.ofList (report.http.map fun http => (http.url, httpValue http))

def serviceChanges (old new : ScanReport) (target : String) : List Change :=
  sortChanges (compareMaps "service" (serviceMap old) (serviceMap new) target "medium" ++
    compareMaps "http_endpoint" (httpMap old) (httpMap new) target "medium")

def tlsValue (tls : TlsObservation) : Json :=
  mapOf [("server_name", .string tls.serverName),
    ("handshake_succeeded", .bool tls.handshakeSucceeded),
    ("certificate_trusted", optBool tls.certificateTrusted),
    ("hostname_matches", optBool tls.hostnameMatches),
    ("protocol_version", optString tls.protocolVersion),
    ("cipher_suite", optString tls.cipherSuite), ("alpn", optString tls.alpn),
    ("certificate_chain_length", optNat tls.certificateChainLength),
    ("leaf_certificate_sha256", optString tls.leafCertificateSha256),
    ("subject", optString tls.subject), ("issuer", optString tls.issuer),
    ("serial_number", optString tls.serialNumber),
    ("valid_from_unix", ofOption .number tls.validFromUnix),
    ("valid_until_unix", ofOption .number tls.validUntilUnix),
    ("subject_alt_names", strings tls.subjectAltNames),
    ("subject_alt_names_truncated", .bool tls.subjectAltNamesTruncated),
    ("public_key_algorithm", optString tls.publicKeyAlgorithm),
    ("public_key_bits", optNat tls.publicKeyBits),
    ("signature_algorithm", optString tls.signatureAlgorithm)]

def tlsMap (report : ScanReport) : OrdMap String Json :=
  OrdMap.ofList (report.tls.map fun tls =>
    (tls.address.display ++ "|" ++ tls.serverName, tlsValue tls))

def evidenceLocations (finding : Finding) : Json :=
  strings (OrdSet.ofList (finding.evidence.map Evidence.location)).toList

def findingValue (finding : Finding) : Json :=
  mapOf [("title", .string finding.title), ("severity", .string finding.severity.name),
    ("category", .string finding.category.name), ("description", .string finding.description),
    ("evidence_locations", evidenceLocations finding),
    ("remediation", optString finding.remediation), ("references", strings finding.references),
    ("confidence", .string finding.confidence.name)]

def findingMap (report : ScanReport) : OrdMap String Json :=
  OrdMap.ofList (report.findings.map fun finding =>
    (finding.id ++ "|" ++ finding.target ++ "|" ++ (evidenceLocations finding).text,
      findingValue finding))

/-- The value of the passive intelligence, without the texts of its errors. -/
def intelligenceValue (observation : IntelligenceObservation) : Json :=
  ((((observation.toJson.removeField "errors").modifyField "subdomains"
    (modifyItems (removeField "error"))).modifyField "related_domains"
      (removeField "errors")).modifyField "certificate_transparency" (removeField "errors"))

def recordSet (report : ScanReport) : OrdSet String :=
  match report.dns with
  | some dns => OrdSet.ofList (dns.records.map DnsRecord.jsonKey)
  | none => .empty

/-- A change of a value as a whole, keyed by the target. -/
def compareValues (category : String) (old new : Option Json) (target significance : String) :
    List Change :=
  if old ≠ new then [change category target old new target significance] else []

def mailValue (report : ScanReport) : Option Json := report.dns.map fun dns => dns.mail.toJson

def dnsChanges (old new : ScanReport) (target : String) : List Change :=
  sortChanges (compareSets "dns_record" (recordSet old) (recordSet new) target "medium" ++
    compareValues "mail_policy" (mailValue old) (mailValue new) target "high" ++
    compareValues "passive_intelligence" (old.intelligence.map intelligenceValue)
      (new.intelligence.map intelligenceValue) target "medium")

def completenessValue (report : ScanReport) : Json :=
  mapOf [("status", .string report.status.name),
    ("error_kinds",
      strings (OrdSet.ofList (report.errors.map fun error => quote error.kind.name)).toList)]

def completenessChanges (old new : ScanReport) (target : String) : List Change :=
  compareValues "scan_completeness" (some (completenessValue old)) (some (completenessValue new))
    target "high"

/-- The change of the score, and the warnings about it. -/
def scoreChange (old new : ScanReport) (target : String) : Option Change × List String :=
  match old.exposureScore, new.exposureScore with
  | some oldScore, some newScore =>
    if oldScore.modelVersion = newScore.modelVersion then
      (if oldScore ≠ newScore then
        some (change "exposure_score" target (some oldScore.toJson) (some newScore.toJson) target
          "high")
      else none, [])
    else
      (none, ["score models differ: " ++ oldScore.modelVersion ++ " versus " ++
        newScore.modelVersion ++ "; no numeric delta is claimed"])
  | none, none => (none, [])
  | oldScore, newScore =>
    (some (change "exposure_score" target (oldScore.map ExposureScore.toJson)
      (newScore.map ExposureScore.toJson) target "high"), [])

/-! ## The diff -/

def schemaFamily (version : String) : Except String String :=
  if version ∈ ["0.1.0", "0.1.1", "0.1.2", "0.2.0", "0.3.0"] then .ok "legacy-ssh-map"
  else if version = "0.4.0" then .ok "typed-ssh"
  else .error ("unsupported report schema version '" ++ version ++ "'")

def reference (report : ScanReport) (target : String) : ScanReference where
  scanId := report.scanId
  schemaVersion := report.schemaVersion
  scannerVersion := report.scannerVersion
  target := target

def DiffSummary.count (summary : DiffSummary) (c : Change) : DiffSummary :=
  match c.oldValue, c.newValue with
  | none, some _ => { summary with added := summary.added + 1 }
  | some _, none => { summary with removed := summary.removed + 1 }
  | _, _ => { summary with changed := summary.changed + 1 }

def summarize (changes : List Change) : DiffSummary :=
  changes.foldl DiffSummary.count ⟨0, 0, 0⟩

def compareReports (old new : ScanReport) (oldTarget newTarget : String) : ScanDiff :=
  let network := networkChanges old new oldTarget
  let service := serviceChanges old new oldTarget
  let certificate := compareMaps "certificate" (tlsMap old) (tlsMap new) oldTarget "high"
  let dns := dnsChanges old new oldTarget
  let finding := compareMaps "finding" (findingMap old) (findingMap new) oldTarget "high"
  let completeness := completenessChanges old new oldTarget
  let score := scoreChange old new oldTarget
  { schemaVersion := diffSchemaVersion
    oldScan := reference old oldTarget
    newScan := reference new newTarget
    summary := summarize
      (network ++ service ++ certificate ++ dns ++ finding ++ completeness ++ score.1.toList)
    networkChanges := network
    serviceChanges := service
    certificateChanges := certificate
    dnsChanges := dns
    findingChanges := finding
    scoreChange := score.1
    completenessChanges := completeness
    warnings := score.2 }

def diffReports (old new : ScanReport) : Except String ScanDiff :=
  let oldTarget := old.target.identity
  let newTarget := new.target.identity
  if oldTarget ≠ newTarget then
    .error ("cannot compare different targets '" ++ oldTarget ++ "' and '" ++ newTarget ++ "'")
  else
    match schemaFamily old.schemaVersion with
    | .error error => .error error
    | .ok oldFamily =>
      match schemaFamily new.schemaVersion with
      | .error error => .error error
      | .ok newFamily =>
        if oldFamily ≠ newFamily then
          .error ("cannot compare report schema families '" ++ old.schemaVersion ++ "' and '" ++
            new.schemaVersion ++ "'")
        else .ok (compareReports old new oldTarget newTarget)

end Surface

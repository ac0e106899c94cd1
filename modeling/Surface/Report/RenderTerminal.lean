import Surface.Lines
import Surface.Report.Diff
import Surface.Report.Labels

/-!
# Surface.Report.RenderTerminal

The terminal renderers: one function for each section, in the order of the output.

`displayTime` is the text of a time, which is written as it is.
-/

namespace Surface

/-! ## Texts -/

def orUnknown {α : Type} [ToString α] (value : Option α) : String :=
  (value.map toString).getD "unknown"

/-- Spaces after a text that is shorter than its column. -/
def padRight (width : Nat) (text : String) : String :=
  text ++ String.ofList (List.replicate (width - text.length) ' ')

/-- An SSH value, cut and cleaned. -/
def terminalSshValue (value : Option String) : String := cleanTerminal (boundedSshValue value)

/-! ## Hosts -/

def portLine (port : PortProjection) : String :=
  join ["    ", toString port.number, "/", port.transport, "  ", port.state, "  ", port.service,
    "\n"]

def hostLines (report : ScanReport) (host : HostObservation) : String :=
  join ["  ", host.ip.display, "\n", fragments portLine (ports report host)]

def hostsSection (report : ScanReport) : String :=
  if report.hosts.isEmpty then ""
  else join ["Hosts\n", fragments (hostLines report) report.hosts, "\n"]

/-! ## SSH -/

def selectionLines (posture : SshProjection) : String :=
  if posture.selections.kex.isSome then
    join ["    KEXINIT-inferred selections (", posture.status,
      "; no completed key exchange): KEX=", terminalSshValue posture.selections.kex, "  host-key=",
      terminalSshValue posture.selections.hostKey, "\n", "      cipher c2s=",
      terminalSshValue posture.selections.cipherC2s, "  s2c=",
      terminalSshValue posture.selections.cipherS2c, "  MAC c2s=",
      terminalSshValue posture.selections.macC2s, "  s2c=",
      terminalSshValue posture.selections.macS2c, "\n"]
  else "    No inferred selections available.\n"

def sshLines (service : ServiceObservation) (posture : SshProjection) : String :=
  let banner := (service.banner.map fun banner =>
    join ["    Banner: ", terminalSshValue (some banner), "\n"]).getD ""
  let reason := (posture.reason.map fun reason =>
    join ["    Skip reason (bounded): ", terminalSshValue (some reason), "\n"]).getD ""
  join ["  ", service.address.display, "  protocol=", terminalSshValue posture.protocol,
    "  software=", terminalSshValue posture.software, "  status=", posture.status, "\n", banner,
    selectionLines posture, reason]

def sshPostureSection (services : List ServiceObservation) : String :=
  let shown := services.filter fun service => service.ssh.isSome
  if services.any fun service => service.ssh.isSome then
    join ["SSH posture\n",
      join (shown.filterMap fun service => (ssh service).map (sshLines service)), "\n"]
  else ""

/-! ## HTTP and TLS -/

def redirectLine (redirect : RedirectObservation) : String :=
  join ["    ", cleanTerminal redirect.source, " --", toString redirect.status, "--> ",
    cleanTerminal redirect.destination, "\n"]

def httpLines (http : HttpObservation) : String :=
  let hsts :=
    if http.hstsState ≠ .notApplicable then join ["  HSTS=", hstsLabel http.hstsState] else ""
  join ["  ", cleanTerminal http.url, "  status=", (http.status.map toString).getD "error", hsts,
    "  security.txt=", optionBool http.securityTxt, "\n", fragments redirectLine http.redirects]

def httpSection (http : List HttpObservation) : String :=
  if http.isEmpty then "" else join ["HTTP\n", fragments httpLines http, "\n"]

def limitationLine (limitation : String) : String :=
  join ["    Error/limitation: ", cleanTerminal limitation, "\n"]

def tlsLines (tls : TlsObservation) : String :=
  join ["  ", tls.address.display, "  validation=",
    if tls.handshakeSucceeded then "passed" else "failed", "  trusted=",
    optionYesNo tls.certificateTrusted, "  hostname=", optionYesNo tls.hostnameMatches,
    "  protocol=", cleanTerminal (tls.protocolVersion.getD "unknown"), "  cipher=",
    cleanTerminal (tls.cipherSuite.getD "unknown"), "  chain=",
    orUnknown tls.certificateChainLength, "  key_bits=", orUnknown tls.publicKeyBits, "\n",
    "    Leaf SHA-256: ", cleanTerminal (tls.leafCertificateSha256.getD "unknown"), "\n",
    "    Subject: ", cleanTerminal (tls.subject.getD "unknown"), "  Issuer: ",
    cleanTerminal (tls.issuer.getD "unknown"), "  Serial: ",
    cleanTerminal (tls.serialNumber.getD "unknown"), "\n", "    Validity: ",
    orUnknown tls.validFromUnix, " to ", orUnknown tls.validUntilUnix, "  key_oid=",
    cleanTerminal (tls.publicKeyAlgorithm.getD "unknown"), "  signature_oid=",
    cleanTerminal (tls.signatureAlgorithm.getD "unknown"), "\n", "    SANs",
    if tls.subjectAltNamesTruncated then " (truncated)" else "", ": ",
    cleanTerminal (", ".intercalate tls.subjectAltNames), "\n",
    fragments limitationLine tls.errors]

def tlsSection (tls : List TlsObservation) : String :=
  if tls.isEmpty then "" else join ["TLS\n", fragments tlsLines tls, "\n"]

/-! ## Findings, intelligence and score -/

def findingLine (finding : Finding) : String :=
  join ["  ", padRight 8 finding.severity.debug.toUpper, " ", cleanTerminal finding.title, " — ",
    cleanTerminal finding.target, "\n"]

def findingLines (findings : List Finding) : String :=
  if findings.isEmpty then "  No findings generated.\n" else fragments findingLine findings

def candidateLine (candidate : CertificateTransparencyCandidate) : String :=
  join ["  ", cleanTerminal candidate.name, "\n"]

def verifiedSubdomains : Option CertificateTransparencyObservation → String
  | none => ""
  | some observation =>
    let verified := observation.candidates.filter fun candidate =>
      !candidate.wildcard && candidate.dnsStatus = .resolved
    join ["\nVerified subdomains\n", "  Source: ", cleanTerminal observation.source, " · pages: ",
      toString observation.pagesFetched, " · complete: ", toString observation.complete, "\n",
      "  DNS verification is passive only; these names were not actively scanned.\n",
      fragments candidateLine verified]

def providerLine (related : Option RelatedDomainsObservation) : String :=
  ((related.bind RelatedDomainsObservation.provider).map fun provider =>
    join ["\nProvider: ", cleanTerminal provider, "\n"]).getD ""

def deductionLine (deduction : ScoreDeduction) : String :=
  join ["  -", toString deduction.points, "  ", cleanTerminal deduction.reason, "\n"]

def scoreLines : Option ExposureScore → String
  | none => ""
  | some score =>
    join ["\nSurface Exposure Score: ", toString score.value, "/100 (",
      score.classification.debug, ", model ", cleanTerminal score.modelVersion, ")\n",
      if score.incomplete then "  Incomplete scan: score interpretation is limited.\n" else "",
      fragments deductionLine score.deductions]

def skippedLine (skipped : SkippedCheck) : String :=
  join ["  ", cleanTerminal skipped.check, " — ", cleanTerminal skipped.reason, "\n"]

def skippedLines (skippedChecks : List SkippedCheck) : String :=
  if skippedChecks.isEmpty then ""
  else join ["\nChecks not run\n", fragments skippedLine skippedChecks]

def severityLine (findings : List Finding) (severity : Severity) : String :=
  let count := (findings.filter fun finding => finding.severity = severity).length
  join ["  ", severity.debug, ": ", toString count, "\n"]

def summaryLines (report : ScanReport) : String :=
  let errors := (lifecycle report).errors
  join ["\nSummary\n",
    fragments (severityLine report.findings) [.critical, .high, .medium, .low, .info],
    if 0 < errors then join ["  ", report.status.debug, " errors: ", toString errors, "\n"] else ""]

/-! ## The report -/

def renderTerminal (displayTime : OffsetDateTime → String) (report : ScanReport) : String :=
  join ["Surface ", cleanTerminal report.scannerVersion, "\n", "Target: ",
    cleanTerminal report.target.original, "\n", "Started: ", displayTime report.startedAt, "\n",
    "Status: ", report.status.debug, "\n\n", hostsSection report,
    sshPostureSection report.services, httpSection report.http, tlsSection report.tls, "Findings\n",
    findingLines report.findings,
    verifiedSubdomains
      (report.intelligence.bind IntelligenceObservation.certificateTransparency),
    providerLine (report.intelligence.bind IntelligenceObservation.relatedDomains),
    scoreLines report.exposureScore, skippedLines report.skippedChecks, summaryLines report]

/-! ## Comparisons -/

def changeMarker (change : Change) : String :=
  match change.oldValue, change.newValue with
  | none, some _ => "+"
  | some _, none => "-"
  | _, _ => "~"

def changeLine (change : Change) : String :=
  join ["  ", changeMarker change, " ", cleanTerminal change.category, " ",
    cleanTerminal change.key, "\n"]

def changesSection (title : String) (changes : List Change) : String :=
  if changes.isEmpty then "" else join [title, "\n", fragments changeLine changes, "\n"]

def warningLine (warning : String) : String :=
  join ["Warning: ", cleanTerminal warning, "\n"]

def renderDiffTerminal (diff : ScanDiff) : String :=
  let score := (diff.scoreChange.map fun change =>
    join ["Exposure score changed: ", cleanTerminal change.evidence, "\n"]).getD ""
  join ["Surface scan diff\n", "Old: ", cleanTerminal diff.oldScan.scanId, "\n", "New: ",
    cleanTerminal diff.newScan.scanId, "\n", "Target: ", cleanTerminal diff.newScan.target, "\n\n",
    changesSection "Network" diff.networkChanges,
    changesSection "Services and HTTP" diff.serviceChanges,
    changesSection "Certificates" diff.certificateChanges,
    changesSection "DNS and mail" diff.dnsChanges, changesSection "Findings" diff.findingChanges,
    changesSection "Completeness" diff.completenessChanges, score,
    fragments warningLine diff.warnings,
    if diff.summary.added = 0 ∧ diff.summary.removed = 0 ∧ diff.summary.changed = 0 then
      "No semantic changes.\n"
    else ""]

end Surface

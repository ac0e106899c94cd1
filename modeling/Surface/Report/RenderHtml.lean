import Surface.Markup
import Surface.Report.Diff
import Surface.Report.Labels

/-!
# Surface.Report.RenderHtml

The HTML renderers: one function for each fragment of the page, in the order of the page.

`displayTime` and `debugRecord` are the texts of times and of DNS records; the renderers escape
both.
-/

namespace Surface

/-! ## Texts -/

def severityClass : Severity → String
  | .info => "info"
  | .low => "low"
  | .medium => "medium"
  | .high => "high"
  | .critical => "critical"

def ctDnsGroups : List (CertificateTransparencyDnsStatus × String) :=
  [(.resolved, "Currently resolved"), (.noAddress, "No current address record"),
    (.nxDomain, "Historical certificate names"),
    (.indeterminate, "DNS verification indeterminate"),
    (.notChecked, "Wildcard or unverified certificate names")]

/-- The text of a missing number. -/
def orDash {α : Type} [ToString α] (value : Option α) : String := (value.map toString).getD "—"

/-- What stands for an empty fragment. -/
def orWhenEmpty (fragment otherwise : String) : String :=
  if fragment.isEmpty then otherwise else fragment

/-! ## Findings -/

def evidenceItem (item : Evidence) : String :=
  join ["<li><code>", escapeHtml item.location, "</code>: ", escapeHtml item.observed, "</li>"]

def codeItem (value : String) : String :=
  join ["<li><code>", escapeHtml value, "</code></li>"]

def textItem (value : String) : String :=
  join ["<li>", escapeHtml value, "</li>"]

def findingTag (severity : Severity) : String :=
  join ["<article class=\"finding ", severityClass severity, "\">"]

def findingArticle (finding : Finding) : String :=
  let evidence := fragments evidenceItem finding.evidence
  let remediation := (finding.remediation.map fun value =>
    join ["<p><strong>Remediation:</strong> ", escapeHtml value, "</p>"]).getD ""
  let references := fragments codeItem finding.references
  join [findingTag finding.severity, "<h3>", escapeHtml finding.severity.debug.toUpper, " — ",
    escapeHtml finding.title, "</h3><p><strong>ID:</strong> <code>", escapeHtml finding.id,
    "</code> · <strong>Target:</strong> <code>", escapeHtml finding.target,
    "</code> · <strong>Category:</strong> ", finding.category.debug,
    " · <strong>Confidence:</strong> ", finding.confidence.debug, "</p><p>",
    escapeHtml finding.description, "</p><h4>Evidence</h4><ul>", evidence, "</ul>", remediation,
    "<details><summary>References</summary><ul>", orWhenEmpty references "<li>None.</li>",
    "</ul></details></article>"]

/-! ## DNS -/

def cnameItem (hop : CnameHop) : String :=
  join ["<li><code>", escapeHtml hop.source, "</code> → <code>", escapeHtml hop.destination,
    "</code></li>"]

def danglingItem (observation : DanglingCnameObservation) : String :=
  let evidence := fragments textItem observation.evidence
  let errors := fragments textItem observation.errors
  let limitations := fragments textItem observation.limitations
  join ["<li><code>", escapeHtml observation.sourceAlias, "</code> -&gt; <code>",
    escapeHtml observation.canonicalTarget, "</code>: <strong>", observation.status.name,
    "</strong><ul>", orWhenEmpty evidence "<li>No conclusive evidence retained.</li>",
    "</ul><ul class=\"error\">", errors, "</ul><ul>", limitations, "</ul></li>"]

def danglingSection (observations : List DanglingCnameObservation) : String :=
  if observations.isEmpty then "<p>No primary-chain CNAME destinations were checked.</p>"
  else
    join ["<ul>", fragments danglingItem observations,
      "</ul><p>Destination addresses were not scanned; ownership, claimability, and ",
      "takeover feasibility were not tested.</p>"]

def resolvedRow (host : ResolvedHost) : String :=
  join ["<tr><td><code>", escapeHtml (host.hostname.getD "—"), "</code></td><td><code>",
    escapeHtml host.ip.display, "</code></td><td>", host.source.debug, "</td></tr>"]

def axfrRow (limits : AxfrLimits) (attempt : AxfrAttempt) : String :=
  join ["<tr><td><code>", escapeHtml attempt.server, "</code></td><td><code>",
    escapeHtml attempt.endpoint.display, "</code></td><td>", attempt.outcome.name, "</td><td>",
    escapeHtml (attempt.responseCode.getD "none"), "</td><td>", toString attempt.messages, "/",
    toString limits.messages, "</td><td>", toString attempt.records, "/", toString limits.records,
    "</td><td>", toString attempt.bytes, "/", toString limits.bytes, "</td><td>",
    escapeHtml (attempt.error.getD "—"), "</td></tr>"]

def axfrSection : Option AuthoritativeAxfrObservation → String
  | none => "<p>Not recorded or not confidently applicable.</p>"
  | some axfr =>
    let attempts := fragments (axfrRow axfr.limits) axfr.attempts
    join ["<p><strong>Zone:</strong> <code>", escapeHtml axfr.zone,
      "</code> · <strong>NS names:</strong> ", toString axfr.nameservers.length, "/",
      toString axfr.limits.nameservers, " · <strong>IPs per NS:</strong> at most ",
      toString axfr.limits.ipsPerNameserver, " · <strong>Endpoints:</strong> ",
      toString axfr.attempts.length, "/", toString axfr.limits.endpoints,
      "</p><table><thead><tr><th>Server</th><th>TCP endpoint</th><th>Outcome</th><th>",
      "Response</th><th>Messages</th><th>Records</th><th>Bytes</th><th>Error</th></tr>",
      "</thead><tbody>",
      orWhenEmpty attempts "<tr><td colspan=\"8\">No endpoint attempts.</td></tr>",
      "</tbody></table><p>Transferred owner names and records were neither retained nor ",
      "scanned.</p>"]

def wildcardSection : Option WildcardDnsObservation → String
  | none => "<p>Status: not recorded (older report).</p>"
  | some wildcard =>
    let answerTypes := ", ".intercalate (wildcard.answerTypes.map WildcardDnsRecordType.asStr)
    let fingerprints := fragments codeItem wildcard.answerFingerprints
    let errors := fragments textItem wildcard.errors
    let limitations := fragments textItem wildcard.limitations
    join ["<p><strong>Status:</strong> ", wildcard.status.name,
      " · <strong>Probes attempted:</strong> ", toString wildcard.probesAttempted,
      "/2 · <strong>Answer types:</strong> ", escapeHtml (orWhenEmpty answerTypes "none"),
      " · <strong>Fingerprints:</strong> ", toString wildcard.answerFingerprints.length, "</p><ul>",
      orWhenEmpty fingerprints "<li>None.</li>", "</ul><h4>Errors</h4><ul class=\"error\">",
      orWhenEmpty errors "<li>None.</li>", "</ul><h4>Limitations</h4><ul>",
      orWhenEmpty limitations "<li>None.</li>",
      "</ul><p>Probe answers were not scanned or used as downstream targets.</p>"]

def rrsetItem (rrset : DnssecRrsetObservation) : String :=
  join ["<li><code>", escapeHtml rrset.name, "</code> <code>", rrset.recordType.asStr, "</code>: ",
    rrset.status.name, "</li>"]

def dnssecSection : Option DnssecObservation → String
  | none => "<p>Status: not recorded (older report).</p>"
  | some dnssec =>
    let checked := fragments rrsetItem dnssec.checkedRrsets
    let errors := fragments textItem dnssec.errors
    let limitations := fragments textItem dnssec.limitations
    join ["<p><strong>Status:</strong> ", dnssec.status.name,
      "</p><h4>Checked names and types</h4><ul>", orWhenEmpty checked "<li>None completed.</li>",
      "</ul><h4>Errors</h4><ul class=\"error\">", orWhenEmpty errors "<li>None.</li>",
      "</ul><h4>Limitations</h4><ul>", orWhenEmpty limitations "<li>None.</li>", "</ul>"]

def dnsSection (debugRecord : DnsRecord → String) : Option DnsObservation → String
  | none => "<p>DNS stage produced no observation.</p>"
  | some dns =>
    let records := fragments (fun record => codeItem (debugRecord record)) dns.records
    let cnameChain := fragments cnameItem dns.cnameChain
    join ["<p>Queried <code>", escapeHtml dns.queriedName, "</code></p><h3>CNAME chain</h3><ul>",
      orWhenEmpty cnameChain "<li>None observed.</li>", "</ul><h3>Dangling CNAME indicators</h3>",
      danglingSection dns.danglingCnames, "<h3>Records</h3><ul>", records,
      "</ul><h3>Resolved scan addresses</h3><table><thead><tr><th>Host</th><th>Address</th>",
      "<th>Source</th></tr></thead><tbody>", fragments resolvedRow dns.resolvedHosts,
      "</tbody></table><h3>DNSSEC</h3>", dnssecSection dns.dnssec, "<h3>Authoritative AXFR</h3>",
      axfrSection dns.authoritativeAxfr, "<h3>Wildcard DNS detection</h3>",
      wildcardSection dns.wildcardDns, "<p><strong>MX:</strong> ",
      optionBool (some dns.mail.mxPresent), " · <strong>SPF records:</strong> ",
      toString dns.mail.spf.records.length, " · <strong>DMARC records:</strong> ",
      toString dns.mail.dmarc.length, " · <strong>MTA-STS:</strong> ",
      toString dns.mail.mtaSts.length, " · <strong>TLS-RPT:</strong> ",
      toString dns.mail.tlsRpt.length, "</p>"]

/-! ## Hosts and services -/

def portItem (port : PortProjection) : String :=
  join ["<li>", toString port.number, "/", port.transport, " ", port.state, " ",
    escapeHtml port.service, "</li>"]

def hostArticle (report : ScanReport) (host : HostObservation) : String :=
  join ["<article><h3>", escapeHtml host.ip.display, "</h3><ul>",
    fragments portItem (ports report host), "</ul></article>"]

def detailText (detail : String × String) : String :=
  join [escapeHtml (boundedSshValue (some detail.1)), "=",
    escapeHtml (boundedSshValue (some detail.2))]

def serviceRow (service : ServiceObservation) : String :=
  let details := ", ".intercalate (service.protocolDetails.entries.map detailText)
  join ["<tr><td><code>", escapeHtml service.address.display, "</code></td><td>",
    service.transport.name, "</td><td>", escapeHtml service.service.display, "</td><td>",
    service.confidence.debug, "</td><td>", orWhenEmpty details "—", "</td></tr>"]

def selectionsParagraph (posture : SshProjection) : String :=
  let detail := fun value => escapeHtml (boundedSshValue value)
  if posture.selections.kex.isSome then
    join ["<p><strong>KEXINIT-inferred selections (", posture.status,
      "; no completed key exchange):</strong> KEX <code>", detail posture.selections.kex,
      "</code> · host key <code>", detail posture.selections.hostKey,
      "</code> · cipher c2s/s2c <code>", detail posture.selections.cipherC2s, "</code>/<code>",
      detail posture.selections.cipherS2c, "</code> · MAC c2s/s2c <code>",
      detail posture.selections.macC2s, "</code>/<code>", detail posture.selections.macS2c,
      "</code></p>"]
  else "<p><strong>No inferred selections available.</strong></p>"

def sshEntry (service : ServiceObservation) (posture : SshProjection) : String :=
  let detail := fun value => escapeHtml (boundedSshValue value)
  let selections := selectionsParagraph posture
  let skipReason := (posture.reason.map fun reason =>
    join ["<p><strong>Skip reason (bounded):</strong> <code>",
      escapeHtml (boundedSshValue (some reason)), "</code></p>"]).getD ""
  join ["<details class=\"card\"><summary><code>", escapeHtml service.address.display,
    "</code> · status <code>", posture.status,
    "</code></summary><p><strong>Protocol:</strong> <code>", detail posture.protocol,
    "</code> · <strong>Software:</strong> <code>", detail posture.software,
    "</code> · <strong>Banner:</strong> <code>", escapeHtml (boundedSshValue service.banner),
    "</code></p>", selections, skipReason, "</details>"]

def sshSection (services : List ServiceObservation) : String :=
  let sshEntries := join (services.filterMap fun service =>
    (ssh service).map (sshEntry service))
  if sshEntries.isEmpty then ""
  else join ["<section><h2>SSH posture</h2>", sshEntries, "</section>"]

/-! ## HTTP and TLS -/

def redirectItem (redirect : RedirectObservation) : String :=
  join ["<li><code>", escapeHtml redirect.source, "</code> <strong>—", toString redirect.status,
    "→</strong> <code>", escapeHtml redirect.destination, "</code></li>"]

def headerItem (header : String × String) : String :=
  join ["<li><code>", escapeHtml header.1, "</code>: ", escapeHtml header.2, "</li>"]

def cookieItem (cookie : CookieObservation) : String :=
  join ["<li><code>", escapeHtml cookie.name, "</code>: Secure=", toString cookie.secure,
    " HttpOnly=", toString cookie.httpOnly, " SameSite=", escapeHtml (cookie.sameSite.getD "—"),
    " Domain=", escapeHtml (cookie.domain.getD "—"), " Path=", escapeHtml (cookie.path.getD "—"),
    "</li>"]

def httpArticle (http : HttpObservation) : String :=
  let redirects := fragments redirectItem http.redirects
  let headers := fragments headerItem http.headers.entries
  let cookies := fragments cookieItem http.cookies
  let error := (http.error.map fun error =>
    join ["<p class=\"error\"><strong>Error:</strong> ", escapeHtml error, "</p>"]).getD ""
  join ["<article class=\"card\"><h3><code>", escapeHtml http.url,
    "</code></h3><p><strong>Status:</strong> ", (http.status.map toString).getD "error",
    " · <strong>Final URL:</strong> <code>", escapeHtml http.effectiveUrl,
    "</code> · <strong>Protocol:</strong> ", escapeHtml (http.version.getD "unknown"),
    " · <strong>Latency:</strong> ", orDash http.latencyMs, " ms</p><p><strong>Title:</strong> ",
    escapeHtml (http.title.getD "—"), " · <strong>HSTS:</strong> ", hstsLabel http.hstsState,
    " · <strong>security.txt:</strong> ", optionBool http.securityTxt,
    " · <strong>robots.txt:</strong> ", optionBool http.robotsTxt,
    " · <strong>sitemap.xml:</strong> ", optionBool http.sitemapXml,
    "</p><p><strong>Retained body:</strong> ", toString http.bodyBytes, " bytes",
    if http.bodyTruncated then " (truncated)" else "", "</p><h4>Redirects</h4><ul>",
    orWhenEmpty redirects "<li>None.</li>", "</ul><details><summary>Selected headers</summary><ul>",
    orWhenEmpty headers "<li>None retained.</li>",
    "</ul></details><details><summary>Cookies (values omitted)</summary><ul>",
    orWhenEmpty cookies "<li>None.</li>", "</ul></details>", error, "</article>"]

def tlsRow (tls : TlsObservation) : String :=
  let names := ", ".intercalate (tls.subjectAltNames.map escapeHtml)
  let tlsErrors := "; ".intercalate (tls.errors.map escapeHtml)
  join ["<tr><td><code>", escapeHtml tls.address.display, "</code></td><td>",
    escapeHtml tls.serverName, "</td><td>", if tls.handshakeSucceeded then "passed" else "failed",
    "</td><td>", optionYesNo tls.certificateTrusted, "</td><td>", optionYesNo tls.hostnameMatches,
    "</td><td>", escapeHtml (tls.protocolVersion.getD "—"), "</td><td>",
    escapeHtml (tls.cipherSuite.getD "—"), "</td><td>", orDash tls.certificateChainLength,
    "</td><td><code>", escapeHtml (tls.leafCertificateSha256.getD "—"), "</code></td><td>",
    escapeHtml (tls.subject.getD "—"), "</td><td>", escapeHtml (tls.issuer.getD "—"), "</td><td>",
    escapeHtml (tls.serialNumber.getD "—"), "</td><td>", orDash tls.validFromUnix, "</td><td>",
    orDash tls.validUntilUnix, "</td><td>", orWhenEmpty names "—", "</td><td>",
    if tls.subjectAltNamesTruncated then "yes" else "no", "</td><td>",
    escapeHtml (tls.publicKeyAlgorithm.getD "—"), "</td><td>", orDash tls.publicKeyBits,
    "</td><td>", escapeHtml (tls.signatureAlgorithm.getD "—"), "</td><td>",
    orWhenEmpty tlsErrors "—", "</td></tr>"]

/-! ## Errors, intelligence and score -/

def errorItem (error : ScanError) : String :=
  let target := (error.target.map fun target =>
    join ["<code>", escapeHtml target, "</code>: "]).getD ""
  join ["<li><strong>", error.stage.debug, "/", error.kind.debug, "</strong> ", target,
    escapeHtml error.message, "</li>"]

def ctRow (candidate : CertificateTransparencyCandidate) : String :=
  join ["<tr><td><code>", escapeHtml candidate.name, "</code></td><td>",
    if candidate.wildcard then "yes" else "no", "</td><td>", toString candidate.issuanceCount,
    "</td></tr>"]

/-- The candidates of one status under its label, if there are any. -/
def ctGroup (candidates : List CertificateTransparencyCandidate)
    (group : CertificateTransparencyDnsStatus × String) : Option String :=
  let rows := fragments ctRow (candidates.filter fun candidate => candidate.dnsStatus = group.1)
  if rows.isEmpty then none
  else some (join ["<tr><th colspan=\"3\">", group.2, "</th></tr>", rows])

def ctSection : Option CertificateTransparencyObservation → String
  | none => "<p>Not available.</p>"
  | some observation =>
    let candidates := join (ctDnsGroups.filterMap (ctGroup observation.candidates))
    let limitations := fragments textItem observation.errors
    join ["<p><strong>Source:</strong> ", escapeHtml observation.source,
      " · <strong>Issuances:</strong> ", toString observation.issuanceCount,
      " · <strong>Pages:</strong> ", toString observation.pagesFetched,
      " · <strong>Complete:</strong> ", toString observation.complete,
      "</p><p>Non-wildcard names received only a bounded passive DNS address lookup; they ",
      "were not actively scanned.</p><table><thead><tr><th>Name</th><th>Wildcard</th><th>",
      "Issuances</th></tr></thead><tbody>", candidates, "</tbody></table><ul class=\"error\">",
      limitations, "</ul>"]

def relatedArticle (candidate : RelatedDomainCandidate) : String :=
  join ["<article class=\"card\"><h3><code>", escapeHtml candidate.name,
    "</code></h3><p><strong>Confidence:</strong> ", escapeHtml candidate.confidence, "</p><ul>",
    fragments textItem candidate.evidence, "</ul></article>"]

def relatedSection : Option RelatedDomainsObservation → String
  | none => "<p>Not requested.</p>"
  | some related =>
    let candidates := fragments relatedArticle related.candidates
    join ["<p><strong>Nameservers:</strong> <code>",
      escapeHtml (", ".intercalate related.nameservers), "</code> · <strong>Provider:</strong> ",
      escapeHtml (related.provider.getD "unknown"),
      "</p><p>Shared DNS infrastructure does not prove common ownership.</p>",
      orWhenEmpty candidates "<p>No candidates returned.</p>", "<ul class=\"error\">",
      fragments textItem related.errors, "</ul>"]

def skippedItem (skipped : SkippedCheck) : String :=
  join ["<li><code>", escapeHtml skipped.check, "</code> — ", escapeHtml skipped.reason, "</li>"]

def deductionItem (deduction : ScoreDeduction) : String :=
  join ["<li>-", toString deduction.points, ": ", escapeHtml deduction.reason, "</li>"]

def scoreSection (scoreIncomplete : Bool) : Option ExposureScore → String
  | none => "<p>Score unavailable.</p>"
  | some score =>
    let incomplete :=
      if scoreIncomplete then
        "<p><strong>Incomplete scan: score interpretation is limited.</strong></p>"
      else ""
    join ["<p><strong>", toString score.value, "/100</strong> (", score.classification.debug,
      ", model ", escapeHtml score.modelVersion, ")</p>", incomplete, "<ul>",
      fragments deductionItem score.deductions, "</ul>"]

/-! ## The page -/

def htmlStyle : String :=
  join [":root\x7bcolor-scheme:light;--bg:#f4f7fb;--panel:#fff;--text:#172033;",
    "--muted:#607089;--line:#dbe3ee;--accent:#3157d5\x7d*\x7bbox-sizing:border-box\x7d",
    "body\x7bmargin:0;background:var(--bg);color:var(--text);",
    "font:15px/1.55 system-ui,sans-serif\x7d",
    "main\x7bmax-width:76rem;margin:auto;padding:2rem 1rem 4rem\x7d",
    "header\x7bpadding:1.5rem;border-radius:1rem;",
    "background:linear-gradient(135deg,#172554,#3157d5);color:#fff\x7dheader h1\x7bmargin:0\x7d",
    ".meta,.cards\x7bdisplay:grid;",
    "grid-template-columns:repeat(auto-fit,minmax(10rem,1fr));gap:.8rem\x7d",
    ".meta div,.card,.finding,section\x7bbackground:var(--panel);",
    "border:1px solid var(--line);border-radius:.8rem;padding:1rem\x7d",
    "header .meta div\x7bbackground:#ffffff18;border-color:#ffffff33\x7d",
    "dt\x7bfont-size:.78rem;text-transform:uppercase;color:var(--muted)\x7d",
    "header dt\x7bcolor:#dbeafe\x7ddd\x7bmargin:0;font-weight:650\x7d",
    "section\x7bmargin-top:1rem\x7dsection>h2\x7bmargin-top:0\x7d.cards\x7bmargin:1rem 0\x7d",
    ".cards .card\x7bfont-size:1.2rem;font-weight:700\x7d",
    ".cards small\x7bdisplay:block;color:var(--muted);font-size:.78rem\x7d",
    "code\x7boverflow-wrap:anywhere\x7d",
    "table\x7bborder-collapse:collapse;width:100%;display:block;overflow:auto\x7d",
    "th,td\x7bpadding:.55rem;border-bottom:1px solid var(--line);text-align:left;",
    "white-space:nowrap\x7dul\x7bpadding-left:1.3rem\x7d",
    ".finding\x7bborder-left:.45rem solid #64748b;margin:.8rem 0\x7d",
    ".critical,.high\x7bborder-left-color:#c62828\x7d.medium\x7bborder-left-color:#ef6c00\x7d",
    ".low\x7bborder-left-color:#ca8a04\x7d.info\x7bborder-left-color:#2563eb\x7d",
    ".error\x7bcolor:#b91c1c\x7dfooter\x7bmargin-top:2rem;color:var(--muted)\x7d",
    "@media print\x7bbody\x7bbackground:#fff\x7dmain\x7bmax-width:none;padding:0\x7d",
    "section,.card,.finding,header\x7bbreak-inside:avoid\x7d\x7d"]

def htmlHeader (displayTime : OffsetDateTime → String) (report : ScanReport) : String :=
  let target := escapeHtml report.target.original
  let completed := (report.completedAt.map displayTime).getD "incomplete"
  let scoreValue := (report.exposureScore.map fun score => toString score.value ++ "/100").getD "—"
  join ["<!doctype html><html lang=\"en\"><head><meta charset=\"utf-8\">",
    "<meta name=\"viewport\" content=\"width=device-width,initial-scale=1\"><title>",
    "Surface report — ", target, "</title><style>", htmlStyle,
    "</style></head><body><main><header><h1>Surface report</h1><p><code>", target,
    "</code></p><dl class=\"meta\"><div><dt>Status</dt><dd>", report.status.debug,
    "</dd></div><div><dt>Started</dt><dd>", escapeHtml (displayTime report.startedAt),
    "</dd></div><div><dt>Completed</dt><dd>", escapeHtml completed,
    "</dd></div><div><dt>Scan ID</dt><dd><code>", escapeHtml report.scanId,
    "</code></dd></div></dl></header><div class=\"cards\"><div class=\"card\"><small>",
    "Exposure score</small>", scoreValue, "</div><div class=\"card\"><small>Findings</small>",
    toString report.findings.length, "</div><div class=\"card\"><small>Hosts</small>",
    toString report.hosts.length, "</div><div class=\"card\"><small>Services</small>",
    toString report.services.length, "</div><div class=\"card\"><small>HTTP endpoints</small>",
    toString report.http.length, "</div><div class=\"card\"><small>Partial errors</small>",
    toString report.errors.length, "</div></div>"]

def htmlSections (debugRecord : DnsRecord → String) (report : ScanReport) : String :=
  let findings := orWhenEmpty (fragments findingArticle report.findings)
    "<p>No findings generated.</p>"
  let hosts := orWhenEmpty (fragments (hostArticle report) report.hosts)
    "<p>No hosts observed.</p>"
  let http := orWhenEmpty (fragments httpArticle report.http)
    "<p>No HTTP endpoints observed.</p>"
  let certificateTransparency :=
    ctSection (report.intelligence.bind IntelligenceObservation.certificateTransparency)
  let related := relatedSection (report.intelligence.bind IntelligenceObservation.relatedDomains)
  let errors := orWhenEmpty (fragments errorItem report.errors) "<li>None.</li>"
  let skipped := orWhenEmpty (fragments skippedItem report.skippedChecks) "<li>None.</li>"
  join ["<section><h2>Findings</h2>", findings, "</section><section><h2>DNS</h2>",
    dnsSection debugRecord report.dns, "</section><section><h2>Hosts and open ports</h2>", hosts,
    "</section><section><h2>Services</h2><table><thead><tr><th>Endpoint</th><th>Transport",
    "</th><th>Service</th><th>Confidence</th><th>Details</th></tr></thead><tbody>",
    fragments serviceRow report.services, "</tbody></table></section>", sshSection report.services,
    "<section><h2>HTTP</h2>", http,
    "</section><section><h2>TLS</h2><table><thead><tr><th>Endpoint</th><th>Server name",
    "</th><th>Validation</th><th>Trusted</th><th>Hostname</th><th>Protocol</th><th>Cipher",
    "</th><th>Chain length</th><th>Leaf SHA-256</th><th>Subject</th><th>Issuer</th><th>",
    "Serial</th><th>Valid from</th><th>Valid until</th><th>Names</th><th>SANs truncated",
    "</th><th>Key algorithm</th><th>Key bits</th><th>Signature algorithm</th><th>",
    "Errors/limitations</th></tr></thead><tbody>", fragments tlsRow report.tls,
    "</tbody></table></section><section><h2>Certificate Transparency candidates</h2>",
    certificateTransparency, "</section><section><h2>Related domain candidates</h2>", related,
    "</section><section><h2>Surface Exposure Score</h2>",
    scoreSection (lifecycle report).scoreIncomplete report.exposureScore,
    "</section><section><h2>Partial errors</h2><ul>", errors,
    "</ul></section><section><h2>Checks not run</h2><ul>", skipped, "</ul></section>"]

def htmlFooter (report : ScanReport) : String :=
  let configuration := report.configuration
  join ["<section><h2>Configuration</h2><p>TCP ports: ", toString configuration.ports.length,
    " · UDP ports: ", toString configuration.udpPorts.length, " · concurrency: ",
    toString configuration.concurrency, " · connect timeout: ",
    toString configuration.connectTimeoutMs, " ms · request timeout: ",
    toString configuration.requestTimeoutMs, " ms · global timeout: ",
    toString configuration.globalTimeoutMs,
    " ms</p></section><section><h2>Limitations</h2><p>Surface analyzes externally ",
    "observable services and security-related configuration. It performs no active ",
    "exploitation. DNS answers, redirects, timeouts, and a clean report do not prove ",
    "security.</p></section><footer>Surface ", escapeHtml report.scannerVersion, " · schema ",
    escapeHtml report.schemaVersion, "</footer></main></body></html>\n"]

def renderHtml (displayTime : OffsetDateTime → String) (debugRecord : DnsRecord → String)
    (report : ScanReport) : String :=
  join [htmlHeader displayTime report, htmlSections debugRecord report, htmlFooter report]

/-! ## Comparisons -/

def changeOperation (change : Change) : String :=
  match change.oldValue, change.newValue with
  | none, some _ => "added"
  | some _, none => "removed"
  | _, _ => "changed"

def changeRow (change : Change) : String :=
  join ["<tr><td>", escapeHtml (changeOperation change), "</td><td>", escapeHtml change.category,
    "</td><td><code>", escapeHtml change.key, "</code></td><td>", escapeHtml change.significance,
    "</td></tr>"]

/-- Every change of a comparison, the change of the score last. -/
def ScanDiff.allChanges (diff : ScanDiff) : List Change :=
  diff.networkChanges ++ diff.serviceChanges ++ diff.certificateChanges ++ diff.dnsChanges ++
    diff.findingChanges ++ diff.completenessChanges ++ diff.scoreChange.toList

def renderDiffHtml (diff : ScanDiff) : String :=
  let rows := orWhenEmpty (fragments changeRow diff.allChanges)
    "<tr><td colspan=\"4\">No semantic changes.</td></tr>"
  join ["<!doctype html><html lang=\"en\"><head><meta charset=\"utf-8\">",
    "<meta name=\"viewport\" content=\"width=device-width\"><title>Surface scan diff",
    "</title><style>body\x7bfont:16px system-ui;max-width:70rem;margin:2rem ",
    "auto;padding:0 1rem\x7dtable\x7bborder-collapse:collapse;width:100%\x7d",
    "th,td\x7bpadding:.5rem;border-bottom:1px solid #888;text-align:left\x7d",
    "code\x7boverflow-wrap:anywhere\x7d</style></head><body><main><h1>Surface scan diff",
    "</h1><p><strong>Target:</strong> <code>", escapeHtml diff.newScan.target,
    "</code></p><p><strong>Old:</strong> <code>", escapeHtml diff.oldScan.scanId,
    "</code><br><strong>New:</strong> <code>", escapeHtml diff.newScan.scanId,
    "</code></p><table><thead><tr><th>Operation</th><th>Category</th><th>Key</th><th>",
    "Significance</th></tr></thead><tbody>", rows,
    "</tbody></table><p>Changes are externally observed differences, not proof of ",
    "compromise or security.</p></main></body></html>\n"]

end Surface

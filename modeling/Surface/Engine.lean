import Surface.Flow
import Surface.Finalize
import Surface.Ssh.Analyze

/-!
# Surface.Engine

The linear orchestration of the core stages. What the network, the token and the clock do in one
run is a `CoreEnv`; every early return of the source is a `Flow.stop`.

* `dnsStages`: the DNS baseline and the four checks on top of it.
* `activeStages`: ports, services, HTTP and TLS, as far as they are selected.
* `runScanInner`, `runScanSelected`: the stages, without and with finalization.
-/

namespace Surface

/-- What one run meets: the result of every awaited operation, and what every look at the token
or at the deadline sees. -/
structure CoreEnv where
  scannerVersion : String
  scanId : String
  startedAt : OffsetDateTime
  dnsExpired : Bool
  baseline : Awaited (Except String DnsBaseline)
  dnssec : Awaited DnssecObservation
  axfr : AxfrCheck
  wildcard : WildcardDnsCheck
  dangling : DanglingCnameCheck
  portsExpired : Bool
  tcpHosts : List HostObservation
  udpHosts : List HostObservation
  afterPorts : Reading
  servicesExpired : Bool
  services : List ServiceObservation
  afterServices : Reading
  ssh : SshAnalysisState
  sshServices : List ServiceObservation
  httpExpired : Bool
  http : List HttpObservation
  afterHttp : Reading
  tlsExpired : Bool
  tls : List TlsObservation
  afterTls : Reading
  finishCancelled : Bool

def maxActiveEndpoints : Nat := 256

/-! ## Steps -/

def update (f : ScanReport → ScanReport) : Flow Run Unit := Flow.modify (·.update f)

def emit (event : ScanProgress) : Flow Run Unit := Flow.modify (·.emit event)

/-- Terminate the report and return it. -/
def halt {α : Type} (selection : ScanSelection) (stage : ScanStage) (kind : ScanErrorKind)
    (message : String) : Flow Run α :=
  Flow.stop (·.update (·.terminate stage selection kind message))

def deadlineCheck (selection : ScanSelection) (stage : ScanStage) (expired : Bool)
    (message : String) : Flow Run Unit :=
  if expired then halt selection stage .timeout message else pure ⟨⟩

def stageCheck (selection : ScanSelection) (stage : ScanStage) (reading : Reading)
    (interrupted expired : String) : Flow Run Unit :=
  if reading.cancelled then halt selection stage .cancelled interrupted
  else if reading.expired then halt selection stage .timeout expired
  else pure ⟨⟩

def stateCheck (selection : ScanSelection) (stage : ScanStage) (state : CheckState)
    (timedOut interrupted : String) : Flow Run Unit :=
  match state with
  | .completed => pure ⟨⟩
  | .timedOut => halt selection stage .timeout timedOut
  | .cancelled => halt selection stage .cancelled interrupted

/-- The explicit address is not of the only family that is enabled. -/
def NormalizedTarget.conflicts (target : NormalizedTarget) (configuration : ScanConfiguration) :
    Bool :=
  match target.explicitIp with
  | some ip => configuration.ipv4Only && ip.isIpv6 || configuration.ipv6Only && ip.isIpv4
  | none => false

namespace ScanReport

def modifyDns (report : ScanReport) (f : DnsObservation → DnsObservation) : ScanReport :=
  { report with dns := report.dns.map f }

def addErrors (report : ScanReport) (errors : List ScanError) : ScanReport :=
  { report with errors := report.errors ++ errors }

def incompatibleAddressFamily (report : ScanReport) : Bool :=
  report.target.conflicts report.configuration

/-- The addresses to scan, in order and without repetitions. -/
def scanAddresses (report : ScanReport) : List IpAddr :=
  match report.dns with
  | some dns => (OrdSet.ofList (dns.resolvedHosts.map ResolvedHost.ip)).toList
  | none => []

def openEndpointCount (report : ScanReport) : Nat :=
  (report.hosts.flatMap HostObservation.ports).countP (fun port => port.state = .open)

def finishSelectedReport (report : ScanReport) (cancelled : Bool) (selection : ScanSelection)
    (unfinishedStage : Option ScanStage) : ScanReport :=
  if cancelled then
    report.terminate (unfinishedStage.getD .findings) selection .cancelled
      "scan interrupted before findings finalization"
  else report.settle

end ScanReport

/-- The target names no host: an explicit address, or nothing at all. -/
def NormalizedTarget.hostless (target : NormalizedTarget) : Bool :=
  target.explicitIp.isSome || target.hostname.isNone

@[simp] theorem holds_update {f : ScanReport → ScanReport} {Q : Unit → Run → Prop}
    {R : Run → Prop} {run : Run} : (update f).holds Q R run ↔ Q ⟨⟩ (run.update f) := Iff.rfl

@[simp] theorem holds_emit {event : ScanProgress} {Q : Unit → Run → Prop} {R : Run → Prop}
    {run : Run} : (emit event).holds Q R run ↔ Q ⟨⟩ (run.emit event) := Iff.rfl

@[simp] theorem holds_halt {α : Type} {selection : ScanSelection} {stage : ScanStage}
    {kind : ScanErrorKind} {message : String} {Q : α → Run → Prop} {R : Run → Prop} {run : Run} :
    (halt selection stage kind message : Flow Run α).holds Q R run ↔
      R (run.update (·.terminate stage selection kind message)) := Iff.rfl

/-! ## DNS -/

section Stages

variable (env : CoreEnv) (selection : ScanSelection)

def preflight : Flow Run Unit := do
  let run ← Flow.read
  if run.report.incompatibleAddressFamily then
    halt selection .preflight .configuration
      "explicit IP conflicts with the selected address family"
  else
    update ({ · with message := "Scan started." })
    deadlineCheck selection .dns env.dnsExpired "global timeout expired before DNS analysis"

def dnsBaseline : Flow Run (Option AuthoritativeEvidence) := do
  emit (.started .dns)
  match env.baseline with
  | .cancelled => halt selection .dns .cancelled "scan interrupted during DNS analysis"
  | .timedOut => halt selection .dns .timeout "global timeout expired during DNS analysis"
  | .ready (.ok baseline) =>
    update fun report =>
      { report.addErrors baseline.observation.errors with dns := some baseline.observation }
    pure baseline.authority
  | .ready (.error message) =>
    update fun report =>
      report.addErrors [⟨.dns, report.target.hostname, .dns, message, true⟩]
    pure none

/-- A validation that did not finish leaves an indeterminate observation behind. -/
def unfinishedDnssec (limitation : String) (dns : DnsObservation) : DnsObservation :=
  { dns with dnssec := some { status := .indeterminate, limitations := [limitation] } }

def dnssecValidation : Flow Run Unit := do
  let run ← Flow.read
  if run.report.target.hostless then
    update (·.addSkippedCheck "dnssec_validation" "not applicable: target has no hostname")
  else
    match env.dnssec with
    | .cancelled =>
      update (·.modifyDns (unfinishedDnssec "scan interrupted during DNSSEC validation"))
      halt selection .dns .cancelled "scan interrupted during DNSSEC validation"
    | .timedOut =>
      update (·.modifyDns (unfinishedDnssec "global timeout expired during DNSSEC validation"))
      halt selection .dns .timeout "global timeout expired during DNSSEC validation"
    | .ready observation =>
      if observation.status = .indeterminate then
        update (·.addSkippedCheck "dnssec_validation"
          "DNSSEC validation was indeterminate; see DNSSEC errors")
      else if observation.status = .notApplicable then
        update (·.addSkippedCheck "dnssec_validation"
          "no address RRset was selected for DNSSEC validation")
      else pure ⟨⟩
      update (·.modifyDns ({ · with dnssec := some observation }))

/-- The error kind under which the report lists an attempt that came to nothing. -/
def AxfrAttempt.errorKind (attempt : AxfrAttempt) : Option ScanErrorKind :=
  match attempt.outcome with
  | .incomplete | .limitExceeded => some .dns
  | .unreachable => some .network
  | .timeout => some .timeout
  | .allowed | .refused | .notAuthoritative | .cancelled => none

def AxfrAttempt.scanError (attempt : AxfrAttempt) : Option ScanError :=
  attempt.errorKind.map fun kind =>
    ⟨.dns, some (attempt.server ++ " (" ++ attempt.endpoint.display ++ ")"), kind,
      attempt.error.getD "AXFR attempt was incomplete", true⟩

def recordAxfr (check : AxfrCheck) (report : ScanReport) : ScanReport :=
  match check.observation with
  | none => report
  | some observation =>
    let report :=
      if check.state = .completed then
        report.addErrors (observation.attempts.filterMap AxfrAttempt.scanError)
      else report
    report.modifyDns ({ · with authoritativeAxfr := some observation })

def authoritativeAxfr (authority : Option AuthoritativeEvidence) : Flow Run Unit := do
  let run ← Flow.read
  if run.report.target.hostless then
    update (·.addSkippedCheck "authoritative_axfr" "not applicable: target has no hostname")
  else if authority.isSome then
    update (recordAxfr env.axfr)
    match env.axfr.state with
    | .completed => pure ⟨⟩
    | .skipped reason => update (·.addSkippedCheck "authoritative_axfr" reason)
    | .timedOut =>
      halt selection .dns .timeout "global timeout expired during authoritative AXFR checking"
    | .cancelled =>
      halt selection .dns .cancelled "scan interrupted during authoritative AXFR checking"
  else
    update (·.addSkippedCheck "authoritative_axfr"
      "exact zone origin could not be established from primary-host SOA and matching NS evidence")

def wildcardDns : Flow Run Unit := do
  let run ← Flow.read
  if run.report.target.hostless then
    update (·.addSkippedCheck "wildcard_dns" "not applicable: target has no hostname")
  else if run.report.dns.isNone then
    update (·.addSkippedCheck "wildcard_dns" "baseline DNS observation was unavailable")
  else
    update (·.modifyDns ({ · with wildcardDns := some env.wildcard.observation }))
    stateCheck selection .dns env.wildcard.state
      "global timeout expired during wildcard DNS detection"
      "scan interrupted during wildcard DNS detection"
    if env.wildcard.observation.status = .indeterminate then
      update (·.addSkippedCheck "wildcard_dns"
        "wildcard DNS detection was indeterminate; see DNS limitations")
    else pure ⟨⟩

def ScanReport.cnameChain (report : ScanReport) : List CnameHop :=
  (report.dns.map DnsObservation.cnameChain).getD []

def danglingCname : Flow Run Unit := do
  let run ← Flow.read
  if run.report.target.hostless then
    update (·.addSkippedCheck "dangling_cname" "not applicable: target has no hostname")
  else if run.report.cnameChain.isEmpty then
    update (·.addSkippedCheck "dangling_cname"
      "no primary-target CNAME destination was directly observed")
  else
    update (·.modifyDns ({ · with danglingCnames := env.dangling.observations }))
    stateCheck selection .dns env.dangling.state
      "global timeout expired during CNAME destination checking"
      "scan interrupted during CNAME destination checking"
    if env.dangling.observations.any (fun observation => observation.status = .indeterminate) then
      update (·.addSkippedCheck "dangling_cname"
        "CNAME destination status was indeterminate; see DNS limitations")
    else pure ⟨⟩

def dnsStages : Flow Run Unit := do
  preflight env selection
  let authority ← dnsBaseline env selection
  dnssecValidation env selection
  authoritativeAxfr env selection authority
  wildcardDns env selection
  danglingCname env selection
  let run ← Flow.read
  emit (.completed .dns run.report.scanAddresses.length)

/-! ## Active stages -/

/-- Ports are listed by number, TCP before UDP. -/
def PortObservation.sortKey (port : PortObservation) : Nat ×ₗ Nat :=
  toLex (port.address.port, match port.transport with | .tcp => 0 | .udp => 1)

/-- Add the UDP ports of a host to its TCP ports, or the host when it has none. -/
def mergeHost (hosts : List HostObservation) (udpHost : HostObservation) : List HostObservation :=
  match hosts with
  | [] => [udpHost]
  | host :: rest =>
    if host.ip = udpHost.ip then
      { host with ports := sortBy PortObservation.sortKey (host.ports ++ udpHost.ports) } :: rest
    else host :: mergeHost rest udpHost

def mergeHosts (tcp udp : List HostObservation) : List HostObservation :=
  sortBy HostObservation.ip (udp.foldl mergeHost tcp)

/-- Return the report, settled or interrupted. -/
def finish {α : Type} (unfinishedStage : Option ScanStage) : Flow Run α :=
  Flow.stop (·.update (·.finishSelectedReport env.finishCancelled selection unfinishedStage))

def portStage : Flow Run Unit := do
  if selection.ports then
    deadlineCheck selection .ports env.portsExpired "global timeout expired before port scanning"
    emit (.started .ports)
    update ({ · with hosts := mergeHosts env.tcpHosts env.udpHosts })
    emit (.completed .ports (mergeHosts env.tcpHosts env.udpHosts).length)
    stageCheck selection .ports env.afterPorts "scan interrupted during port scanning"
      "global timeout expired during port scanning"
  else finish env selection none

def truncateEndpoints (report : ScanReport) : ScanReport :=
  if maxActiveEndpoints < report.openEndpointCount then
    report.addErrors [⟨.services, report.target.hostname, .other,
      "active protocol probing truncated at " ++ toString maxActiveEndpoints ++ " endpoints", true⟩]
  else report

def serviceStage : Flow Run Unit := do
  if selection.services then
    deadlineCheck selection .services env.servicesExpired
      "global timeout expired before service detection"
    update truncateEndpoints
    emit (.started .services)
    update ({ · with services := env.services })
    stageCheck selection .services env.afterServices "scan interrupted during service detection"
      "global timeout expired during service detection"
    update ({ · with services := env.sshServices })
    stateCheck selection .services env.ssh "global timeout expired during SSH analysis"
      "scan interrupted during SSH analysis"
    emit (.completed .services env.sshServices.length)
  else finish env selection none

def httpStage : Flow Run Unit := do
  if selection.http then
    deadlineCheck selection .http env.httpExpired "global timeout expired before HTTP analysis"
    emit (.started .http)
    update ({ · with http := env.http })
    emit (.completed .http env.http.length)
    stageCheck selection .http env.afterHttp "scan interrupted during HTTP analysis"
      "global timeout expired during HTTP analysis"
  else pure ⟨⟩

def tlsStage : Flow Run Unit := do
  let run ← Flow.read
  if selection.tls then
    if run.report.target.hostless then
      update (·.addSkippedCheck "tls"
        "not applicable: TLS validation requires a hostname for SNI and certificate matching")
    else
      deadlineCheck selection .tls env.tlsExpired "global timeout expired before TLS analysis"
      emit (.started .tls)
      update ({ · with tls := env.tls })
      emit (.completed .tls env.tls.length)
      stageCheck selection .tls env.afterTls "scan interrupted during TLS analysis"
        "global timeout expired during TLS analysis"
  else pure ⟨⟩

def activeStages : Flow Run Unit := do
  portStage env selection
  serviceStage env selection
  httpStage env selection
  tlsStage env selection
  finish env selection none

/-- Without an address there is nothing to connect to. -/
def noAddresses : Flow Run Unit := do
  update ({ · with
    status := .partialScan
    message := "DNS analysis completed, but no primary-host IP addresses were available." })
  finish env selection (some .ports)

def coreStages : Flow Run Unit := do
  dnsStages env selection
  let run ← Flow.read
  if run.report.scanAddresses.isEmpty then noAddresses env selection
  else activeStages env selection

end Stages

def CoreEnv.newReport (env : CoreEnv) (target : NormalizedTarget)
    (configuration : ScanConfiguration) (selection : ScanSelection) : ScanReport :=
  (ScanReport.notStarted env.scannerVersion env.scanId env.startedAt target
    { configuration with authorizationAcknowledged := true }).recordSelectionSkips selection

def runScanInner (env : CoreEnv) (target : NormalizedTarget) (configuration : ScanConfiguration)
    (selection : ScanSelection) : Run :=
  (coreStages env selection).final ⟨env.newReport target configuration selection, []⟩

/-- The core stages followed by their finalization. -/
def runScanSelected (env : CoreEnv) (generateFindings : FindingGenerator) (clock : FinalizeClock)
    (target : NormalizedTarget) (configuration : ScanConfiguration) (selection : ScanSelection) :
    Run :=
  finalize generateFindings clock (runScanInner env target configuration selection)

end Surface

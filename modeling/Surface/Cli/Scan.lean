import Surface.Engine
import Surface.Cli.Marks
import Surface.Intelligence.Supplied

/-!
# Surface.Cli.Scan

The scan command: the core stages, then every intelligence source in its order, then finalization.

`runScanCommand` is a composition of one function for each source. `CliEnv` holds what the run
meets beyond the core stages.
-/

namespace Surface

inductive ScanPart where
  | dns
  | ports
  | services
  | http
  | tls
  | intelligence
deriving DecidableEq

/-- The stage a selected part stands for. -/
def ScanPart.stage? : ScanPart → Option ScanStage
  | dns | intelligence => none
  | ports => some .ports
  | services => some .services
  | http => some .http
  | tls => some .tls

/-- The arguments of the scan command that its report depends on. -/
structure ScanArgs where
  only : List ScanPart
  subdomains : List String
  dkimSelectors : List String
  intelligenceBundle : Option String
deriving DecidableEq

namespace ScanArgs

def fullScan (arguments : ScanArgs) : Bool := arguments.only.isEmpty

def intelligenceSelected (arguments : ScanArgs) : Bool :=
  arguments.fullScan || decide (.intelligence ∈ arguments.only)

def selection (arguments : ScanArgs) : ScanSelection :=
  if arguments.fullScan then .all else .only (arguments.only.filterMap ScanPart.stage?)

/-- Intelligence was requested explicitly, and it is not excluded. -/
def suppliesIntelligence (arguments : ScanArgs) : Bool :=
  arguments.intelligenceSelected &&
    (!arguments.subdomains.isEmpty || !arguments.dkimSelectors.isEmpty ||
      arguments.intelligenceBundle.isSome)

def stoppedChecks (arguments : ScanArgs) : List ScanReport.StoppedCheck :=
  [⟨"subdomain_dns", !arguments.subdomains.isEmpty⟩, ⟨"dkim", !arguments.dkimSelectors.isEmpty⟩,
    ⟨"offline_network_metadata", arguments.intelligenceBundle.isSome⟩,
    ⟨"offline_cve_correlation", arguments.intelligenceBundle.isSome⟩]

end ScanArgs

/-- What the scan command meets: the core stages, and each intelligence source after them. -/
structure CliEnv where
  core : CoreEnv
  normalizeTarget : String → Option NormalizedTarget
  parseDkim : String → List String → DkimObservation
  /-- How the supplied intelligence as a whole was awaited. -/
  supplied : Awaited Unit
  suppliedCancelled : Bool
  bundle : Except String SuppliedBundle
  beforeSubdomain : Nat → Reading
  subdomain : Nat → Awaited (Except String DnsObservation)
  beforeSelector : Nat → Reading
  selector : Nat → Awaited (Except String (List String))
  rdap : RdapEnv
  bgp : BgpEnv
  /-- An API key for the reverse-nameserver service is set and not blank. -/
  reverseNsKey : Bool
  certificateTransparency : Except String CertificateTransparencyObservation
  relatedDomains : Except String RelatedDomainsObservation
  cancelled : Bool
  clock : FinalizeClock

/-! ## Supplied intelligence -/

section Sources

variable (env : CliEnv) (arguments : ScanArgs)

def suppliedSubdomains : List SuppliedSubdomain :=
  arguments.subdomains.mapIdx fun i input => ⟨input, env.beforeSubdomain i, env.subdomain i⟩

def suppliedSelectors : List SuppliedSelector :=
  arguments.dkimSelectors.mapIdx fun i selector => ⟨selector, env.beforeSelector i, env.selector i⟩

def suppliedBundle : Except String (Option SuppliedBundle) :=
  match arguments.intelligenceBundle with
  | some _ => env.bundle.map some
  | none => .ok none

/-- `none` when the token or the deadline came first. -/
def explicitIntelligence (report : ScanReport) : Option (Except String IntelligenceObservation) :=
  match env.supplied with
  | .cancelled | .timedOut => none
  | .ready _ =>
    some (match suppliedBundle env arguments with
      | .error message => .error message
      | .ok bundle =>
        analyzeIntelligence env.normalizeTarget env.parseDkim report
          (suppliedSubdomains env arguments) (suppliedSelectors env arguments) bundle)

def storeSupplied (report : ScanReport) (observation : IntelligenceObservation) : ScanReport :=
  let report := if observation.complete then report else report.markIntelligencePartial
  { report with intelligence := some observation }

/-- An error ends the command without a report. -/
def collectSupplied (report : ScanReport) : Except String ScanReport :=
  if arguments.suppliesIntelligence then
    match explicitIntelligence env arguments report with
    | some (.ok observation) => .ok (storeSupplied report observation)
    | some (.error message) => .error message
    | none =>
      .ok (report.markIntelligenceStopped env.suppliedCancelled arguments.stoppedChecks)
  else .ok report

/-! ## Looked-up intelligence -/

def collectLookups (report : ScanReport) : ScanReport :=
  if arguments.intelligenceSelected then
    analyzeBgpRoutes env.bgp (analyzeNetworkRegistrations env.rdap report)
  else report

def relatedConfigured : Bool := arguments.intelligenceSelected && env.reverseNsKey

def ctApplicable (report : ScanReport) : Bool :=
  arguments.intelligenceSelected && report.target.hostname.isSome

/-- Store what a passive source found, or the error it ended with. -/
def storePassive {α : Type} (report : ScanReport) (check : String) (complete : α → Bool)
    (store : IntelligenceObservation → α → IntelligenceObservation) : Except String α → ScanReport
  | .ok observation =>
    let intelligence := report.intelligenceOrNew
    let report :=
      { report with
        intelligence := some (store
          { intelligence with complete := intelligence.complete && complete observation }
          observation) }
    if complete observation then report else report.markIntelligencePartial
  | .error reason => report.markIntelligenceSourceError check reason

def storeCertificateTransparency (report : ScanReport)
    (result : Except String CertificateTransparencyObservation) : ScanReport :=
  storePassive report "certificate_transparency" CertificateTransparencyObservation.complete
    (fun intelligence observation =>
      { intelligence with certificateTransparency := some observation }) result

def storeRelatedDomains (report : ScanReport) (result : Except String RelatedDomainsObservation) :
    ScanReport :=
  storePassive report "related_domains" RelatedDomainsObservation.complete
    (fun intelligence observation => { intelligence with relatedDomains := some observation }) result

def collectPassive (report : ScanReport) : ScanReport :=
  let found :=
    if ctApplicable arguments report then
      storeCertificateTransparency report env.certificateTransparency
    else report
  if relatedConfigured env arguments then storeRelatedDomains found env.relatedDomains else found

/-! ## The command -/

def ScanReport.interrupt (report : ScanReport) (cancelled : Bool) : ScanReport :=
  if cancelled then { report with status := .interrupted, message := "scan interrupted" }
  else report

def ScanReport.pushSkips (report : ScanReport) (skips : List SkippedCheck) : ScanReport :=
  { report with skippedChecks := report.skippedChecks ++ skips }

def certificateTransparencySkips (report : ScanReport) : List SkippedCheck :=
  if arguments.intelligenceSelected && !ctApplicable arguments report then
    [⟨"certificate_transparency",
      "certificate transparency discovery requires a hostname target"⟩]
  else []

/-- The sources that had nothing to work on. -/
def intelligenceSkips : List SkippedCheck :=
  if !arguments.intelligenceSelected then [⟨"intelligence", "excluded by --only"⟩]
  else
    (if arguments.subdomains.isEmpty then [⟨"subdomain_dns", "no child domains supplied"⟩] else []) ++
    (if arguments.dkimSelectors.isEmpty then [⟨"dkim", "no selectors supplied"⟩] else []) ++
    (if arguments.intelligenceBundle.isNone then
      [⟨"offline_network_metadata", "no intelligence bundle supplied"⟩,
        ⟨"offline_cve_correlation", "no intelligence bundle supplied"⟩]
    else []) ++
    (if relatedConfigured env arguments then []
    else [⟨"related_domains", "SURFACE_WHOISXML_API_KEY is not configured"⟩])

def runScanCommand (generateFindings : FindingGenerator) (target : NormalizedTarget)
    (configuration : ScanConfiguration) : Except String ScanReport :=
  if target.conflicts configuration then
    .error "explicit IP conflicts with the selected address family"
  else if configuration.concurrency = 0 ∨ 4096 < configuration.concurrency then
    .error "concurrency must be between 1 and 4096"
  else
    match collectSupplied env arguments
        (runScanInner env.core target configuration arguments.selection).report with
    | .error message => .error message
    | .ok report =>
      let report := collectPassive env arguments (collectLookups env arguments report)
      let report := report.interrupt env.cancelled
      let report := report.pushSkips (certificateTransparencySkips arguments report)
      let report := report.pushSkips (intelligenceSkips env arguments)
      .ok (finalize generateFindings env.clock ⟨report, []⟩).report

end Sources

end Surface

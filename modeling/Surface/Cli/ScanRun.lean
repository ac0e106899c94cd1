import Surface.Cli.Sources
import Surface.Intelligence.RelatedRun
import Surface.Intelligence.TransparencyRun
import Surface.ScanScope

/-!
# Surface.Cli.ScanRun

The scan command over one network: what every source finds is what a run of it comes to.

* `CommandNetwork.Drives`: the answers in a `CliEnv` are those of runs over a network.
* `CommandNetwork.inTurn`: one such run over every network, one task and one answer after the other.
* `CommandNetwork.Backed`: the invariant of the sources. Nothing is reported that was not answered.
* `runScanCommand_backed`: the report of a scan is backed, and one that is completed has asked for
  everything.
-/

namespace Surface

/-- How the stages and each of the sources are answered, the files that are read, and the key in
the environment. -/
structure CommandNetwork (Url : Type) where
  active : ActiveNetwork Url
  readBundle : String → Except String (List UInt8)
  decodeBundle : List UInt8 → Except String IntelligenceBundle
  rdap : RdapWorld
  bgp : BgpWorld
  transparency : CtWorld
  reverseNs : ReverseNsWorld
  apiKey : Option String

/-- A blank key is none. -/
def CommandNetwork.reverseNsApiKey {Url : Type} (network : CommandNetwork Url) : Option String :=
  network.apiKey.filter fun key => !(trimSpaces key.toList).isEmpty

/-- The file as the analysis of a report uses it. -/
def CommandNetwork.bundle {Url : Type} (network : CommandNetwork Url) (report : ScanReport)
    (path : String) : Except String SuppliedBundle :=
  (network.readBundle path).bind fun bytes =>
    (parseBundle network.decodeBundle bytes).map (·.supply report)

section Command

variable {Url : Type} (network : CommandNetwork Url) (arguments : ScanArgs)
  (target : NormalizedTarget) (configuration : ScanConfiguration)

/-- The report that the looked-up sources start from. -/
def CliEnv.supplies (env : CliEnv) (report : ScanReport) : Prop :=
  collectSupplied env arguments
    (runScanInner env.core target configuration arguments.selection).report = .ok report

/-- Every source works on what the one before it left; the last two run side by side. -/
structure CommandNetwork.Drives (env : CliEnv) : Prop where
  active : network.active.Drives target configuration env.core
  key : env.reverseNsKey = network.reverseNsApiKey.isSome
  bundle : ∀ path, arguments.intelligenceBundle = some path → env.bundle =
    network.bundle (runScanInner env.core target configuration arguments.selection).report path
  registers : ∀ report, env.supplies arguments target configuration report →
    arguments.intelligenceSelected = true →
      RegistersNetworks network.rdap productionRdapConfig
        (PinnedClients.new configuration.requestTimeoutMs) report
        (analyzeNetworkRegistrations env.rdap report)
  routes : ∀ report, env.supplies arguments target configuration report →
    arguments.intelligenceSelected = true →
      RoutesBgp network.bgp productionBgpConfig
        (PinnedClients.new configuration.requestTimeoutMs)
        (analyzeNetworkRegistrations env.rdap report) (collectLookups env arguments report)
  transparency : ∀ report, env.supplies arguments target configuration report →
    ctApplicable arguments (collectLookups env arguments report) = true →
      ∃ trace, network.transparency.AnalyzesCertificateTransparency certspotterEndpoint
        (collectLookups env arguments report) configuration.requestTimeoutMs trace
        env.certificateTransparency
  related : ∀ report key, env.supplies arguments target configuration report →
    relatedConfigured env arguments = true → network.reverseNsApiKey = some key →
      env.relatedDomains = (analyzeRelatedDomainsAt network.reverseNs reverseNsEndpoint key
        (collectLookups env arguments report)
        (PinnedClients.new configuration.requestTimeoutMs)).2

/-- The sources one after the other, on what the stages left, with their lookups in turn. -/
def CommandNetwork.inTurn (start : CliEnv) : CliEnv :=
  let observed := (runScanInner start.core target configuration arguments.selection).report
  let before :=
    { start with
      bundle := network.bundle observed (arguments.intelligenceBundle.getD "")
      reverseNsKey := network.reverseNsApiKey.isSome }
  match collectSupplied before arguments observed with
  | .error _ => before
  | .ok report =>
    let registered :=
      { before with
        rdap := rdapInTurn network.rdap productionRdapConfig configuration.requestTimeoutMs report }
    let looked :=
      { registered with
        bgp := bgpInTurn network.bgp productionBgpConfig configuration.requestTimeoutMs
          (analyzeNetworkRegistrations registered.rdap report) }
    { looked with
      certificateTransparency := network.transparency.analyzedInTurn certspotterEndpoint
        (collectLookups looked arguments report) configuration.requestTimeoutMs
      relatedDomains := (analyzeRelatedDomainsAt network.reverseNs reverseNsEndpoint
        (network.reverseNsApiKey.getD "") (collectLookups looked arguments report)
        (PinnedClients.new configuration.requestTimeoutMs)).2 }

theorem CommandNetwork.inTurn_core (start : CliEnv) :
    (network.inTurn arguments target configuration start).core = start.core := by
  unfold CommandNetwork.inTurn
  simp only
  split <;> rfl

theorem CommandNetwork.drives_inTurn (start : CliEnv)
    (hactive : network.active.Drives target configuration start.core) :
    network.Drives arguments target configuration
      (network.inTurn arguments target configuration start) := by
  unfold CommandNetwork.inTurn
  simp only
  have hbundle : ∀ path, arguments.intelligenceBundle = some path → ∀ report,
      network.bundle report (arguments.intelligenceBundle.getD "") = network.bundle report path :=
    fun path hpath report => by rw [hpath, Option.getD_some]
  split
  · rename_i message hsupplied
    -- the command ends without a report, so no source is asked
    have hnone : ∀ report, collectSupplied _ arguments _ = .ok report → False := fun report h => by
      cases hsupplied.symm.trans h
    exact ⟨hactive, rfl, fun path hpath => hbundle path hpath _,
      fun report h => (hnone report h).elim, fun report h => (hnone report h).elim,
      fun report h => (hnone report h).elim, fun report key h => (hnone report h).elim⟩
  · rename_i report hsupplied
    have hreport : ∀ other, collectSupplied _ arguments _ = .ok other → other = report :=
      fun other h => (Except.ok.inj (hsupplied.symm.trans h)).symm
    refine ⟨hactive, rfl, fun path hpath => hbundle path hpath _, ?_, ?_, ?_, ?_⟩
    · intro other hother _
      rw [hreport other hother]
      exact registersNetworks_inTurn ..
    · intro other hother hselected
      have hroutes := routesBgp_inTurn network.bgp productionBgpConfig
        configuration.requestTimeoutMs (analyzeNetworkRegistrations (rdapInTurn network.rdap
          productionRdapConfig configuration.requestTimeoutMs report) report)
      rw [hreport other hother]
      simp only [collectLookups, hselected, if_true]
      exact hroutes
    · intro other hother _
      rw [hreport other hother]
      exact ⟨_, analyzesCertificateTransparency_inTurn ..⟩
    · intro other key hother _ hkey
      rw [hreport other hother, hkey]
      rfl

/-- The stages leave open what the sources come to. -/
theorem CommandNetwork.exists_drives (start : CliEnv)
    (hactive : network.active.Drives target configuration start.core) :
    ∃ env : CliEnv, env.core = start.core ∧
      network.Drives arguments target configuration env :=
  ⟨_, network.inTurn_core arguments target configuration start,
    network.drives_inTurn arguments target configuration start hactive⟩

end Command

/-! ## The invariant of the sources -/

/-- The candidates are the names of pages that were read, and complete evidence has all of them. -/
def CtWorld.Backs (world : CtWorld) (report : ScanReport)
    (observation : CertificateTransparencyObservation) : Prop :=
  ∃ trace calls primary, report.target.hostname = some primary ∧
    CtRead world certspotterEndpoint report trace calls ∧
    observation.candidates = world.candidatesOf primary (retained trace.recorded calls).flatten ∧
    (∀ candidate ∈ observation.candidates, StrictSubdomain candidate.name primary) ∧
    (observation.complete = true → ReachedEmpty trace.recorded calls ∧
      world.Settles primary (retained trace.recorded calls).flatten)

def ReverseNsWorld.Backs (world : ReverseNsWorld) (report : ScanReport)
    (observation : RelatedDomainsObservation) : Prop :=
  ∃ primary left right, report.target.hostname = some primary ∧
    report.observedNameservers.toList = [left, right] ∧
    RelatedObserved world primary left right observation

section Backs

variable {report after : ScanReport}

theorem CtWorld.Backs.congr (hobserved : after.observed = report.observed) {world : CtWorld}
    {observation : CertificateTransparencyObservation} (h : world.Backs report observation) :
    world.Backs after observation := by
  have htarget : after.target = report.target := congrArg (fun observed => observed.1) hobserved
  obtain ⟨trace, calls, primary, hprimary, hread, hrest⟩ := h
  rw [← htarget] at hprimary
  refine ⟨trace, calls, primary, hprimary, ⟨fun request hrequest => ?_, hread.sent,
    hread.answers⟩, hrest⟩
  rw [htarget]
  exact hread.requests request hrequest

theorem ReverseNsWorld.Backs.congr (hobserved : after.observed = report.observed)
    {world : ReverseNsWorld} {observation : RelatedDomainsObservation}
    (h : world.Backs report observation) : world.Backs after observation := by
  have htarget : after.target = report.target := congrArg (fun observed => observed.1) hobserved
  have hdns : after.dns = report.dns := congrArg (fun observed => observed.2.1) hobserved
  obtain ⟨primary, left, right, hprimary, hnameservers, hobservation⟩ := h
  rw [← htarget] at hprimary
  refine ⟨primary, left, right, hprimary, ?_, hobservation⟩
  rw [ScanReport.observedNameservers, hdns]
  exact hnameservers

theorem CtWorld.AnalyzesCertificateTransparency.backs {world : CtWorld} {requestTimeout : Nat}
    {trace : CtTrace} {observation : CertificateTransparencyObservation}
    (h : world.AnalyzesCertificateTransparency certspotterEndpoint report requestTimeout trace
      (.ok observation)) : world.Backs report observation := by
  obtain ⟨calls, hread, -, -, primary, hprimary, hcandidates, hstrict, hends, hall⟩ := h.observed
  refine ⟨trace, calls, primary, hprimary, hread, hcandidates, hstrict, fun hcomplete => ?_⟩
  obtain ⟨hempty, -, hsettles⟩ := hall.mp (hends.mp hcomplete)
  exact ⟨hempty, hsettles⟩

theorem analyzeRelatedDomainsAt_backs {world : ReverseNsWorld} {endpoint apiKey : String}
    {clients : PinnedClients} {observation : RelatedDomainsObservation}
    (h : (analyzeRelatedDomainsAt world endpoint apiKey report clients).2 = .ok observation) :
    world.Backs report observation := by
  unfold analyzeRelatedDomainsAt at h
  split at h
  · cases h
  · split at h
    · cases h
    · rename_i primary hprimary
      split at h
      · rename_i left right hnameservers
        split at h
        · cases h
        · cases h
        · split at h
          · cases h
          · cases h
            exact ⟨primary, left, right, hprimary, hnameservers,
              observeRelated_observed world primary left right⟩
      · cases h

end Backs

namespace CommandNetwork

variable {Url : Type} (network : CommandNetwork Url)

/-- An approved registry was asked about a public address of the target, and answered this. -/
def Registers (report : ScanReport) (observation : NetworkRegistrationObservation) : Prop :=
  ∃ request : RdapRequest, request.Approved officialRdapBases ∧
    report.PublicPrimary request.address ∧ request.Answered network.rdap observation

/-- The route service was asked about a public address of the target, and answered this. -/
def Routes (report : ScanReport) (observation : BgpRouteObservation) : Prop :=
  ∃ request : BgpRequest, BgpAsks network.bgp productionBgpConfig request ∧
    report.PublicPrimary request.address ∧ request.Answered network.bgp observation

/-- A file that was accepted says this of the hosts and the services of the report. -/
def Correlates (report : ScanReport)
    (correlated : List NetworkMetadata × List CveCandidate) : Prop :=
  correlated = ([], []) ∨ ∃ path bytes bundle, network.readBundle path = .ok bytes ∧
    parseBundle network.decodeBundle bytes = .ok bundle ∧
    correlated = (correlateNetworks report bundle, correlateCves report bundle)

/-- Whatever a report says beyond the core stages, the network answered it for this target, or the
bundle has it. -/
structure Backed (report : ScanReport) : Prop where
  correlated : network.Correlates report report.correlated
  registrations : ∀ observation ∈ report.networkRegistrations, network.Registers report observation
  routes : ∀ observation ∈ report.bgpRoutes, network.Routes report observation
  transparency : ∀ observation, report.certificateTransparency = some observation →
    network.transparency.Backs report observation
  related : ∀ observation, report.relatedDomains = some observation →
    network.reverseNs.Backs report observation

/-- Every source that applies to the report has found all there is. -/
structure Exhausts (report : ScanReport) : Prop where
  registrations : ∀ address, report.PublicPrimary address →
    ∃ observation ∈ report.networkRegistrations, observation.address = address
  routes : ∀ address, report.PublicPrimary address →
    ∃ observation ∈ report.bgpRoutes, observation.address = address ∧ observation.complete = true
  transparency : report.target.hostname.isSome = true →
    ∃ observation, report.certificateTransparency = some observation ∧ observation.complete = true
  related : network.reverseNsApiKey.isSome = true →
    ∃ observation, report.relatedDomains = some observation ∧ observation.complete = true

variable {network} {report after : ScanReport}

theorem Registers.congr (hobserved : after.observed = report.observed)
    {observation : NetworkRegistrationObservation} (h : network.Registers report observation) :
    network.Registers after observation := by
  obtain ⟨request, hasks, hpublic, hanswered⟩ := h
  exact ⟨request, hasks, (ScanReport.publicPrimary_congr hobserved).mpr hpublic, hanswered⟩

theorem Routes.congr (hobserved : after.observed = report.observed)
    {observation : BgpRouteObservation} (h : network.Routes report observation) :
    network.Routes after observation := by
  obtain ⟨request, hasks, hpublic, hanswered⟩ := h
  exact ⟨request, hasks, (ScanReport.publicPrimary_congr hobserved).mpr hpublic, hanswered⟩

theorem Correlates.congr (hobserved : after.observed = report.observed)
    {correlated : List NetworkMetadata × List CveCandidate}
    (h : network.Correlates report correlated) : network.Correlates after correlated := by
  have hhosts : after.hosts = report.hosts :=
    congrArg (fun observed => observed.2.2.1) hobserved
  have hservices : after.services = report.services :=
    congrArg (fun observed => observed.2.2.2.1) hobserved
  refine h.imp_right ?_
  rintro ⟨path, bytes, bundle, hread, hparse, rfl⟩
  refine ⟨path, bytes, bundle, hread, hparse, ?_⟩
  rw [correlateNetworks, correlateNetworks, correlateCves, correlateCves, ScanReport.products,
    ScanReport.products, hhosts, hservices]

/-- A source that leaves the observations alone keeps the invariant with what it was answered. -/
theorem Backed.grow (h : network.Backed report) (hobserved : after.observed = report.observed)
    (hcorrelated : after.correlated = report.correlated)
    (hregistrations : ∀ observation ∈ after.networkRegistrations,
      observation ∈ report.networkRegistrations ∨ network.Registers report observation)
    (hroutes : ∀ observation ∈ after.bgpRoutes,
      observation ∈ report.bgpRoutes ∨ network.Routes report observation)
    (htransparency : ∀ observation, after.certificateTransparency = some observation →
      report.certificateTransparency = some observation ∨
        network.transparency.Backs report observation)
    (hrelated : ∀ observation, after.relatedDomains = some observation →
      report.relatedDomains = some observation ∨ network.reverseNs.Backs report observation) :
    network.Backed after where
  correlated := hcorrelated ▸ h.correlated.congr hobserved
  registrations observation hmem :=
    ((hregistrations observation hmem).elim (h.registrations observation) id).congr hobserved
  routes observation hmem :=
    ((hroutes observation hmem).elim (h.routes observation) id).congr hobserved
  transparency observation hsome :=
    ((htransparency observation hsome).elim (h.transparency observation) id).congr hobserved
  related observation hsome :=
    ((hrelated observation hsome).elim (h.related observation) id).congr hobserved

/-! ## The steps -/

/-- Before anything is looked up there is nothing to back. -/
theorem backed_of_supplied (h : ∀ intelligence, report.intelligence = some intelligence →
    intelligence.SuppliedOnly) (hcorrelated : network.Correlates report report.correlated) :
    network.Backed report := by
  obtain ⟨hregistrations, hroutes, htransparency, hrelated⟩ := ScanReport.bare_of_supplied h
  refine ⟨hcorrelated, fun observation hmem => ?_, fun observation hmem => ?_,
    fun observation hsome => ?_, fun observation hsome => ?_⟩
  · rw [hregistrations] at hmem
    cases hmem
  · rw [hroutes] at hmem
    cases hmem
  · rw [htransparency] at hsome
    cases hsome
  · rw [hrelated] at hsome
    cases hsome

theorem backed_registers {requestTimeout : Nat} (h : network.Backed report)
    (hrun : RegistersNetworks network.rdap productionRdapConfig (PinnedClients.new requestTimeout)
      report after) : network.Backed after := by
  obtain ⟨hobserved, hcorrelated, hroutes, htransparency, hrelated⟩ := hrun.kept
  refine h.grow hobserved hcorrelated (fun observation hmem => (hrun.stored hmem).imp_right ?_)
    (fun _ hmem => .inl (hroutes ▸ hmem)) (fun _ hsome => .inl (htransparency ▸ hsome))
    fun _ hsome => .inl (hrelated ▸ hsome)
  rintro ⟨request, hasked, hanswered⟩
  have hconfined : (report.rdapRun network.rdap productionRdapConfig requestTimeout).Confined
      network.rdap productionRdapConfig report.eligibleRdapAddresses.2
      report.eligibleRdapAddresses.1 :=
    rdapRun_confined _ _ (PinnedClients.public_new requestTimeout) _ _
  have hrequest := (RdapRun.asked_sublist _).subset hasked
  exact ⟨request, hconfined.requests request hrequest, ScanReport.publicPrimary_of_mem
    (hconfined.addresses.subset (List.mem_map_of_mem hrequest)), hanswered⟩

theorem backed_routes {requestTimeout : Nat} (h : network.Backed report)
    (hrun : RoutesBgp network.bgp productionBgpConfig (PinnedClients.new requestTimeout)
      report after) : network.Backed after := by
  obtain ⟨hobserved, hcorrelated, hregistrations, htransparency, hrelated⟩ := hrun.kept
  refine h.grow hobserved hcorrelated (fun _ hmem => .inl (hregistrations ▸ hmem))
    (fun observation hmem => (hrun.stored hmem).imp_right ?_)
    (fun _ hsome => .inl (htransparency ▸ hsome)) fun _ hsome => .inl (hrelated ▸ hsome)
  rintro ⟨request, hasked, hanswered⟩
  have hconfined : (report.bgpRun network.bgp productionBgpConfig requestTimeout).Confined
      network.bgp productionBgpConfig report.eligibleBgpAddresses.2
      report.eligibleBgpAddresses.1 :=
    bgpRun_confined _ _ (PinnedClients.public_new requestTimeout) _ _
  have hrequest := (BgpRun.asked_sublist _).subset hasked
  exact ⟨request, hconfined.built.requests request hrequest, ScanReport.publicPrimary_of_mem
    (hconfined.built.addresses.subset (List.mem_map_of_mem hrequest)), hanswered⟩

theorem backed_storeCertificateTransparency (h : network.Backed report)
    {result : Except String CertificateTransparencyObservation}
    (hfound : ∀ observation, result = .ok observation →
      network.transparency.Backs report observation) :
    network.Backed (storeCertificateTransparency report result) := by
  obtain ⟨hobserved, hcorrelated, hregistrations, hroutes, hrelated, hstored⟩ :=
    storeCertificateTransparency_kept report result
  refine h.grow hobserved hcorrelated (fun _ hmem => .inl (hregistrations ▸ hmem))
    (fun _ hmem => .inl (hroutes ▸ hmem)) (fun observation hsome => ?_)
    fun _ hsome => .inl (hrelated ▸ hsome)
  rw [hstored] at hsome
  cases result with
  | ok found =>
    cases hsome
    exact .inr (hfound _ rfl)
  | error reason => exact .inl hsome

theorem backed_storeRelatedDomains (h : network.Backed report)
    {result : Except String RelatedDomainsObservation}
    (hfound : ∀ observation, result = .ok observation →
      network.reverseNs.Backs report observation) :
    network.Backed (storeRelatedDomains report result) := by
  obtain ⟨hobserved, hcorrelated, hregistrations, hroutes, htransparency, hstored⟩ :=
    storeRelatedDomains_kept report result
  refine h.grow hobserved hcorrelated (fun _ hmem => .inl (hregistrations ▸ hmem))
    (fun _ hmem => .inl (hroutes ▸ hmem)) (fun _ hsome => .inl (htransparency ▸ hsome))
    fun observation hsome => ?_
  rw [hstored] at hsome
  cases result with
  | ok found =>
    cases hsome
    exact .inr (hfound _ rfl)
  | error reason => exact .inl hsome

theorem Backed.congr (h : network.Backed report) (hobserved : after.observed = report.observed)
    (hintelligence : after.intelligence = report.intelligence) : network.Backed after := by
  have hcorrelated : after.correlated = report.correlated := by
    rw [ScanReport.correlated, ScanReport.correlated, hintelligence]
  refine h.grow hobserved hcorrelated (fun _ hmem => .inl ?_) (fun _ hmem => .inl ?_)
    (fun _ hsome => .inl ?_) fun _ hsome => .inl ?_
  · rwa [ScanReport.networkRegistrations, hintelligence] at hmem
  · rwa [ScanReport.bgpRoutes, hintelligence] at hmem
  · rwa [ScanReport.certificateTransparency, hintelligence] at hsome
  · rwa [ScanReport.relatedDomains, hintelligence] at hsome

/-! ## The run -/

variable {arguments : ScanArgs} {target : NormalizedTarget} {configuration : ScanConfiguration}
  {env : CliEnv} {generateFindings : FindingGenerator}

/-- What was found in the bundle stems from the file that was asked for. -/
theorem Drives.correlates (h : network.Drives arguments target configuration env)
    (hobserved : report.observed =
      (runScanInner env.core target configuration arguments.selection).report.observed)
    (hbundle : report.correlated = ([], []) ∨ ∃ path bundle,
      arguments.intelligenceBundle = some path ∧ env.bundle = .ok bundle ∧
        report.correlated = (bundle.networks, bundle.cveCandidates)) :
    network.Correlates report report.correlated := by
  rcases hbundle with hempty | ⟨path, supplied, hpath, hsupplied, hcorrelated⟩
  · exact .inl hempty
  · refine Correlates.congr hobserved (.inr ?_)
    rw [h.bundle path hpath, CommandNetwork.bundle] at hsupplied
    obtain ⟨bytes, hread, hparsed⟩ := bind_ok_iff.mp hsupplied
    cases hparse : parseBundle network.decodeBundle bytes with
    | error message =>
      rw [hparse] at hparsed
      cases hparsed
    | ok bundle =>
      rw [hparse] at hparsed
      cases hparsed
      exact ⟨path, bytes, bundle, hread, hparse, hcorrelated⟩

theorem backed_collectLookups (h : network.Drives arguments target configuration env)
    (hsupplied : env.supplies arguments target configuration report)
    (hbacked : network.Backed report) :
    network.Backed (collectLookups env arguments report) ∧
      (collectLookups env arguments report).observed = report.observed := by
  by_cases hselected : arguments.intelligenceSelected = true
  · have hregisters := h.registers report hsupplied hselected
    have hroutes := h.routes report hsupplied hselected
    exact ⟨backed_routes (backed_registers hbacked hregisters) hroutes,
      hroutes.kept.1.trans hregisters.kept.1⟩
  · rw [collectLookups, if_neg hselected]
    exact ⟨hbacked, rfl⟩

/-- Both passive sources read the same report, and one stores after the other. -/
theorem backed_collectPassive (h : network.Drives arguments target configuration env)
    (hsupplied : env.supplies arguments target configuration report)
    (hbacked : network.Backed (collectLookups env arguments report)) :
    network.Backed (collectPassive env arguments (collectLookups env arguments report)) ∧
      (collectPassive env arguments (collectLookups env arguments report)).observed =
        (collectLookups env arguments report).observed := by
  have hfound : ∀ found : ScanReport,
      found.observed = (collectLookups env arguments report).observed → network.Backed found →
      network.Backed (if relatedConfigured env arguments then
          storeRelatedDomains found env.relatedDomains else found) ∧
        (if relatedConfigured env arguments then
          storeRelatedDomains found env.relatedDomains else found).observed =
            (collectLookups env arguments report).observed := by
    intro found hobserved hfound
    split
    · rename_i hconfigured
      refine ⟨backed_storeRelatedDomains hfound fun observation hok => ?_,
        (storeRelatedDomains_kept found _).1.trans hobserved⟩
      have hkey := (Bool.and_eq_true_iff.mp hconfigured).2
      rw [h.key] at hkey
      obtain ⟨key, hkey⟩ := Option.isSome_iff_exists.mp hkey
      rw [h.related report key hsupplied hconfigured hkey] at hok
      exact (analyzeRelatedDomainsAt_backs hok).congr hobserved
    · exact ⟨hfound, hobserved⟩
  unfold collectPassive
  refine hfound _ ?_ ?_
  · split
    · exact (storeCertificateTransparency_kept _ _).1
    · rfl
  · split
    · rename_i happlicable
      refine backed_storeCertificateTransparency hbacked fun observation hok => ?_
      obtain ⟨trace, hrun⟩ := h.transparency report hsupplied happlicable
      rw [hok] at hrun
      exact hrun.backs
    · exact hbacked

/-- What comes after the sources neither changes what they found nor completes a report. -/
theorem runScanCommand_sources {final : ScanReport}
    (hr : runScanCommand env arguments generateFindings target configuration = .ok final) :
    ∃ supplied, env.supplies arguments target configuration supplied ∧
      final.observed =
        (collectPassive env arguments (collectLookups env arguments supplied)).observed ∧
      final.intelligence =
        (collectPassive env arguments (collectLookups env arguments supplied)).intelligence ∧
      (final.status = .completed →
        (collectPassive env arguments (collectLookups env arguments supplied)).status =
          .completed) := by
  unfold runScanCommand at hr
  split at hr
  · cases hr
  · split at hr
    · cases hr
    · split at hr
      · cases hr
      · rename_i supplied hsupplied
        cases hr
        have hended := (unhidden_sources hsupplied).ended
        refine ⟨supplied, hsupplied, ?_⟩
        generalize collectPassive env arguments (collectLookups env arguments supplied) = passive
          at hended
        generalize hlast : (ScanReport.pushSkips _ _ : ScanReport) = last
        have hbeyond := finalize_beyond generateFindings env.clock ⟨last, []⟩
        have hobserved : last.observed = passive.observed ∧
            last.intelligence = passive.intelligence ∧
            (last.status = .completed → passive.status = .completed) ∧
            last.status ≠ .notStarted := by
          rw [← hlast]
          unfold ScanReport.interrupt
          split
          · exact ⟨rfl, rfl, fun h => (by cases h), fun h => (by cases h)⟩
          · exact ⟨rfl, rfl, id, hended⟩
        obtain ⟨hlasts, hintelligence, hstatus, hstarted⟩ := hobserved
        exact ⟨(congrArg Prod.fst hbeyond).trans hlasts,
          (congrArg Prod.snd hbeyond).trans hintelligence,
          fun h => hstatus (finalize_underway hstarted h)⟩

/-- A completed report was completed after every source, so each of them found all there is. -/
theorem exhausts_sources (h : network.Drives arguments target configuration env)
    (hsupplied : env.supplies arguments target configuration report)
    (hselected : arguments.intelligenceSelected = true)
    (hobserved : (collectPassive env arguments (collectLookups env arguments report)).observed =
      report.observed)
    (hcompleted : (collectPassive env arguments (collectLookups env arguments report)).status =
      .completed) :
    network.Exhausts (collectPassive env arguments (collectLookups env arguments report)) := by
  have hregisters := h.registers report hsupplied hselected
  have hroutes := h.routes report hsupplied hselected
  obtain ⟨-, honly, -⟩ := collectSupplied_kept
    (runScanInner_spec env.core target configuration arguments.selection).1.noIntelligence hsupplied
  have hfirst : (analyzeNetworkRegistrations env.rdap report).bgpRoutes = [] :=
    hregisters.kept.2.2.1.trans (ScanReport.bare_of_supplied honly).2.1
  have htarget : (collectLookups env arguments report).target =
      (collectPassive env arguments (collectLookups env arguments report)).target :=
    congrArg (fun observed => observed.1)
      ((hroutes.kept.1.trans hregisters.kept.1).trans hobserved.symm)
  -- the sources backwards, from the last one to the first
  obtain ⟨hfound, hregistrations', hroutes', htransparency', hrelated⟩ :=
    storeRelatedDomains_completed hcompleted
  obtain ⟨hlooked, hregistrations'', hroutes'', htransparency⟩ :=
    storeCertificateTransparency_completed hfound
  have hregistered := hroutes.underway hlooked
  refine ⟨fun address hpublic => ?_, fun address hpublic => ?_, fun hhost => ?_, fun hkey => ?_⟩
  · have hbefore := (ScanReport.publicPrimary_congr hobserved).mp hpublic
    obtain ⟨observation, hmem, haddress⟩ := hregisters.complete hregistered hbefore
    refine ⟨observation, ?_, haddress⟩
    unfold collectPassive
    rw [hregistrations', hregistrations'', hroutes.kept.2.2.1]
    exact hmem
  · have hbefore := (ScanReport.publicPrimary_congr
      (hobserved.trans hregisters.kept.1.symm)).mp hpublic
    obtain ⟨observation, hmem, haddress, hold | hcomplete⟩ := hroutes.complete hlooked hbefore
    · rw [hfirst] at hold
      cases hold
    · refine ⟨observation, ?_, haddress, hcomplete⟩
      unfold collectPassive
      rw [hroutes', hroutes'']
      exact hmem
  · have happlicable : ctApplicable arguments (collectLookups env arguments report) = true := by
      rw [ctApplicable, hselected, htarget]
      exact hhost
    obtain ⟨observation, hstored, hcomplete⟩ := htransparency happlicable
    exact ⟨observation, htransparency'.trans hstored, hcomplete⟩
  · have hconfigured : relatedConfigured env arguments = true := by
      rw [relatedConfigured, hselected, h.key]
      exact hkey
    exact hrelated hconfigured

theorem Exhausts.congr (h : network.Exhausts report) (hobserved : after.observed = report.observed)
    (hintelligence : after.intelligence = report.intelligence) : network.Exhausts after := by
  have htarget : after.target = report.target := congrArg (fun observed => observed.1) hobserved
  refine ⟨fun address hpublic => ?_, fun address hpublic => ?_, fun hhost => ?_, fun hkey => ?_⟩
  · rw [ScanReport.networkRegistrations, hintelligence]
    exact h.registrations address ((ScanReport.publicPrimary_congr hobserved).mp hpublic)
  · rw [ScanReport.bgpRoutes, hintelligence]
    exact h.routes address ((ScanReport.publicPrimary_congr hobserved).mp hpublic)
  · rw [ScanReport.certificateTransparency, hintelligence]
    exact h.transparency (htarget ▸ hhost)
  · rw [ScanReport.relatedDomains, hintelligence]
    exact h.related hkey

/-- Over every network, and in whatever order the tasks of a stage and the answers of a source come:
what the report of a scan has from the core stages is in scope, what it has beyond them was answered
for the target, and if it is completed then every source found all there is. -/
theorem runScanCommand_backed (h : network.Drives arguments target configuration env)
    {final : ScanReport}
    (hr : runScanCommand env arguments generateFindings target configuration = .ok final) :
    WithinScope network.active target configuration final.scanAddresses
        (Run.sections ⟨final, []⟩) ∧
      network.Backed final ∧
      (arguments.intelligenceSelected = true → final.status = .completed →
        network.Exhausts final) := by
  obtain ⟨supplied, hsupplied, hobserved, hintelligence, hstatus⟩ := runScanCommand_sources hr
  obtain ⟨hcore, honly, hbundle⟩ := collectSupplied_kept
    (runScanInner_spec env.core target configuration arguments.selection).1.noIntelligence hsupplied
  obtain ⟨hlooked, hlookups⟩ := backed_collectLookups h hsupplied
    (backed_of_supplied honly (h.correlates hcore hbundle))
  obtain ⟨hpassive, hsources⟩ := backed_collectPassive h hsupplied hlooked
  have hbefore := hsources.trans hlookups
  have hscanned := (hobserved.trans hbefore).trans hcore
  refine ⟨?_, hpassive.congr hobserved hintelligence, fun hselected hcompleted => ?_⟩
  · have hscope := runScanInner_withinScope h.active arguments.selection
    have hdns : final.dns = _ := congrArg (fun observed => observed.2.1) hscanned
    rw [ScanReport.scanAddresses, hdns]
    exact hscope.congr (congrArg (fun observed => (⟨observed.2.2.1, observed.2.2.2.1,
      observed.2.2.2.2.1, observed.2.2.2.2.2, []⟩ : Sections)) hscanned)
  · exact (exhausts_sources h hsupplied hselected hbefore (hstatus hcompleted)).congr hobserved
      hintelligence

end CommandNetwork

/-! ## A scan of two addresses -/

def fixtureBundleText : String :=
  "\x7b\"schema_version\":\"1.0\",\"source\":\"lab\",\"source_timestamp\":0," ++
    "\"networks\":[\x7b\"prefix\":\"8.8.8.0/24\",\"asn\":15169\x7d]\x7d"

def fixtureFileBundle : IntelligenceBundle :=
  ⟨"1.0", "lab", 0, [⟨"8.8.8.0/24", some 15169, none, none⟩], []⟩

/-- One file, and a network where every source has an answer. -/
def answeringNetwork : CommandNetwork String where
  active := silentNetwork
  readBundle path :=
    if path = "bundle.json" then .ok (utf8Bytes fixtureBundleText) else .error "no such file"
  decodeBundle bytes :=
    if bytes = utf8Bytes fixtureBundleText then .ok fixtureFileBundle else .error "expected value"
  rdap := fixtureRdapWorld
  bgp := fixtureBgpWorld
  transparency := fixtureCtWorld
  reverseNs := fixtureReverseNsWorld
  apiKey := some "key"

def answeredArgs : ScanArgs := ⟨[.dns, .ports, .intelligence], [], [], some "bundle.json"⟩

/-- Two public addresses, and nameservers to ask about. -/
def publicEnv : CoreEnv :=
  { resolvedEnv with
    baseline := .ready (.ok
      { observation :=
          { queriedName := "example.com"
            records := [.a 0x08080808, .a 0x01010101, .ns "alice.ns.cloudflare.com",
              .ns "bob.ns.cloudflare.com"]
            cnameChain := []
            danglingCnames := []
            resolvedHosts := [⟨some "example.com", .ofOctets 8 8 8 8, .aRecord⟩,
              ⟨some "example.com", .ofOctets 1 1 1 1, .aRecord⟩]
            mail := ⟨false, ⟨[], none⟩, [], [], none, []⟩
            dnssec := none
            authoritativeAxfr := none
            wildcardDns := none
            errors := [] }
        authority := none }) }

def publicPorts : ScanConfiguration := { twoPorts with concurrency := 64 }

/-- The probes complete in the opposite order. -/
def publicHosts : List HostObservation :=
  arrange publicEnv.addresses
    ((attempts publicEnv.addresses publicPorts.ports).reverse.map silentNetwork.tcp.connect)

def crossedPublicEnv : CoreEnv :=
  { silentNetwork.inTurn fixtureTarget publicPorts publicEnv with tcpHosts := publicHosts }

theorem crossedPublicEnv_drives :
    silentNetwork.Drives fixtureTarget publicPorts crossedPublicEnv :=
  ActiveNetwork.drives_of_scanPorts publicEnv (by decide)
    ⟨_, Buffer.collects_of_perm (by decide) (List.reverse_perm _), rfl⟩

def answeredEnv : CliEnv :=
  answeringNetwork.inTurn answeredArgs fixtureTarget publicPorts
    { intelligenceEnv with core := crossedPublicEnv }

def answeredScan : Except String ScanReport :=
  runScanCommand answeredEnv answeredArgs (fun _ _ _ _ _ _ _ => []) fixtureTarget publicPorts

/-- The status, and how many addresses and names the sources found. -/
def foundBySources (report : ScanReport) : ScanStatus × List Nat :=
  (report.status, [report.networkRegistrations.length, report.bgpRoutes.length,
    (report.certificateTransparency.map (·.candidates.length)).getD 0,
    (report.relatedDomains.map (·.candidates.length)).getD 0,
    (report.intelligence.map (·.networks.length)).getD 0])

theorem runScanCommand_backed_crossed :
    ∃ final, answeredScan = .ok final ∧ foundBySources final = (.completed, [2, 2, 1, 1, 1]) ∧
      WithinScope silentNetwork fixtureTarget publicPorts final.scanAddresses
        (Run.sections ⟨final, []⟩) ∧
      answeringNetwork.Backed final ∧ answeringNetwork.Exhausts final := by
  have hdrives := answeringNetwork.drives_inTurn answeredArgs fixtureTarget publicPorts
    { intelligenceEnv with core := crossedPublicEnv } crossedPublicEnv_drives
  have hfound : answeredScan.map foundBySources = .ok (.completed, [2, 2, 1, 1, 1]) := by
    decide +kernel
  cases hscan : answeredScan with
  | error message =>
    rw [hscan] at hfound
    cases hfound
  | ok final =>
    rw [hscan] at hfound
    have hfinal : foundBySources final = _ := Except.ok.inj hfound
    obtain ⟨hscope, hbacked, hexhausts⟩ := CommandNetwork.runScanCommand_backed hdrives hscan
    exact ⟨final, rfl, hfinal, hscope, hbacked, hexhausts (by decide) (congrArg Prod.fst hfinal)⟩

end Surface

import Surface.Accounting
import Surface.Http.Analyze
import Surface.ScannerOrder
import Surface.Service.Probe
import Surface.Tls.Analyze

/-!
# Surface.ActiveScan

The active stages together, over one network: what every stage finds is what the runs of its tasks
come to, and they complete in any order.

* `ActiveNetwork`: how every endpoint answers every stage.
* `ActiveNetwork.Drives`: the results of the stages in a `CoreEnv` are those of runs over a network.
* `ActiveNetwork.inTurn`: the same with one task after the other.
* `Drives.eq_inTurn`, `activeScan_inTurn`: the order of completion is not seen in the report.
-/

namespace Surface

structure ActiveNetwork (Url : Type) where
  library : UrlLibrary Url
  platform : Platform
  fromDer : List UInt8 → Except String X509Certificate
  sha256 : List UInt8 → List UInt8
  tcp : Outcomes
  udp : Outcomes
  greeting : SocketAddr → ProbeMeeting
  ssh : SocketAddr → SshExchange
  http : HttpNetwork Url
  tls : TlsNetwork

def ScanConfiguration.probeConcurrency (configuration : ScanConfiguration) : Nat :=
  max ((configuration.concurrency + 1) / 2) 1

/-- The addresses that are scanned when the DNS stages are through. -/
def CoreEnv.addresses (env : CoreEnv) : List IpAddr :=
  (OrdSet.ofList (env.resolvedHosts.map ResolvedHost.ip)).toList

namespace ActiveNetwork

variable {Url : Type} (network : ActiveNetwork Url) (target : NormalizedTarget)
  (configuration : ScanConfiguration)

def probe (address : SocketAddr) : Option ServiceObservation :=
  Surface.probe address (target.hostname.getD "localhost") (network.greeting address)

/-- Every stage works on what the one before it left. -/
structure Drives (env : CoreEnv) : Prop where
  tcpHosts : ScanPorts configuration.probeConcurrency network.tcp env.addresses configuration.ports
    env.tcpHosts
  udpHosts : ScanUdpPorts configuration.probeConcurrency network.udp env.addresses
    configuration.udpPorts env.udpHosts
  services : Detects (min configuration.concurrency 32) (network.probe target)
    (mergeHosts env.tcpHosts env.udpHosts) env.services
  ssh : ∃ analyses, AnalyzesSsh network.ssh (min configuration.concurrency 16) env.services analyses
    env.sshServices env.ssh
  http : AnalyzesHttp network.library network.platform network.http target
    (min configuration.concurrency 16) env.sshServices env.http
  tls : match target.hostname with
    | some serverName => AnalyzesTls network.fromDer network.sha256 network.tls serverName
        (min configuration.concurrency 16) env.sshServices env.tls
    | none => env.tls = []

/-! ## One task after the other -/

section InTurn

variable (env : CoreEnv)

def tcpInTurn : List HostObservation :=
  scanInTurn network.tcp.connect env.addresses configuration.ports

def udpInTurn : List HostObservation :=
  scanInTurn network.udp.probeUdp env.addresses configuration.udpPorts

def hostsInTurn : List HostObservation :=
  mergeHosts (network.tcpInTurn configuration env) (network.udpInTurn configuration env)

def servicesInTurn : List ServiceObservation :=
  let hosts := network.hostsInTurn configuration env
  detected hosts ((activeAddresses hosts).map (network.probe target))

/-- The SSH analysis of services: what it makes of them, and its state. -/
def analyzeSshInTurn (services : List ServiceObservation) :
    List ServiceObservation × SshAnalysisState :=
  let analyses := sortBy EndpointAnalysis.address
    ((sshAddresses services).toList.map (inspect network.ssh))
  (services.map (ServiceObservation.enrich analyses), aggregateState analyses)

def sshInTurn : List ServiceObservation × SshAnalysisState :=
  network.analyzeSshInTurn (network.servicesInTurn target configuration env)

def httpInTurn : List HttpObservation :=
  analyzeHttpInTurn network.library network.platform network.http target
    (network.sshInTurn target configuration env).1

def tlsInTurn : List TlsObservation :=
  match target.hostname with
  | some serverName => analyzeTlsInTurn network.fromDer network.sha256 network.tls serverName
      (network.sshInTurn target configuration env).1
  | none => []

def inTurn : CoreEnv :=
  { env with
    tcpHosts := network.tcpInTurn configuration env
    udpHosts := network.udpInTurn configuration env
    services := network.servicesInTurn target configuration env
    ssh := (network.sshInTurn target configuration env).2
    sshServices := (network.sshInTurn target configuration env).1
    http := network.httpInTurn target configuration env
    tls := network.tlsInTurn target configuration env }

end InTurn

end ActiveNetwork

/-! ## The order of completion, stage by stage -/

theorem Scans.eq_inTurn {concurrency : Nat} {probe : SocketAddr → PortObservation}
    {addresses : List IpAddr} {ports : List Nat} {hosts : List HostObservation}
    (h : Scans concurrency probe addresses ports hosts)
    (hprobe : ∀ address, (probe address).address = address) (ha : addresses.Nodup)
    (hp : ports.Nodup) : hosts = scanInTurn probe addresses ports := by
  obtain ⟨observations, hrun, rfl⟩ := h
  have hkeys : ((attempts addresses ports).map probe).map PortObservation.address =
      attempts addresses ports := by
    rw [List.map_map, show PortObservation.address ∘ probe = id from funext hprobe, List.map_id]
  have hnodup : (observations.map PortObservation.address).Nodup := by
    rw [(hrun.perm.map _).nodup_iff, hkeys]
    exact attempts_nodup ha hp
  exact congrArg (groupByHost addresses) (sortBy_eq_of_perm hrun.perm hnodup)

/-! ### Services -/

/-- What tells the observations of a port stage apart. -/
def PortObservation.endpoint (port : PortObservation) : SocketAddr ×ₗ Nat :=
  toLex (port.address, match port.transport with | .tcp => 0 | .udp => 1)

theorem scannedHosts_endpoints_nodup {tcp udp : Outcomes} {addresses : List IpAddr}
    {tcpPorts udpPorts : List Nat} (ha : addresses.Nodup) (hp : tcpPorts.Nodup)
    (hu : udpPorts.Nodup) :
    (((scannedHosts tcp udp addresses tcpPorts udpPorts).flatMap HostObservation.ports).map
      PortObservation.endpoint).Nodup := by
  rw [(scannedHosts_ports_perm.map _).nodup_iff, List.map_append, List.map_map, List.map_map]
  have htcp : PortObservation.endpoint ∘ tcp.connect = fun address => toLex (address, 0) := by
    funext address
    simp [PortObservation.endpoint]
  have hudp : PortObservation.endpoint ∘ udp.probeUdp = fun address => toLex (address, 1) := by
    funext address
    simp [PortObservation.endpoint]
  rw [htcp, hudp]
  refine .append ((attempts_nodup ha hp).map ?_) ((attempts_nodup ha hu).map ?_) ?_
  · intro address address' h
    exact congrArg (fun key => (ofLex key).1) h
  · intro address address' h
    exact congrArg (fun key => (ofLex key).1) h
  · intro key hkey hkey'
    obtain ⟨address, -, rfl⟩ := List.mem_map.mp hkey
    obtain ⟨address', -, h⟩ := List.mem_map.mp hkey'
    exact absurd (congrArg (fun key => (ofLex key).2) h) Nat.one_ne_zero

def tcpKey (address : SocketAddr) : SocketAddr ×ₗ Nat := toLex (address, 0)

theorem tcpAddresses_keys (hosts : List HostObservation) :
    ((tcpAddresses hosts).map tcpKey).Sublist
      ((hosts.flatMap HostObservation.ports).map PortObservation.endpoint) := by
  have hsame : (tcpAddresses hosts).map tcpKey =
      ((hosts.flatMap HostObservation.ports).filter fun port =>
        port.transport = .tcp ∧ port.state = .open).map PortObservation.endpoint := by
    rw [tcpAddresses, List.map_map]
    refine List.map_congr_left fun port hport => ?_
    have htcp : port.transport = .tcp := (of_decide_eq_true (List.mem_filter.mp hport).2).1
    simp [tcpKey, PortObservation.endpoint, htcp]
  rw [hsame]
  exact List.filter_sublist.map _

theorem udpObservation_endpoint {port : PortObservation} {service : ServiceObservation}
    (h : udpObservation port = some service) :
    service.transport = .udp ∧ port.transport = .udp ∧ service.sortKey = port.endpoint := by
  unfold udpObservation at h
  dsimp only at h
  split at h
  · rename_i hudp
    rw [← Option.some.inj h]
    refine ⟨rfl, hudp.1, ?_⟩
    simp [ServiceObservation.sortKey, PortObservation.endpoint, hudp.1]
  · cases h

section Detection

variable {hosts : List HostObservation} {probe : SocketAddr → Option ServiceObservation}
  {concurrency : Nat} {observations : List ServiceObservation}

/-- The services of a detection, before they are sorted. -/
theorem detects_perm (h : Detects concurrency probe hosts observations) :
    observations.Perm ((activeAddresses hosts).filterMap probe ++
      (((tcpAddresses hosts).drop maxServiceEndpoints).map hintObservation).filter
        (fun observation => observation.service ≠ .unknown) ++
      (hosts.flatMap HostObservation.ports).filterMap udpObservation) := by
  obtain ⟨probed, hrun, rfl⟩ := h
  have hprobed := hrun.perm.filterMap id
  rw [List.filterMap_map] at hprobed
  exact (sortBy_perm _ _).trans ((hprobed.append_right _).append_right _)

theorem detects_keys_nodup
    (hprobe : ∀ address service, probe address = some service → service.sortKey = tcpKey address)
    (hnodup : ((hosts.flatMap HostObservation.ports).map PortObservation.endpoint).Nodup)
    (h : Detects concurrency probe hosts observations) :
    (observations.map ServiceObservation.sortKey).Nodup := by
  have hprobed := map_filterMap_sublist hprobe (activeAddresses hosts)
  have hhinted : (((((tcpAddresses hosts).drop maxServiceEndpoints).map hintObservation).filter
      (fun observation => observation.service ≠ .unknown)).map ServiceObservation.sortKey).Sublist
        (((tcpAddresses hosts).drop maxServiceEndpoints).map tcpKey) := by
    have hkeys : (((tcpAddresses hosts).drop maxServiceEndpoints).map hintObservation).map
        ServiceObservation.sortKey =
          ((tcpAddresses hosts).drop maxServiceEndpoints).map tcpKey := by
      rw [List.map_map]
      rfl
    rw [← hkeys]
    exact List.filter_sublist.map _
  have htcp := hprobed.append hhinted
  rw [← List.map_append, ← List.map_append, activeAddresses, List.take_append_drop] at htcp
  rw [((detects_perm h).map _).nodup_iff, List.map_append]
  have hudp : ∀ port service, udpObservation port = some service →
      service.sortKey = port.endpoint := fun _ _ hsome => (udpObservation_endpoint hsome).2.2
  refine .append (hnodup.sublist (htcp.trans (tcpAddresses_keys hosts)))
    (hnodup.sublist (map_filterMap_sublist hudp _)) ?_
  intro key hkey hkey'
  obtain ⟨address, -, rfl⟩ := List.mem_map.mp (htcp.subset hkey)
  obtain ⟨service, hservice, hsame⟩ := List.mem_map.mp hkey'
  obtain ⟨port, -, hsome⟩ := List.mem_filterMap.mp hservice
  have hudp := (udpObservation_endpoint hsome).1
  have hlast := congrArg (fun key => (ofLex key).2) hsame
  simp [ServiceObservation.sortKey, tcpKey, hudp] at hlast

theorem detects_eq
    (hprobe : ∀ address service, probe address = some service → service.sortKey = tcpKey address)
    (hnodup : ((hosts.flatMap HostObservation.ports).map PortObservation.endpoint).Nodup)
    (h : Detects concurrency probe hosts observations) :
    observations = detected hosts ((activeAddresses hosts).map probe) := by
  have hkeys := detects_keys_nodup hprobe hnodup h
  obtain ⟨probed, hrun, rfl⟩ := h
  have hprobed := hrun.perm.filterMap id
  refine sortBy_eq_of_perm ((hprobed.append_right _).append_right _) ?_
  exact ((sortBy_perm ServiceObservation.sortKey _).map _).nodup_iff.mp hkeys

theorem detects_inTurn (concurrency : Nat) (probe : SocketAddr → Option ServiceObservation)
    (hosts : List HostObservation) :
    Detects concurrency probe hosts (detected hosts ((activeAddresses hosts).map probe)) :=
  ⟨_, Buffer.collects_map (by omega) _, rfl⟩

end Detection

theorem probe_spec {address : SocketAddr} {hostname : String} {meeting : ProbeMeeting}
    {service : ServiceObservation} (h : probe address hostname meeting = some service) :
    service.transport = .tcp ∧ service.address = address ∧ service.ssh = none := by
  unfold probe at h
  split at h
  · cases h
  · rw [← Option.some.inj h]
    cases hinner : probeInner address hostname meeting with
    | none => exact ⟨rfl, rfl, rfl⟩
    | some observation =>
      unfold probeInner at hinner
      split at hinner
      · obtain ⟨bytes, -, rfl⟩ := Option.map_eq_some_iff.mp hinner
        exact ⟨rfl, rfl, rfl⟩
      · cases hinner

theorem ServiceObservation.sortKey_tcp {service : ServiceObservation}
    (h : service.transport = .tcp) : service.sortKey = tcpKey service.address := by
  simp [ServiceObservation.sortKey, tcpKey, h]

/-! ### SSH -/

section Ssh

variable {Url : Type} (network : ActiveNetwork Url)

theorem ActiveNetwork.analyzesSsh_eq {concurrency : Nat} {services result : List ServiceObservation}
    {analyses : List EndpointAnalysis} {state : SshAnalysisState}
    (h : AnalyzesSsh network.ssh concurrency services analyses result state) :
    (result, state) = network.analyzeSshInTurn services := by
  unfold ActiveNetwork.analyzeSshInTurn
  cases h with
  | nothing hempty =>
    have hsame : services.map (ServiceObservation.enrich []) = services := by
      refine (List.map_congr_left fun service _ => ?_).trans (List.map_id' services)
      unfold ServiceObservation.enrich
      split <;> rfl
    rw [List.isEmpty_iff.mp hempty, List.map_nil, sortBy_nil]
    dsimp only
    rw [hsame]
    rfl
  | inspected hsome hcollects =>
    have haddresses : ((sshAddresses services).toList.map (inspect network.ssh)).map
        EndpointAnalysis.address = (sshAddresses services).toList := by
      rw [List.map_map, show EndpointAnalysis.address ∘ inspect network.ssh = id from
        funext inspect_address, List.map_id]
    have hsame : sortBy EndpointAnalysis.address analyses = sortBy EndpointAnalysis.address
        ((sshAddresses services).toList.map (inspect network.ssh)) := by
      refine sortBy_eq_of_perm hcollects.perm ?_
      rw [(hcollects.perm.map _).nodup_iff, haddresses]
      exact OrdSet.nodup _
    rw [hsame]

theorem ActiveNetwork.exists_analyzesSsh (concurrency : Nat) (services : List ServiceObservation) :
    ∃ analyses, AnalyzesSsh network.ssh concurrency services analyses
      (network.analyzeSshInTurn services).1 (network.analyzeSshInTurn services).2 := by
  by_cases hempty : (sshAddresses services).isEmpty = true
  · have hnothing : AnalyzesSsh network.ssh concurrency services [] services .completed :=
      .nothing hempty
    rw [← network.analyzesSsh_eq hnothing]
    exact ⟨[], hnothing⟩
  · have hbound : 0 < max 1 (min concurrency 16) := by omega
    exact ⟨_, .inspected (Bool.not_eq_true _ ▸ hempty) (Buffer.collects_map hbound _)⟩

end Ssh

theorem enriched_sortKey (exchange : SocketAddr → SshExchange) :
    ServiceObservation.sortKey ∘ ServiceObservation.enriched exchange =
      ServiceObservation.sortKey := by
  funext service
  rw [Function.comp_apply]
  unfold ServiceObservation.enriched
  split <;> rfl

/-! ### HTTP -/

/-- TCP services with keys of their own are at different addresses. -/
theorem httpCandidates_nodup {services : List ServiceObservation}
    (h : (services.map ServiceObservation.sortKey).Nodup) :
    ((services.filter isHttpCandidate).map ServiceObservation.address).Nodup := by
  have hkeys : ((services.filter isHttpCandidate).map ServiceObservation.address).map tcpKey =
      (services.filter isHttpCandidate).map ServiceObservation.sortKey := by
    rw [List.map_map]
    refine List.map_congr_left fun service hservice => ?_
    have hcandidate := (List.mem_filter.mp hservice).2
    rw [isHttpCandidate, Bool.and_eq_true, decide_eq_true_eq] at hcandidate
    exact (ServiceObservation.sortKey_tcp hcandidate.1).symm
  refine .of_map tcpKey ?_
  rw [hkeys]
  exact h.sublist (List.filter_sublist.map _)

/-! ## The order of completion, over all stages -/

namespace ActiveNetwork

variable {Url : Type} {network : ActiveNetwork Url} {target : NormalizedTarget}
  {configuration : ScanConfiguration} {env : CoreEnv}

theorem analyzesTls_inTurn (concurrency : Nat) (env : CoreEnv) :
    match target.hostname with
    | some serverName => AnalyzesTls network.fromDer network.sha256 network.tls serverName
        concurrency (network.sshInTurn target configuration env).1
          (network.tlsInTurn target configuration env)
    | none => network.tlsInTurn target configuration env = [] := by
  unfold tlsInTurn
  cases target.hostname with
  | none => rfl
  | some serverName => exact Surface.analyzesTls_inTurn _ _

theorem probe_sortKey (address : SocketAddr) (service : ServiceObservation)
    (h : network.probe target address = some service) : service.sortKey = tcpKey address := by
  obtain ⟨htcp, haddress, -⟩ := probe_spec h
  rw [ServiceObservation.sortKey_tcp htcp, haddress]

/-- Every network answers some run, the one with one task after the other. -/
theorem drives_inTurn (network : ActiveNetwork Url) (target : NormalizedTarget)
    (configuration : ScanConfiguration) (env : CoreEnv) :
    network.Drives target configuration (network.inTurn target configuration env) where
  tcpHosts := (scans_inTurn : ScanPorts _ network.tcp env.addresses configuration.ports _)
  udpHosts := (scans_inTurn : ScanUdpPorts _ network.udp env.addresses configuration.udpPorts _)
  services := detects_inTurn _ _ (network.hostsInTurn configuration env)
  ssh := by
    simp only [inTurn]
    exact network.exists_analyzesSsh _ _
  http := by
    simp only [inTurn]
    exact analyzesHttp_inTurn _ _
  tls := by
    simp only [inTurn]
    exact analyzesTls_inTurn _ env

theorem addresses_nodup (env : CoreEnv) : env.addresses.Nodup := OrdSet.nodup _

/-- The TCP probes may complete in another order. -/
theorem drives_of_scanPorts (env : CoreEnv) (hp : configuration.ports.Nodup)
    {hosts : List HostObservation} (h : ScanPorts configuration.probeConcurrency network.tcp
      env.addresses configuration.ports hosts) :
    network.Drives target configuration
      { network.inTurn target configuration env with tcpHosts := hosts } := by
  have hinTurn : hosts = network.tcpInTurn configuration env :=
    h.eq_inTurn network.tcp.connect_address (addresses_nodup env) hp
  have hrun := network.drives_inTurn target configuration env
  subst hinTurn
  simp only [inTurn] at hrun ⊢
  exact hrun

/-- Endpoints that are scanned once each leave nothing for the order of completion to decide. -/
theorem Drives.eq_inTurn (h : network.Drives target configuration env)
    (hp : configuration.ports.Nodup) (hu : configuration.udpPorts.Nodup) :
    env = network.inTurn target configuration env := by
  have ha := addresses_nodup env
  have htcp : env.tcpHosts = network.tcpInTurn configuration env :=
    h.tcpHosts.eq_inTurn network.tcp.connect_address ha hp
  have hudp : env.udpHosts = network.udpInTurn configuration env :=
    h.udpHosts.eq_inTurn network.udp.probeUdp_address ha hu
  have hmerged := mergeHosts_scans ha hp hu h.tcpHosts h.udpHosts
  have hendpoints : (((mergeHosts env.tcpHosts env.udpHosts).flatMap HostObservation.ports).map
      PortObservation.endpoint).Nodup := by
    rw [hmerged]
    exact scannedHosts_endpoints_nodup ha hp hu
  have hkeys := detects_keys_nodup probe_sortKey hendpoints h.services
  have hservices : env.services = network.servicesInTurn target configuration env := by
    have heq := detects_eq probe_sortKey hendpoints h.services
    rwa [htcp, hudp] at heq
  obtain ⟨analyses, hanalyzes⟩ := h.ssh
  have hssh : (env.sshServices, env.ssh) = network.sshInTurn target configuration env := by
    rw [sshInTurn, ← hservices]
    exact network.analyzesSsh_eq hanalyzes
  have hhttp : env.http = network.httpInTurn target configuration env := by
    rw [httpInTurn, ← hssh]
    refine analyzesHttp_eq (httpCandidates_nodup ?_) h.http
    rwa [(analyzeSsh_enriches hanalyzes).enriched, List.map_map, enriched_sortKey]
  have htls : env.tls = network.tlsInTurn target configuration env := by
    have hrun := h.tls
    rw [tlsInTurn, ← hssh]
    cases hname : target.hostname with
    | none =>
      rw [hname] at hrun
      exact hrun
    | some serverName =>
      rw [hname] at hrun
      exact analyzesTls_eq hrun
  rw [inTurn, ← htcp, ← hudp, ← hservices, ← hssh, ← hhttp, ← htls]

end ActiveNetwork

/-- The whole scan over a network is the scan with one task after the other: in whatever order the
probes, the inspections and the handshakes complete, and however many of them are in flight, the
report and the stages announced are the same. -/
theorem activeScan_inTurn {Url : Type} {network : ActiveNetwork Url} {target : NormalizedTarget}
    {configuration : ScanConfiguration} {env : CoreEnv}
    (h : network.Drives target configuration env) (hp : configuration.ports.Nodup)
    (hu : configuration.udpPorts.Nodup) (generateFindings : FindingGenerator)
    (clock : FinalizeClock) (selection : ScanSelection) :
    runScanSelected env generateFindings clock target configuration selection =
      runScanSelected (network.inTurn target configuration env) generateFindings clock target
        configuration selection :=
  congrArg (fun env => runScanSelected env generateFindings clock target configuration selection)
    (h.eq_inTurn hp hu)

/-! ## A scan of two ports -/

/-- The ports 22 and 443 are open, and nothing behind them answers. -/
def silentNetwork : ActiveNetwork String where
  library :=
    ⟨some, fun _ _ => none, id, fun _ => "", fun _ => none, fun _ => none, fun url _ => url⟩
  platform := fixturePlatform
  fromDer _ := .error "no certificate"
  sha256 bytes := bytes
  tcp _ := .answered none
  udp _ := .cancelled
  greeting _ := ⟨false, false, fun _ => false, [], none, none⟩
  ssh _ := .timeout
  http _ := some ⟨true, fun _ => .error "connection closed", fun _ => none, none⟩
  tls := ⟨true, fun _ => .refused "connection refused"⟩

def twoPorts : ScanConfiguration :=
  { fixtureConfiguration with ports := [443, 22], concurrency := 4 }

def fixtureAddress : IpAddr := .ofOctets 192 0 2 1

/-- Both probes are in flight, and the one of port 22 completes first. -/
def crossedHosts : List HostObservation :=
  arrange [fixtureAddress]
    [connect (.answered none) ⟨fixtureAddress, 22⟩, connect (.answered none) ⟨fixtureAddress, 443⟩]

def oneAddressEnv : CoreEnv :=
  { addresslessEnv with
    baseline := .ready (.ok
      { observation :=
          { queriedName := "example.com"
            records := []
            cnameChain := []
            danglingCnames := []
            resolvedHosts := [⟨some "example.com", fixtureAddress, .aRecord⟩]
            mail := ⟨false, ⟨[], none⟩, [], [], none, []⟩
            dnssec := none
            authoritativeAxfr := none
            wildcardDns := none
            errors := [] }
        authority := none }) }

def crossedEnv : CoreEnv :=
  { silentNetwork.inTurn fixtureTarget twoPorts oneAddressEnv with tcpHosts := crossedHosts }

theorem crossedEnv_drives : silentNetwork.Drives fixtureTarget twoPorts crossedEnv := by
  have haddresses : oneAddressEnv.addresses = [fixtureAddress] := by decide
  refine ActiveNetwork.drives_of_scanPorts oneAddressEnv (by decide) ?_
  rw [haddresses]
  exact ⟨_, Buffer.collects_of_perm (by decide) (.swap _ _ _), rfl⟩

theorem activeScan_inTurn_crossed :
    runScanSelected crossedEnv (fun _ _ _ _ _ _ _ => [])
        ⟨⟨false, false⟩, ⟨10⟩, ⟨false, false⟩, ⟨11⟩⟩ fixtureTarget twoPorts .all =
      runScanSelected (silentNetwork.inTurn fixtureTarget twoPorts crossedEnv)
        (fun _ _ _ _ _ _ _ => []) ⟨⟨false, false⟩, ⟨10⟩, ⟨false, false⟩, ⟨11⟩⟩ fixtureTarget
        twoPorts .all :=
  activeScan_inTurn crossedEnv_drives (by decide) (by decide) _ _ _

end Surface

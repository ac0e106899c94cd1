import Surface.ScanSections

/-!
# Surface.ScanScope

Where the observations of a finished scan come from.

* `WithinScope`: hosts are resolved addresses with the ports asked for, services are at open ports,
  and HTTP and TLS are observed at their candidates among the services.
* `activeScan_withinScope`: the report of every scan is in scope, whatever ended it.
-/

namespace Surface

section Scope

variable {Url : Type} (network : ActiveNetwork Url) (target : NormalizedTarget)
  (configuration : ScanConfiguration)

/-- A port the scan was asked for, as the network answered. -/
def PortObservation.AskedFor (port : PortObservation) : Prop :=
  match port.transport with
  | .tcp => port.address.port ∈ configuration.ports ∧ port = network.tcp.connect port.address
  | .udp => port.address.port ∈ configuration.udpPorts ∧ port = network.udp.probeUdp port.address

/-- The port can have something behind it. -/
def PortObservation.Reachable (port : PortObservation) : Prop :=
  port.state = .open ∨ port.transport = .udp ∧ port.state = .openFiltered

/-- Everything observed of a target is behind one of its addresses and one of the ports asked for,
and every stage observes what the one before it found. -/
structure WithinScope (addresses : List IpAddr) (found : Sections) : Prop where
  hosts : ∀ host ∈ found.hosts, host.ip ∈ addresses ∧
    ∀ port ∈ host.ports, port.address.ip = host.ip ∧ port.AskedFor network configuration
  services : ∀ service ∈ found.services, ∃ host ∈ found.hosts, ∃ port ∈ host.ports,
    port.address = service.address ∧ port.transport = service.transport ∧ port.Reachable
  postures : ∀ service ∈ found.services, ∀ posture, service.ssh = some posture →
    service.isTcpSsh = true ∧ posture = (inspect network.ssh service.address).posture
  http : ∀ observation ∈ found.http, ∃ service ∈ found.services,
    isHttpCandidate service = true ∧
      network.http.inspect network.library network.platform target service = some observation
  tls : ∀ observation ∈ found.tls, ∃ service ∈ found.services,
    isImplicitTlsCandidate service = true ∧
      observation.Consistent service.address observation.serverName ∧
      target.hostname = some observation.serverName ∧ target.explicitIp = none

end Scope

/-! ## Hosts -/

section Hosts

variable {tcp udp : Outcomes} {addresses : List IpAddr} {tcpPorts udpPorts : List Nat}
  {tcpConcurrency udpConcurrency : Nat} {tcpHosts udpHosts : List HostObservation}

/-- A merged host lists the observations of its ports. -/
theorem mem_mergeHosts_scans (ha : addresses.Nodup)
    (htcp : ScanPorts tcpConcurrency tcp addresses tcpPorts tcpHosts)
    (hudp : ScanUdpPorts udpConcurrency udp addresses udpPorts udpHosts) {host : HostObservation}
    (h : host ∈ mergeHosts tcpHosts udpHosts) : host.ip ∈ addresses ∧
      host.ports.Perm (hostObservations tcp udp tcpPorts udpPorts host.ip) := by
  obtain ⟨tcpGroup, rfl, htcpGroup⟩ := scans_groups tcp.connect_address ha htcp
  obtain ⟨udpGroup, rfl, hudpGroup⟩ := scans_groups udp.probeUdp_address ha hudp
  unfold mergeHosts at h
  rw [mem_sortBy, foldl_mergeHost ha udpGroup ha (fun _ h => h) tcpGroup] at h
  obtain ⟨ip, hip, rfl⟩ := List.mem_map.mp h
  refine ⟨hip, ?_⟩
  rw [if_pos hip]
  exact (sortBy_perm _ _).trans ((htcpGroup ip hip).append (hudpGroup ip hip))

theorem hostObservations_askedFor {Url : Type} {network : ActiveNetwork Url}
    {configuration : ScanConfiguration} {ip : IpAddr} {port : PortObservation}
    (h : port ∈ hostObservations network.tcp network.udp configuration.ports configuration.udpPorts
      ip) : port.address.ip = ip ∧ port.AskedFor network configuration := by
  rcases List.mem_append.mp h with h | h
  · obtain ⟨number, hnumber, rfl⟩ := List.mem_map.mp h
    rw [PortObservation.AskedFor, Outcomes.connect_transport]
    simp [hnumber]
  · obtain ⟨number, hnumber, rfl⟩ := List.mem_map.mp h
    rw [PortObservation.AskedFor, Outcomes.probeUdp_transport]
    simp [hnumber]

end Hosts

/-! ## Services -/

section Services

variable {hosts : List HostObservation} {concurrency : Nat}
  {probe : SocketAddr → Option ServiceObservation} {observations : List ServiceObservation}

/-- Every service detected is at a reachable port, and nothing is known of its SSH posture. -/
theorem mem_detects
    (hprobe : ∀ address service, probe address = some service →
      service.transport = .tcp ∧ service.address = address ∧ service.ssh = none)
    (h : Detects concurrency probe hosts observations) {service : ServiceObservation}
    (hmem : service ∈ observations) : service.ssh = none ∧
      ∃ host ∈ hosts, ∃ port ∈ host.ports, port.address = service.address ∧
        port.transport = service.transport ∧ port.Reachable := by
  have htcp : ∀ {address : SocketAddr} {service : ServiceObservation},
      address ∈ tcpAddresses hosts → service.transport = .tcp → service.address = address →
      ∃ host ∈ hosts, ∃ port ∈ host.ports, port.address = service.address ∧
        port.transport = service.transport ∧ port.Reachable := by
    intro address service haddress htransport hservice
    obtain ⟨port, hport, rfl⟩ := List.mem_map.mp haddress
    obtain ⟨hlisted, hopen⟩ := List.mem_filter.mp hport
    obtain ⟨host, hhost, hport⟩ := List.mem_flatMap.mp hlisted
    obtain ⟨htcp, hstate⟩ := of_decide_eq_true hopen
    exact ⟨host, hhost, port, hport, hservice.symm, htcp.trans htransport.symm, .inl hstate⟩
  rcases List.mem_append.mp ((detects_perm h).mem_iff.mp hmem) with hmem | hmem
  · rcases List.mem_append.mp hmem with hmem | hmem
    · obtain ⟨address, haddress, hsome⟩ := List.mem_filterMap.mp hmem
      obtain ⟨htransport, hservice, hssh⟩ := hprobe address service hsome
      exact ⟨hssh, htcp (List.mem_of_mem_take haddress) htransport hservice⟩
    · obtain ⟨address, haddress, rfl⟩ := List.mem_map.mp (List.mem_filter.mp hmem).1
      exact ⟨rfl, htcp (List.mem_of_mem_drop haddress) rfl rfl⟩
  · obtain ⟨port, hlisted, hsome⟩ := List.mem_filterMap.mp hmem
    obtain ⟨host, hhost, hport⟩ := List.mem_flatMap.mp hlisted
    unfold udpObservation at hsome
    dsimp only at hsome
    split at hsome
    · rename_i hudp
      rw [← Option.some.inj hsome]
      exact ⟨rfl, host, hhost, port, hport, rfl, hudp.1,
        hudp.2.imp_right fun hsilent => ⟨hudp.1, hsilent.1⟩⟩
    · cases hsome

/-- An enriched service is the one it was made of, with a posture only if it is SSH over TCP. -/
theorem enriched_spec (exchange : SocketAddr → SshExchange) (service : ServiceObservation)
    (h : service.ssh = none) :
    (service.enriched exchange).address = service.address ∧
      (service.enriched exchange).transport = service.transport ∧
      ∀ posture, (service.enriched exchange).ssh = some posture →
        (service.enriched exchange).isTcpSsh = true ∧
          posture = (inspect exchange service.address).posture := by
  unfold ServiceObservation.enriched
  split
  · rename_i hssh
    exact ⟨rfl, rfl, fun posture hposture => ⟨hssh, (Option.some.inj hposture).symm⟩⟩
  · refine ⟨rfl, rfl, fun posture hposture => ?_⟩
    rw [h] at hposture
    cases hposture

end Services

/-! ## Any scan -/

section Scan

variable {Url : Type} {network : ActiveNetwork Url} {target : NormalizedTarget}
  {configuration : ScanConfiguration} {env : CoreEnv}

open ActiveNetwork

theorem drives_hosts (h : network.Drives target configuration env) {host : HostObservation}
    (hmem : host ∈ env.hosts) : host.ip ∈ env.addresses ∧
      ∀ port ∈ host.ports, port.address.ip = host.ip ∧ port.AskedFor network configuration := by
  obtain ⟨hip, hports⟩ :=
    mem_mergeHosts_scans (addresses_nodup env) h.tcpHosts h.udpHosts hmem
  exact ⟨hip, fun port hport => hostObservations_askedFor (hports.mem_iff.mp hport)⟩

theorem drives_services (h : network.Drives target configuration env)
    {service : ServiceObservation} (hmem : service ∈ env.services) : service.ssh = none ∧
      ∃ host ∈ env.hosts, ∃ port ∈ host.ports, port.address = service.address ∧
        port.transport = service.transport ∧ port.Reachable :=
  mem_detects (fun _ _ hsome => probe_spec hsome) h.services hmem

theorem drives_sshServices (h : network.Drives target configuration env)
    {service : ServiceObservation} (hmem : service ∈ env.sshServices) :
    (∃ host ∈ env.hosts, ∃ port ∈ host.ports, port.address = service.address ∧
        port.transport = service.transport ∧ port.Reachable) ∧
      ∀ posture, service.ssh = some posture → service.isTcpSsh = true ∧
        posture = (inspect network.ssh service.address).posture := by
  obtain ⟨analyses, hanalyzes⟩ := h.ssh
  rw [(analyzeSsh_enriches hanalyzes).enriched] at hmem
  obtain ⟨detected, hdetected, rfl⟩ := List.mem_map.mp hmem
  obtain ⟨hssh, hport⟩ := drives_services h hdetected
  obtain ⟨haddress, htransport, hposture⟩ := enriched_spec network.ssh detected hssh
  rw [haddress, htransport]
  exact ⟨hport, hposture⟩

theorem drives_http (h : network.Drives target configuration env) {observation : HttpObservation}
    (hmem : observation ∈ env.http) : ∃ service ∈ env.sshServices, isHttpCandidate service = true ∧
      network.http.inspect network.library network.platform target service = some observation := by
  obtain ⟨service, hservice, hsome⟩ := h.http.mem_iff.mp hmem
  obtain ⟨hservice, hcandidate⟩ := List.mem_filter.mp hservice
  exact ⟨service, hservice, hcandidate, hsome⟩

theorem drives_tls (h : network.Drives target configuration env) {observation : TlsObservation}
    (hhost : target.hostless = false) (hmem : observation ∈ env.tls) :
    ∃ service ∈ env.sshServices, isImplicitTlsCandidate service = true ∧
      observation.Consistent service.address observation.serverName ∧
      target.hostname = some observation.serverName ∧ target.explicitIp = none := by
  have hrun := h.tls
  have hexplicit : target.explicitIp = none := by
    cases hip : target.explicitIp with
    | none => rfl
    | some ip => simp [NormalizedTarget.hostless, hip] at hhost
  cases hname : target.hostname with
  | none => simp [NormalizedTarget.hostless, hname] at hhost
  | some serverName =>
    rw [hname] at hrun
    dsimp only [AnalyzesTls] at hrun
    split at hrun
    · obtain ⟨address, haddress, hsome⟩ := hrun.mem_iff.mp hmem
      obtain ⟨service, hservice, hcandidate, rfl⟩ := mem_tlsAddresses.mp haddress
      have hconsistent := inspect_tls_consistent hsome
      have hserver := hconsistent.serverName
      rw [hserver]
      exact ⟨service, hservice, hcandidate, hconsistent, rfl, hexplicit⟩
    · rw [hrun] at hmem
      cases hmem

theorem covers_withinScope (h : network.Drives target configuration env) {found : Sections}
    (hcovers : Covers env target found) :
    WithinScope network target configuration env.addresses found := by
  have hhosts := fun host (hmem : host ∈ env.hosts) => drives_hosts h hmem
  cases hcovers with
  | untouched => constructor <;> exact List.forall_mem_nil _
  | scanned => exact ⟨hhosts, List.forall_mem_nil _, List.forall_mem_nil _, List.forall_mem_nil _,
      List.forall_mem_nil _⟩
  | detected =>
    refine ⟨hhosts, fun service hmem => (drives_services h hmem).2, fun service hmem => ?_,
      List.forall_mem_nil _, List.forall_mem_nil _⟩
    rw [(drives_services h hmem).1]
    exact fun posture hposture => by cases hposture
  | enriched =>
    exact ⟨hhosts, fun service hmem => (drives_sshServices h hmem).1,
      fun service hmem => (drives_sshServices h hmem).2, List.forall_mem_nil _,
      List.forall_mem_nil _⟩
  | analyzed hhttp htls hhost =>
    refine ⟨hhosts, fun service hmem => (drives_sshServices h hmem).1,
      fun service hmem => (drives_sshServices h hmem).2, fun observation hmem => ?_,
      fun observation hmem => ?_⟩
    · cases hhttp with
      | omitted => cases hmem
      | listed => exact drives_http h hmem
    · cases htls with
      | omitted => cases hmem
      | listed => exact drives_tls h (hhost (List.ne_nil_of_mem hmem)) hmem

/-- The scope does not depend on the announcements. -/
theorem WithinScope.congr {addresses : List IpAddr} {found found' : Sections}
    (hsame : { found with completions := [] } = { found' with completions := [] })
    (h : WithinScope network target configuration addresses found') :
    WithinScope network target configuration addresses found := by
  obtain ⟨⟩ := found
  obtain ⟨⟩ := found'
  cases hsame
  exact ⟨h.hosts, h.services, h.postures, h.http, h.tls⟩

theorem runScanInner_withinScope (h : network.Drives target configuration env)
    (selection : ScanSelection) :
    WithinScope network target configuration
      (runScanInner env target configuration selection).report.scanAddresses
      (runScanInner env target configuration selection).sections := by
  rcases runScanInner_covers env target configuration selection with hempty | ⟨hresolved, hcovers⟩
  · rw [hempty]
    constructor <;> exact List.forall_mem_nil _
  · rw [hresolved]
    exact covers_withinScope h hcovers

/-- Whatever the order in which the tasks of the stages complete, and whatever ends the scan: its
report has nothing in it that does not come from an address that DNS resolved and a port that was
asked for. -/
theorem activeScan_withinScope (h : network.Drives target configuration env)
    (generateFindings : FindingGenerator) (clock : FinalizeClock) (selection : ScanSelection) :
    let run := runScanSelected env generateFindings clock target configuration selection
    WithinScope network target configuration run.report.scanAddresses run.sections := by
  intro run
  have haddresses : run.report.scanAddresses =
      (runScanInner env target configuration selection).report.scanAddresses :=
    scanAddresses_of_basis (finalize_basis generateFindings clock _)
  have hobserved : run.observed = (runScanInner env target configuration selection).observed :=
    finalize_observed generateFindings clock _
  rw [haddresses]
  exact (runScanInner_withinScope h selection).congr hobserved

end Scan

theorem activeScan_withinScope_crossed :
    WithinScope silentNetwork fixtureTarget twoPorts
      (runScanSelected crossedEnv (fun _ _ _ _ _ _ _ => [])
        ⟨⟨false, false⟩, ⟨10⟩, ⟨false, false⟩, ⟨11⟩⟩ fixtureTarget twoPorts
          .all).report.scanAddresses
      (runScanSelected crossedEnv (fun _ _ _ _ _ _ _ => [])
        ⟨⟨false, false⟩, ⟨10⟩, ⟨false, false⟩, ⟨11⟩⟩ fixtureTarget twoPorts .all).sections :=
  activeScan_withinScope crossedEnv_drives _ _ _

end Surface

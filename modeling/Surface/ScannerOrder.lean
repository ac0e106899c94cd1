import Surface.Scanner

/-!
# Surface.ScannerOrder

The port observations do not depend on the order in which the probes complete.

* `scans_groups`: under each host a scan lists the observations of its ports, in some order.
* `foldl_mergeHost`: merging adds the UDP ports of every host to its TCP ports.
* `mergeHosts_scans`: the merged hosts are `scannedHosts`, which knows no order of completion.
* `portScan_order_independent`: every endpoint once, under its own host, everything ascending.
-/

namespace Surface

/-! ## One scan -/

theorem mem_attempts {addresses : List IpAddr} {ports : List Nat} {address : SocketAddr} :
    address ∈ attempts addresses ports ↔ address.ip ∈ addresses ∧ address.port ∈ ports := by
  obtain ⟨ip, port⟩ := address
  simp [attempts]

theorem attempts_nodup {addresses : List IpAddr} {ports : List Nat} (ha : addresses.Nodup)
    (hp : ports.Nodup) : (attempts addresses ports).Nodup := by
  refine List.nodup_flatMap.mpr ⟨fun ip _ => ?_, ha.imp (fun {ip ip'} hne => ?_)⟩
  · exact hp.map (fun port port' h => (SocketAddr.mk.inj h).2)
  · intro address h h'
    obtain ⟨port, _, rfl⟩ := List.mem_map.mp h
    obtain ⟨port', _, h'⟩ := List.mem_map.mp h'
    exact hne (SocketAddr.mk.inj h').1.symm

/-- Of all attempts, those of one address are the ones of its ports. -/
theorem filter_attempts {addresses : List IpAddr} (ha : addresses.Nodup) (ports : List Nat)
    {ip : IpAddr} (hip : ip ∈ addresses) :
    ((attempts addresses ports).filter fun address => address.ip = ip) =
      ports.map fun port => ⟨ip, port⟩ := by
  have hgroup : ∀ ip', ((ports.map fun port => (⟨ip', port⟩ : SocketAddr)).filter
      fun address => address.ip = ip) = if ip' = ip then ports.map fun port => ⟨ip, port⟩ else [] := by
    intro ip'
    by_cases h : ip' = ip
    · simp [h, List.filter_map, Function.comp_def]
    · simp [h, List.filter_map, Function.comp_def]
  unfold attempts
  rw [List.filter_flatMap]
  simp only [hgroup]
  induction addresses with
  | nil => cases hip
  | cons ip' addresses ih =>
    obtain ⟨hout, ha⟩ := List.nodup_cons.mp ha
    rw [List.flatMap_cons]
    by_cases h : ip' = ip
    · subst h
      have hrest : (addresses.flatMap fun ip'' => if ip'' = ip' then
          ports.map fun port => (⟨ip', port⟩ : SocketAddr) else []) = [] := by
        refine List.flatMap_eq_nil_iff.mpr (fun ip'' hmem => if_neg ?_)
        rintro rfl
        exact hout hmem
      rw [if_pos rfl, hrest, List.append_nil]
    · have hmem : ip ∈ addresses := (List.mem_cons.mp hip).resolve_left (Ne.symm h)
      rw [if_neg h, List.nil_append, ih ha hmem]

section Scan

variable {concurrency : Nat} {probe : SocketAddr → PortObservation} {addresses : List IpAddr}
  {ports : List Nat} {hosts : List HostObservation}

/-- Under each host a scan lists the observations of its ports, in some order. -/
theorem scans_groups (hprobe : ∀ address, (probe address).address = address)
    (ha : addresses.Nodup) (h : Scans concurrency probe addresses ports hosts) :
    ∃ group : IpAddr → List PortObservation,
      hosts = addresses.map (fun ip => ⟨ip, group ip⟩) ∧
      ∀ ip ∈ addresses, (group ip).Perm (ports.map fun port => probe ⟨ip, port⟩) := by
  obtain ⟨observations, hrun, rfl⟩ := h
  refine ⟨_, rfl, fun ip hip => ?_⟩
  have hperm := (sortBy_perm PortObservation.address observations).trans hrun.perm
  refine (hperm.filter _).trans (.of_eq ?_)
  have hkeep : (fun observation : PortObservation => decide (observation.address.ip = ip)) ∘ probe =
      fun address => decide (address.ip = ip) := by
    funext address
    simp [hprobe]
  rw [List.filter_map, hkeep, filter_attempts ha ports hip, List.map_map]
  rfl

/-- Probing in turn is one of the runs. -/
theorem scans_inTurn : Scans concurrency probe addresses ports (scanInTurn probe addresses ports) :=
  ⟨_, Buffer.collects_map (by omega) _, rfl⟩

end Scan

/-! ## Merging -/

theorem mergeHost_group {addresses : List IpAddr} {ip : IpAddr} (hip : ip ∈ addresses)
    (ha : addresses.Nodup) (group : IpAddr → List PortObservation) (more : List PortObservation) :
    mergeHost (addresses.map fun ip => ⟨ip, group ip⟩) ⟨ip, more⟩ =
      addresses.map fun ip' => ⟨ip', if ip' = ip then
        sortBy PortObservation.sortKey (group ip' ++ more) else group ip'⟩ := by
  induction addresses with
  | nil => cases hip
  | cons ip' addresses ih =>
    obtain ⟨hout, ha⟩ := List.nodup_cons.mp ha
    simp only [List.map_cons, mergeHost]
    by_cases h : ip' = ip
    · subst h
      rw [if_pos rfl, if_pos rfl]
      refine congrArg _ (List.map_congr_left (fun ip'' hmem => ?_))
      have hne : ip'' ≠ ip' := fun heq => hout (heq ▸ hmem)
      rw [if_neg hne]
    · have hmem : ip ∈ addresses := (List.mem_cons.mp hip).resolve_left (Ne.symm h)
      rw [if_neg h, if_neg h, ih hmem ha]

/-- Every host merged once, its TCP ports are extended by its UDP ports. -/
theorem foldl_mergeHost {addresses : List IpAddr} (ha : addresses.Nodup)
    (udp : IpAddr → List PortObservation) {merged : List IpAddr} (hm : merged.Nodup)
    (hsub : ∀ ip ∈ merged, ip ∈ addresses) :
    ∀ group : IpAddr → List PortObservation,
      (merged.map fun ip => ⟨ip, udp ip⟩).foldl mergeHost (addresses.map fun ip => ⟨ip, group ip⟩) =
        addresses.map fun ip => ⟨ip, if ip ∈ merged then
          sortBy PortObservation.sortKey (group ip ++ udp ip) else group ip⟩ := by
  induction merged with
  | nil =>
    intro group
    simp
  | cons ip merged ih =>
    intro group
    obtain ⟨hout, hm⟩ := List.nodup_cons.mp hm
    have htail : ∀ ip' ∈ merged, ip' ∈ addresses :=
      fun ip' hmem => hsub ip' (List.mem_cons_of_mem ip hmem)
    rw [List.map_cons, List.foldl_cons, mergeHost_group (hsub ip List.mem_cons_self) ha, ih hm htail]
    refine List.map_congr_left (fun ip' _ => ?_)
    by_cases h : ip' = ip
    · subst h
      simp [hout]
    · simp [h]

/-! ## The hosts of a port stage -/

section Stage

variable (tcp udp : Outcomes) (addresses : List IpAddr) (tcpPorts udpPorts : List Nat)

/-- The observations of one host, in the order of the ports asked for. -/
def hostObservations (ip : IpAddr) : List PortObservation :=
  (tcpPorts.map fun port => tcp.connect ⟨ip, port⟩) ++
    udpPorts.map fun port => udp.probeUdp ⟨ip, port⟩

/-- The merged hosts, without any order of completion. -/
def scannedHosts : List HostObservation :=
  sortBy HostObservation.ip (addresses.map fun ip =>
    ⟨ip, sortBy PortObservation.sortKey (hostObservations tcp udp tcpPorts udpPorts ip)⟩)

variable {tcp udp addresses tcpPorts udpPorts}

theorem hostObservations_keys_nodup (hp : tcpPorts.Nodup) (hu : udpPorts.Nodup) (ip : IpAddr) :
    ((hostObservations tcp udp tcpPorts udpPorts ip).map PortObservation.sortKey).Nodup := by
  have htcp : ((tcpPorts.map fun port => tcp.connect ⟨ip, port⟩).map PortObservation.sortKey) =
      tcpPorts.map fun port => toLex (port, 0) := by
    rw [List.map_map]
    refine List.map_congr_left (fun port _ => ?_)
    simp [PortObservation.sortKey]
  have hudp : ((udpPorts.map fun port => udp.probeUdp ⟨ip, port⟩).map PortObservation.sortKey) =
      udpPorts.map fun port => toLex (port, 1) := by
    rw [List.map_map]
    refine List.map_congr_left (fun port _ => ?_)
    simp [PortObservation.sortKey]
  unfold hostObservations
  rw [List.map_append, htcp, hudp]
  refine List.Nodup.append (hp.map ?_) (hu.map ?_) ?_
  · intro port port' h
    simpa using h
  · intro port port' h
    simpa using h
  · intro key hkey hkey'
    obtain ⟨port, _, rfl⟩ := List.mem_map.mp hkey
    obtain ⟨port', _, h⟩ := List.mem_map.mp hkey'
    simp at h

theorem mergeHosts_scans {tcpConcurrency udpConcurrency : Nat} (ha : addresses.Nodup)
    (hp : tcpPorts.Nodup) (hu : udpPorts.Nodup) {tcpHosts udpHosts : List HostObservation}
    (htcp : ScanPorts tcpConcurrency tcp addresses tcpPorts tcpHosts)
    (hudp : ScanUdpPorts udpConcurrency udp addresses udpPorts udpHosts) :
    mergeHosts tcpHosts udpHosts = scannedHosts tcp udp addresses tcpPorts udpPorts := by
  obtain ⟨tcpGroup, rfl, htcpGroup⟩ := scans_groups tcp.connect_address ha htcp
  obtain ⟨udpGroup, rfl, hudpGroup⟩ := scans_groups udp.probeUdp_address ha hudp
  unfold mergeHosts scannedHosts
  rw [foldl_mergeHost ha udpGroup ha (fun _ h => h) tcpGroup]
  refine congrArg _ (List.map_congr_left (fun ip hip => ?_))
  have hperm : (hostObservations tcp udp tcpPorts udpPorts ip).Perm (tcpGroup ip ++ udpGroup ip) :=
    ((htcpGroup ip hip).append (hudpGroup ip hip)).symm
  rw [if_pos hip, sortBy_eq_of_perm hperm (hostObservations_keys_nodup hp hu ip)]

/-! ## What they contain -/

/-- Every endpoint is observed once, under its own host; hosts ascend by address, and the ports of
a host by number and transport. -/
structure ScanComplete (tcp udp : Outcomes) (addresses : List IpAddr) (tcpPorts udpPorts : List Nat)
    (hosts : List HostObservation) : Prop where
  hosts_ascending : hosts.Pairwise (fun host host' => host.ip < host'.ip)
  hosts_scanned : ∀ ip, ip ∈ hosts.map HostObservation.ip ↔ ip ∈ addresses
  ports_ascending : ∀ host ∈ hosts,
    host.ports.Pairwise (fun port port' => port.sortKey < port'.sortKey)
  own_host : ∀ host ∈ hosts, ∀ port ∈ host.ports, port.address.ip = host.ip
  once : ∀ address transport,
    (hosts.flatMap HostObservation.ports).countP
      (fun port => port.address = address ∧ port.transport = transport) =
      if address.ip ∈ addresses ∧ address.port ∈ (match transport with
        | .tcp => tcpPorts
        | .udp => udpPorts) then 1 else 0
  outcome : ∀ port ∈ hosts.flatMap HostObservation.ports, port = match port.transport with
    | .tcp => tcp.connect port.address
    | .udp => udp.probeUdp port.address

theorem mem_scannedHosts {host : HostObservation} :
    host ∈ scannedHosts tcp udp addresses tcpPorts udpPorts ↔ host.ip ∈ addresses ∧
      host.ports = sortBy PortObservation.sortKey
        (hostObservations tcp udp tcpPorts udpPorts host.ip) := by
  obtain ⟨ip, ports⟩ := host
  simp only [scannedHosts, mem_sortBy, List.mem_map, HostObservation.mk.injEq]
  constructor
  · rintro ⟨ip', hip, rfl, rfl⟩
    exact ⟨hip, rfl⟩
  · rintro ⟨hip, rfl⟩
    exact ⟨ip, hip, rfl, rfl⟩

theorem mem_hostObservations {ip : IpAddr} {port : PortObservation}
    (h : port ∈ hostObservations tcp udp tcpPorts udpPorts ip) :
    port.address.ip = ip ∧ port = match port.transport with
      | .tcp => tcp.connect port.address
      | .udp => udp.probeUdp port.address := by
  rcases List.mem_append.mp h with h | h
  · obtain ⟨number, _, rfl⟩ := List.mem_map.mp h
    simp
  · obtain ⟨number, _, rfl⟩ := List.mem_map.mp h
    simp

theorem scannedHosts_ports_perm :
    ((scannedHosts tcp udp addresses tcpPorts udpPorts).flatMap HostObservation.ports).Perm
      ((attempts addresses tcpPorts).map tcp.connect ++
        (attempts addresses udpPorts).map udp.probeUdp) := by
  have hsorted : ((scannedHosts tcp udp addresses tcpPorts udpPorts).flatMap
      HostObservation.ports).Perm (addresses.flatMap fun ip =>
        sortBy PortObservation.sortKey (hostObservations tcp udp tcpPorts udpPorts ip)) := by
    refine ((sortBy_perm _ _).flatMap_right _).trans (.of_eq ?_)
    rw [List.flatMap_map]
  have hlisted : (addresses.flatMap fun ip =>
      sortBy PortObservation.sortKey (hostObservations tcp udp tcpPorts udpPorts ip)).Perm
        (addresses.flatMap (hostObservations tcp udp tcpPorts udpPorts)) :=
    List.Perm.flatMap_left addresses (fun ip _ => sortBy_perm _ _)
  have hsplit : ((attempts addresses tcpPorts).map tcp.connect ++
      (attempts addresses udpPorts).map udp.probeUdp).Perm
        (addresses.flatMap (hostObservations tcp udp tcpPorts udpPorts)) := by
    unfold attempts
    rw [List.map_flatMap, List.map_flatMap]
    simp only [List.map_map]
    exact List.flatMap_append_perm addresses _ _
  exact (hsorted.trans hlisted).trans hsplit.symm

/-- Probes that keep address and transport observe each attempt of their transport once. -/
theorem countP_map_attempts {probe : SocketAddr → PortObservation} {transport : TransportProtocol}
    (haddress : ∀ address, (probe address).address = address)
    (htransport : ∀ address, (probe address).transport = transport) {ports : List Nat}
    (ha : addresses.Nodup) (hp : ports.Nodup) (address : SocketAddr)
    (wanted : TransportProtocol) :
    ((attempts addresses ports).map probe).countP
      (fun port => port.address = address ∧ port.transport = wanted) =
      if transport = wanted ∧ address.ip ∈ addresses ∧ address.port ∈ ports then 1 else 0 := by
  rw [List.countP_map]
  by_cases h : transport = wanted
  · have hcount : (attempts addresses ports).countP ((fun port : PortObservation =>
        decide (port.address = address ∧ port.transport = wanted)) ∘ probe) =
          (attempts addresses ports).count address := by
      refine List.countP_congr (fun attempt _ => ?_)
      simp [haddress, htransport, h]
    rw [hcount, (attempts_nodup ha hp).count]
    simp only [h, true_and, mem_attempts]
  · have hnone : (attempts addresses ports).countP ((fun port : PortObservation =>
        decide (port.address = address ∧ port.transport = wanted)) ∘ probe) = 0 := by
      refine List.countP_eq_zero.mpr (fun attempt _ => ?_)
      simp [htransport, h]
    rw [hnone, if_neg (fun hc => h hc.1)]

theorem scannedHosts_complete (ha : addresses.Nodup) (hp : tcpPorts.Nodup) (hu : udpPorts.Nodup) :
    ScanComplete tcp udp addresses tcpPorts udpPorts
      (scannedHosts tcp udp addresses tcpPorts udpPorts) where
  hosts_ascending := by
    have hsorted := sortBy_sorted HostObservation.ip (addresses.map fun ip =>
      (⟨ip, sortBy PortObservation.sortKey (hostObservations tcp udp tcpPorts udpPorts ip)⟩ :
        HostObservation))
    have hips : ((scannedHosts tcp udp addresses tcpPorts udpPorts).map HostObservation.ip).Perm
        addresses := by
      refine ((sortBy_perm _ _).map _).trans (.of_eq ?_)
      rw [List.map_map]
      exact List.map_id addresses
    have hdistinct := List.pairwise_map.mp (hips.nodup_iff.mpr ha)
    exact (hsorted.and hdistinct).imp (fun h => lt_of_le_of_ne h.1 h.2)
  hosts_scanned ip := by
    rw [List.mem_map]
    constructor
    · rintro ⟨host, hhost, rfl⟩
      exact (mem_scannedHosts.mp hhost).1
    · intro hip
      exact ⟨⟨ip, sortBy PortObservation.sortKey
        (hostObservations tcp udp tcpPorts udpPorts ip)⟩, mem_scannedHosts.mpr ⟨hip, rfl⟩, rfl⟩
  ports_ascending := by
    intro host hhost
    obtain ⟨_, hports⟩ := mem_scannedHosts.mp hhost
    have hsorted := sortBy_sorted PortObservation.sortKey
      (hostObservations tcp udp tcpPorts udpPorts host.ip)
    have hkeys := ((sortBy_perm PortObservation.sortKey (hostObservations tcp udp tcpPorts udpPorts
      host.ip)).map PortObservation.sortKey).nodup_iff.mpr (hostObservations_keys_nodup hp hu host.ip)
    rw [hports]
    exact (hsorted.and (List.pairwise_map.mp hkeys)).imp (fun h => lt_of_le_of_ne h.1 h.2)
  own_host := by
    intro host hhost port hport
    rw [(mem_scannedHosts.mp hhost).2, mem_sortBy] at hport
    exact (mem_hostObservations hport).1
  once address transport := by
    rw [scannedHosts_ports_perm.countP_eq, List.countP_append,
      countP_map_attempts tcp.connect_address tcp.connect_transport ha hp,
      countP_map_attempts udp.probeUdp_address udp.probeUdp_transport ha hu]
    cases transport with
    | tcp => simp
    | udp => simp
  outcome := by
    intro port hport
    obtain ⟨host, hhost, hport⟩ := List.mem_flatMap.mp hport
    rw [(mem_scannedHosts.mp hhost).2, mem_sortBy] at hport
    exact (mem_hostObservations hport).2

end Stage

/-- Whatever the order in which the probes of the two scans complete, the merged hosts list every
endpoint once, as probing in turn does; and no scan gets stuck before all its probes completed. -/
theorem portScan_order_independent (addresses : List IpAddr) (tcpPorts udpPorts : List Nat)
    (ha : addresses.Nodup) (hp : tcpPorts.Nodup) (hu : udpPorts.Nodup)
    (tcpConcurrency udpConcurrency : Nat) (tcp udp : Outcomes) :
    (∀ tcpHosts udpHosts, ScanPorts tcpConcurrency tcp addresses tcpPorts tcpHosts →
      ScanUdpPorts udpConcurrency udp addresses udpPorts udpHosts →
      ScanComplete tcp udp addresses tcpPorts udpPorts (mergeHosts tcpHosts udpHosts) ∧
      mergeHosts tcpHosts udpHosts =
        mergeHosts (scanInTurn tcp.connect addresses tcpPorts)
          (scanInTurn udp.probeUdp addresses udpPorts)) ∧
    (∀ state, ∃ observations,
      Buffer.Steps (max tcpConcurrency 1) tcp.connect state (.finished observations)) ∧
    ∀ state, ∃ observations,
      Buffer.Steps (max udpConcurrency 1) udp.probeUdp state (.finished observations) := by
  refine ⟨fun tcpHosts udpHosts htcp hudp => ?_, Buffer.can_finish (by omega),
    Buffer.can_finish (by omega)⟩
  have hscanned := mergeHosts_scans ha hp hu htcp hudp
  have htcpTurn : ScanPorts 1 tcp addresses tcpPorts _ := scans_inTurn
  have hudpTurn : ScanUdpPorts 1 udp addresses udpPorts _ := scans_inTurn
  have hturn := mergeHosts_scans ha hp hu htcpTurn hudpTurn
  rw [hscanned]
  exact ⟨scannedHosts_complete ha hp hu, hturn.symm⟩

/-- Two probes in flight, the second of which completes first. -/
theorem portScan_order_independent_crossing :
    ScanComplete (fun _ => .answered none) (fun _ => .cancelled) [.v4 (BitVec.ofNat 32 1)] [80, 22]
      [53] (mergeHosts
        (arrange [.v4 (BitVec.ofNat 32 1)]
          [connect (.answered none) ⟨.v4 (BitVec.ofNat 32 1), 22⟩,
            connect (.answered none) ⟨.v4 (BitVec.ofNat 32 1), 80⟩])
        (scanInTurn (Outcomes.probeUdp fun _ => .cancelled) [.v4 (BitVec.ofNat 32 1)] [53])) := by
  have hcrossing : ScanPorts 2 (fun _ => .answered none) [.v4 (BitVec.ofNat 32 1)] [80, 22]
      (arrange [.v4 (BitVec.ofNat 32 1)]
        [connect (.answered none) ⟨.v4 (BitVec.ofNat 32 1), 22⟩,
          connect (.answered none) ⟨.v4 (BitVec.ofNat 32 1), 80⟩]) := by
    refine ⟨_, ?_, rfl⟩
    refine .head (.launch _ _ _ _ (by decide)) (.head (.launch _ _ _ _ (by decide)) ?_)
    refine .head (.complete [] [_] _ [] []) (.head (.complete [] [] _ [] _) ?_)
    exact .refl
  exact ((portScan_order_independent [.v4 (BitVec.ofNat 32 1)] [80, 22] [53] (by decide) (by decide)
    (by decide) 2 1 (fun _ => .answered none) (fun _ => .cancelled)).1 _ _ hcrossing
      scans_inTurn).1

end Surface

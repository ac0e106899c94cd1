import Surface.Model.Observation
import Surface.Ordered
import Surface.Unordered

/-!
# Surface.Ssh.Analyze

The SSH endpoints among the services, inspected concurrently and joined back by their addresses.

`analyzeSsh_enriches`: whatever the order in which the inspections complete, every SSH service is
given the posture of its own address, and nothing else changes.
-/

namespace Surface

abbrev SshAnalysisState := CheckState

structure EndpointAnalysis where
  address : SocketAddr
  posture : SshPosture
  state : SshAnalysisState
deriving DecidableEq

/-- What the exchange with an endpoint comes to under the token, the caller's deadline and the
request timeout, in this order of precedence. -/
inductive SshExchange where
  | cancelled
  | deadline
  | timeout
  | failed (reason : String) (identification : Option SshIdentification)
  | inferred (posture : SshPosture)

def indeterminateWithDetails (address : SocketAddr) (reason : String) (state : SshAnalysisState)
    (identification : Option SshIdentification) : EndpointAnalysis :=
  ⟨address, ⟨identification, .indeterminate reason⟩, state⟩

def indeterminate (address : SocketAddr) (reason : String) (state : SshAnalysisState) :
    EndpointAnalysis :=
  indeterminateWithDetails address reason state none

def ServiceObservation.isTcpSsh (service : ServiceObservation) : Bool :=
  decide (service.transport = .tcp) && decide (service.service = .ssh)

def sshAddresses (services : List ServiceObservation) : OrdSet SocketAddr :=
  OrdSet.ofList ((services.filter ServiceObservation.isTcpSsh).map ServiceObservation.address)

/-- The state of all analyses together: a cancelled one counts before one that timed out. -/
def aggregateState (analyses : List EndpointAnalysis) : SshAnalysisState :=
  if analyses.any (fun analysis => decide (analysis.state = .cancelled)) = true then .cancelled
  else if analyses.any (fun analysis => decide (analysis.state = .timedOut)) = true then .timedOut
  else .completed

def ServiceObservation.enrich (analyses : List EndpointAnalysis) (service : ServiceObservation) :
    ServiceObservation :=
  if service.isTcpSsh = true then
    match analyses.find? fun analysis => decide (analysis.address = service.address) with
    | some analysis => { service with ssh := some analysis.posture }
    | none => service
  else service

section Source

variable (exchange : SocketAddr → SshExchange)

def inspect (address : SocketAddr) : EndpointAnalysis :=
  match exchange address with
  | .cancelled => indeterminate address "cancelled" .cancelled
  | .deadline => indeterminate address "caller deadline exceeded" .timedOut
  | .timeout => indeterminate address "request timeout" .completed
  | .failed reason identification =>
    indeterminateWithDetails address reason .completed identification
  | .inferred posture => ⟨address, posture, .completed⟩

/-- A run of the analysis: the inspections, in the order they completed, and what comes of them. -/
inductive AnalyzesSsh (concurrency : Nat) (services : List ServiceObservation) :
    List EndpointAnalysis → List ServiceObservation → SshAnalysisState → Prop where
  | nothing (h : (sshAddresses services).isEmpty = true) :
      AnalyzesSsh concurrency services [] services .completed
  | inspected {analyses : List EndpointAnalysis} (h : (sshAddresses services).isEmpty = false)
      (hcollects : Buffer.Collects (max 1 (min concurrency 16)) (inspect exchange)
        (sshAddresses services).toList analyses) :
      AnalyzesSsh concurrency services analyses
        (services.map (ServiceObservation.enrich (sortBy EndpointAnalysis.address analyses)))
        (aggregateState (sortBy EndpointAnalysis.address analyses))

end Source

/-! ## Addresses -/

variable {exchange : SocketAddr → SshExchange} {services : List ServiceObservation}
  {concurrency : Nat}

theorem inspect_address (address : SocketAddr) : (inspect exchange address).address = address := by
  unfold inspect
  cases exchange address <;> rfl

theorem mem_sshAddresses {address : SocketAddr} : address ∈ sshAddresses services ↔
    ∃ service ∈ services, service.isTcpSsh = true ∧ service.address = address := by
  rw [sshAddresses, OrdSet.mem_ofList, List.mem_map]
  simp only [List.mem_filter, and_assoc]

/-- What a service is after the analysis of its address. -/
def ServiceObservation.enriched (exchange : SocketAddr → SshExchange)
    (service : ServiceObservation) : ServiceObservation :=
  if service.isTcpSsh = true then
    { service with ssh := some (inspect exchange service.address).posture }
  else service

/-- The analyses are those of some addresses, the one of the service among them. -/
theorem enrich_eq_enriched {analyses : List EndpointAnalysis} {service : ServiceObservation}
    (h : ∀ analysis ∈ analyses, analysis = inspect exchange analysis.address)
    (hmem : service.isTcpSsh = true → inspect exchange service.address ∈ analyses) :
    service.enrich analyses = service.enriched exchange := by
  unfold ServiceObservation.enrich ServiceObservation.enriched
  by_cases hssh : service.isTcpSsh = true
  · rw [if_pos hssh, if_pos hssh]
    cases hfind : analyses.find? fun analysis => decide (analysis.address = service.address) with
    | none =>
      have haddress : (inspect exchange service.address).address = service.address :=
        inspect_address service.address
      exact absurd (decide_eq_true haddress) (List.find?_eq_none.mp hfind _ (hmem hssh))
    | some analysis =>
      have haddress : analysis.address = service.address := by
        simpa using List.find?_some hfind
      have hanalysis := h analysis (List.mem_of_find?_eq_some hfind)
      rw [haddress] at hanalysis
      rw [hanalysis]
  · rw [if_neg hssh, if_neg hssh]

/-! ## The state of all analyses -/

theorem inspect_state (address : SocketAddr) :
    ((inspect exchange address).state = .cancelled ↔ exchange address = .cancelled) ∧
      ((inspect exchange address).state = .timedOut ↔ exchange address = .deadline) := by
  unfold inspect
  cases exchange address <;> simp [indeterminate, indeterminateWithDetails]

theorem aggregateState_cases (analyses : List EndpointAnalysis) :
    ((∃ analysis ∈ analyses, analysis.state = .cancelled) ∧
      aggregateState analyses = .cancelled) ∨
    ((¬∃ analysis ∈ analyses, analysis.state = .cancelled) ∧
      (∃ analysis ∈ analyses, analysis.state = .timedOut) ∧
      aggregateState analyses = .timedOut) ∨
    ((¬∃ analysis ∈ analyses, analysis.state = .cancelled) ∧
      (¬∃ analysis ∈ analyses, analysis.state = .timedOut) ∧
      aggregateState analyses = .completed) := by
  unfold aggregateState
  simp only [List.any_eq_true, decide_eq_true_eq]
  by_cases hcancelled : ∃ analysis ∈ analyses, analysis.state = .cancelled
  · rw [if_pos hcancelled]
    exact .inl ⟨hcancelled, rfl⟩
  · rw [if_neg hcancelled]
    by_cases htimedOut : ∃ analysis ∈ analyses, analysis.state = .timedOut
    · rw [if_pos htimedOut]
      exact .inr (.inl ⟨hcancelled, htimedOut, rfl⟩)
    · rw [if_neg htimedOut]
      exact .inr (.inr ⟨hcancelled, htimedOut, rfl⟩)

/-! ## Any run -/

/-- What a run leaves: `analyses` are the inspections it made. -/
structure SshEnriched (exchange : SocketAddr → SshExchange) (services : List ServiceObservation)
    (analyses : List EndpointAnalysis) (result : List ServiceObservation)
    (state : SshAnalysisState) : Prop where
  once : (analyses.map EndpointAnalysis.address).Nodup
  inspected : ∀ address, address ∈ analyses.map EndpointAnalysis.address ↔
    ∃ service ∈ services, service.isTcpSsh = true ∧ service.address = address
  enriched : result = services.map (ServiceObservation.enriched exchange)
  cancelled : state = .cancelled ↔
    ∃ service ∈ services, service.isTcpSsh = true ∧ exchange service.address = .cancelled
  timedOut : state = .timedOut ↔
    (¬∃ service ∈ services, service.isTcpSsh = true ∧ exchange service.address = .cancelled) ∧
      ∃ service ∈ services, service.isTcpSsh = true ∧ exchange service.address = .deadline

/-- Some inspection is in a state exactly when that of an SSH service is. -/
theorem exists_analysis_iff {analyses : List EndpointAnalysis}
    (hmem : ∀ analysis, analysis ∈ analyses ↔
      ∃ address ∈ sshAddresses services, inspect exchange address = analysis)
    (test : EndpointAnalysis → Prop) :
    (∃ analysis ∈ analyses, test analysis) ↔
      ∃ service ∈ services, service.isTcpSsh = true ∧ test (inspect exchange service.address) := by
  constructor
  · rintro ⟨analysis, hanalysis, htest⟩
    obtain ⟨address, haddress, rfl⟩ := (hmem analysis).mp hanalysis
    obtain ⟨service, hservice, hssh, rfl⟩ := mem_sshAddresses.mp haddress
    exact ⟨service, hservice, hssh, htest⟩
  · rintro ⟨service, hservice, hssh, htest⟩
    exact ⟨_, (hmem _).mpr ⟨service.address, mem_sshAddresses.mpr ⟨service, hservice, hssh, rfl⟩,
      rfl⟩, htest⟩

theorem aggregateState_iff {analyses : List EndpointAnalysis}
    (hmem : ∀ analysis, analysis ∈ analyses ↔
      ∃ address ∈ sshAddresses services, inspect exchange address = analysis) :
    (aggregateState analyses = .cancelled ↔
      ∃ service ∈ services, service.isTcpSsh = true ∧ exchange service.address = .cancelled) ∧
    (aggregateState analyses = .timedOut ↔
      (¬∃ service ∈ services, service.isTcpSsh = true ∧ exchange service.address = .cancelled) ∧
        ∃ service ∈ services, service.isTcpSsh = true ∧ exchange service.address = .deadline) := by
  have hcancelled := exists_analysis_iff hmem fun analysis => analysis.state = .cancelled
  have htimedOut := exists_analysis_iff hmem fun analysis => analysis.state = .timedOut
  simp only [(inspect_state _).1] at hcancelled
  simp only [(inspect_state _).2] at htimedOut
  rw [← hcancelled, ← htimedOut]
  rcases aggregateState_cases analyses with ⟨h, hstate⟩ | ⟨h, h', hstate⟩ | ⟨h, h', hstate⟩
  · simp [hstate, h]
  · simp [hstate, h, h']
  · simp [hstate, h, h']

/-- The inspections of all addresses, in any order. -/
theorem mem_analyses_iff {analyses : List EndpointAnalysis}
    (h : analyses.Perm ((sshAddresses services).toList.map (inspect exchange)))
    (analysis : EndpointAnalysis) : analysis ∈ analyses ↔
      ∃ address ∈ sshAddresses services, inspect exchange address = analysis := by
  rw [h.mem_iff, List.mem_map]
  rfl

theorem sshEnriched_of_perm {analyses : List EndpointAnalysis}
    (h : analyses.Perm ((sshAddresses services).toList.map (inspect exchange))) :
    SshEnriched exchange services analyses
      (services.map (ServiceObservation.enrich (sortBy EndpointAnalysis.address analyses)))
      (aggregateState (sortBy EndpointAnalysis.address analyses)) := by
  have hsorted : ∀ analysis, analysis ∈ sortBy EndpointAnalysis.address analyses ↔
      ∃ address ∈ sshAddresses services, inspect exchange address = analysis := fun analysis =>
    mem_sortBy.trans (mem_analyses_iff h analysis)
  have haddresses : (analyses.map EndpointAnalysis.address).Perm (sshAddresses services).toList := by
    have hmap := h.map EndpointAnalysis.address
    have hsame : EndpointAnalysis.address ∘ inspect exchange = id := funext inspect_address
    rwa [List.map_map, hsame, List.map_id] at hmap
  obtain ⟨hcancelled, htimedOut⟩ := aggregateState_iff hsorted
  refine ⟨haddresses.nodup_iff.mpr (OrdSet.nodup _), fun address => ?_, ?_, hcancelled, htimedOut⟩
  · rw [haddresses.mem_iff]
    exact mem_sshAddresses
  · refine List.map_congr_left fun service hservice => enrich_eq_enriched (fun analysis hanalysis => ?_)
      fun hssh => (hsorted _).mpr
        ⟨service.address, mem_sshAddresses.mpr ⟨service, hservice, hssh, rfl⟩, rfl⟩
    obtain ⟨address, -, rfl⟩ := (hsorted analysis).mp hanalysis
    rw [inspect_address]

theorem analyzeSsh_enriches {analyses : List EndpointAnalysis} {result : List ServiceObservation}
    {state : SshAnalysisState}
    (h : AnalyzesSsh exchange concurrency services analyses result state) :
    SshEnriched exchange services analyses result state := by
  cases h with
  | nothing hempty =>
    have hnone : (sshAddresses services).toList = [] := List.isEmpty_iff.mp hempty
    have henriched : SshEnriched exchange services []
        (services.map (ServiceObservation.enrich [])) .completed :=
      sshEnriched_of_perm (by rw [hnone]; exact .nil)
    have hsame : services.map (ServiceObservation.enrich []) = services := by
      refine (List.map_congr_left fun service _ => ?_).trans (List.map_id' services)
      unfold ServiceObservation.enrich
      split <;> rfl
    rwa [hsame] at henriched
  | inspected hsome hcollects => exact sshEnriched_of_perm hcollects.perm

/-- An SSH service at one of two endpoints. -/
def sshServiceAt (last : Nat) : ServiceObservation :=
  ⟨.tcp, ⟨.ofOctets 192 0 2 last, 22⟩, .ssh, .medium, none, .empty, none⟩

def sshPostureAt : SshPosture where
  identification := some ⟨"2.0", "OpenSSH_9.9"⟩
  outcome := .complete ⟨"curve25519-sha256", "ssh-ed25519", "aes128-ctr", "aes128-ctr",
    "hmac-sha2-256", "hmac-sha2-256"⟩

/-- The first endpoint negotiates, the second one closes the connection. -/
def sshExchangeAt (address : SocketAddr) : SshExchange :=
  if address = (sshServiceAt 1).address then .inferred sshPostureAt
  else .failed "connection closed" (some ⟨"2.0", "dropbear"⟩)

/-- The second endpoint completes before the first one, which two services share. -/
theorem analyzeSsh_enriches_shared : ∃ analyses result state,
    AnalyzesSsh sshExchangeAt 4 [sshServiceAt 1, sshServiceAt 2, sshServiceAt 1]
      analyses result state ∧
    analyses.map EndpointAnalysis.address =
      [(sshServiceAt 2).address, (sshServiceAt 1).address] ∧
    result.map ServiceObservation.ssh =
      [some sshPostureAt, some ⟨some ⟨"2.0", "dropbear"⟩, .indeterminate "connection closed"⟩,
        some sshPostureAt] ∧
    SshEnriched sshExchangeAt [sshServiceAt 1, sshServiceAt 2, sshServiceAt 1]
      analyses result state := by
  have haddresses : (sshAddresses [sshServiceAt 1, sshServiceAt 2, sshServiceAt 1]).toList =
      [(sshServiceAt 1).address, (sshServiceAt 2).address] := by decide
  have hsome : (sshAddresses [sshServiceAt 1, sshServiceAt 2, sshServiceAt 1]).isEmpty = false := by
    decide
  have hcollects : Buffer.Collects (max 1 (min 4 16)) (inspect sshExchangeAt)
      (sshAddresses [sshServiceAt 1, sshServiceAt 2, sshServiceAt 1]).toList
      ([(sshServiceAt 2).address, (sshServiceAt 1).address].map (inspect sshExchangeAt)) := by
    rw [haddresses]
    exact Buffer.collects_of_perm (by decide) (.swap _ _ _)
  exact ⟨_, _, _, .inspected hsome hcollects, by decide, by decide,
    analyzeSsh_enriches (.inspected hsome hcollects)⟩

end Surface

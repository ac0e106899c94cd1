import Surface.Gather
import Surface.Tls.Certificates

/-!
# Surface.Tls.Analyze

The endpoints with implicit TLS among the services, each inspected by one validating handshake.

* `isImplicitTlsCandidate`: the services a handshake is attempted with.
* `TlsExchange`: how the handshake with an endpoint ends.
* `AnalyzesTls`: the runs of the analysis, over every order of completion.
* `inspect_tls_consistent`: trust is reported of a completed handshake and of no other.
-/

namespace Surface

def isImplicitTlsCandidate (service : ServiceObservation) : Bool :=
  decide (service.transport = .tcp) &&
    match service.service with
    | .https | .smtps | .imaps | .pop3s | .tls => true
    | .oracle => decide (service.address.port = 2484)
    | .mqtt => decide (service.address.port = 8883)
    | .docker => decide (service.address.port = 2376)
    | .rabbitmq => decide (service.address.port ∈ [5671, 15671])
    | .kubernetes => decide (service.address.port = 6443)
    | _ => false

def tlsAddresses (services : List ServiceObservation) : OrdSet SocketAddr :=
  OrdSet.ofList ((services.filter isImplicitTlsCandidate).map ServiceObservation.address)

/-! ## One handshake -/

/-- How the handshake with an endpoint ends under the token and the timeout, with the chain that
was presented to the verifier if it came to that. -/
inductive TlsExchange where
  | unconfigured
  | cancelled
  | refused (error : String)
  | invalidName (error : String)
  | rejected (error : String) (presented : Option PeerChain)
  | timedOut (presented : Option PeerChain)
  | completed (connection : TlsConnection)

/-- What the recording verifier holds at the end of a handshake. -/
def takeCapture : Option PeerChain → CertificateCapture
  | some chain => recordCertificates chain.endEntity chain.intermediates
  | none => ⟨[], 0, false⟩

structure TlsNetwork where
  /-- The verifier of the platform roots can be built. -/
  verifier : Bool
  exchange : SocketAddr → TlsExchange

section Analyze

variable (fromDer : List UInt8 → Except String X509Certificate) (sha256 : List UInt8 → List UInt8)

def TlsNetwork.inspect (network : TlsNetwork) (serverName : String) (address : SocketAddr) :
    Option TlsObservation :=
  let failure := fun error presented =>
    some (failedWithCapture fromDer sha256 address serverName error (takeCapture presented))
  match network.exchange address with
  | .unconfigured => some (failed address serverName "TLS verifier configuration failed")
  | .cancelled => none
  | .refused error => failure (sanitize error) none
  | .invalidName error => failure ("invalid TLS server name: " ++ error) none
  | .rejected error presented => failure (sanitize error) presented
  | .timedOut presented => failure "TLS handshake timed out" presented
  | .completed connection => some (connected fromDer sha256 address serverName connection)

variable (network : TlsNetwork) (serverName : String)

/-- A run of the analysis: the handshakes complete in any order. -/
def AnalyzesTls (concurrency : Nat) (services : List ServiceObservation)
    (observations : List TlsObservation) : Prop :=
  if network.verifier then
    CollectsBy TlsObservation.address (max 1 (min concurrency 16))
      (network.inspect fromDer sha256 serverName) (tlsAddresses services).toList observations
  else observations = []

/-- One handshake after the other. -/
def analyzeTlsInTurn (services : List ServiceObservation) : List TlsObservation :=
  if network.verifier then
    collectBy TlsObservation.address (network.inspect fromDer sha256 serverName)
      (tlsAddresses services).toList
  else []

variable {fromDer sha256 network serverName}

/-! ### What a handshake says -/

/-- What every observation of an endpoint says under a server name: trust and names are those of a
handshake that succeeded, and one that failed has a reason. -/
structure TlsObservation.Consistent (observation : TlsObservation) (address : SocketAddr)
    (serverName : String) : Prop where
  address : observation.address = address
  serverName : observation.serverName = serverName
  succeeded : observation.handshakeSucceeded = true →
    observation.certificateTrusted = some true ∧ observation.hostnameMatches = some true
  failed : observation.handshakeSucceeded = false →
    observation.certificateTrusted = none ∧ observation.hostnameMatches = none ∧
      observation.protocolVersion = none ∧ observation.errors ≠ []

variable {address : SocketAddr} {observation : TlsObservation}

theorem TlsObservation.Consistent.report (h : observation.Consistent address serverName)
    (edit : CertificateFields → CertificateFields) (messages : List String) :
    (observation.report edit messages).Consistent address serverName where
  address := h.address
  serverName := h.serverName
  succeeded := h.succeeded
  failed hfailed := by
    obtain ⟨htrusted, hmatches, hversion, herrors⟩ := h.failed hfailed
    exact ⟨htrusted, hmatches, hversion, List.append_ne_nil_of_left_ne_nil herrors _⟩

theorem consistent_inspectCertificates (h : observation.Consistent address serverName)
    (certificates : List CertificateDer) (chainLength : Nat) (derTruncated : Bool) :
    (inspectCertificates fromDer sha256 certificates chainLength derTruncated
      observation).Consistent address serverName := by
  obtain ⟨edit, messages, hreport⟩ :=
    reports_inspectCertificates fromDer sha256 certificates chainLength derTruncated
  rw [hreport]
  exact h.report edit messages

theorem consistent_failed (address : SocketAddr) (serverName error : String) :
    (failed address serverName error).Consistent address serverName where
  address := rfl
  serverName := rfl
  succeeded h := Bool.noConfusion h
  failed _ := ⟨rfl, rfl, rfl, List.cons_ne_nil _ _⟩

theorem consistent_failedWithCapture (address : SocketAddr) (serverName error : String)
    (capture : CertificateCapture) :
    (failedWithCapture fromDer sha256 address serverName error capture).Consistent address
      serverName := by
  have hfailed := consistent_failed address serverName error
  unfold failedWithCapture
  split
  · exact consistent_inspectCertificates hfailed _ _ _
  · exact hfailed

theorem consistent_connected (address : SocketAddr) (serverName : String)
    (connection : TlsConnection) :
    (connected fromDer sha256 address serverName connection).Consistent address serverName := by
  have hend : ∀ errors, TlsObservation.Consistent
      { failed address serverName "" with
        handshakeSucceeded := true
        certificateTrusted := some true
        hostnameMatches := some true
        protocolVersion := connection.protocolVersion
        cipherSuite := connection.cipherSuite
        alpn := connection.alpn
        errors := errors } address serverName := fun errors =>
    ⟨rfl, rfl, fun _ => ⟨rfl, rfl⟩, fun h => Bool.noConfusion h⟩
  unfold connected
  split
  · exact consistent_inspectCertificates (hend []) _ _ _
  · exact hend _

/-- Trust is reported of a completed handshake and of no other. -/
theorem inspect_tls_consistent
    (h : network.inspect fromDer sha256 serverName address = some observation) :
    observation.Consistent address serverName := by
  unfold TlsNetwork.inspect at h
  cases hexchange : network.exchange address with
  | unconfigured =>
    rw [hexchange] at h
    rw [← Option.some.inj h]
    exact consistent_failed ..
  | cancelled =>
    rw [hexchange] at h
    cases h
  | completed connection =>
    rw [hexchange] at h
    rw [← Option.some.inj h]
    exact consistent_connected ..
  | refused | invalidName | rejected | timedOut =>
    rw [hexchange] at h
    rw [← Option.some.inj h]
    exact consistent_failedWithCapture ..

/-! ### Any run -/

variable {services : List ServiceObservation} {observations : List TlsObservation}
  {concurrency : Nat}

theorem mem_tlsAddresses : address ∈ tlsAddresses services ↔
    ∃ service ∈ services, isImplicitTlsCandidate service = true ∧ service.address = address := by
  rw [tlsAddresses, OrdSet.mem_ofList, List.mem_map]
  simp only [List.mem_filter, and_assoc]

theorem analyzesTls_eq
    (h : AnalyzesTls fromDer sha256 network serverName concurrency services observations) :
    observations = analyzeTlsInTurn fromDer sha256 network serverName services := by
  unfold AnalyzesTls at h
  unfold analyzeTlsInTurn
  split at h
  · rename_i hverifier
    rw [if_pos hverifier]
    refine h.eq id (fun _ _ hsome => (inspect_tls_consistent hsome).address) ?_
    rw [List.map_id]
    exact OrdSet.nodup _
  · rename_i hverifier
    rw [if_neg hverifier]
    exact h

theorem analyzesTls_inTurn (concurrency : Nat) (services : List ServiceObservation) :
    AnalyzesTls fromDer sha256 network serverName concurrency services
      (analyzeTlsInTurn fromDer sha256 network serverName services) := by
  unfold AnalyzesTls analyzeTlsInTurn
  split
  · exact collectsBy_collectBy (by omega) _
  · rfl

end Analyze

end Surface

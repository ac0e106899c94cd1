import Surface.Hex
import Surface.Model.Observation

/-!
# Surface.Tls.Certificates

The inspection of the certificates a TLS peer presents, in a handshake that succeeds and in one
that fails.

* `X509Certificate`: what the parser finds in a certificate.
* `recordCertificates`: the bounded copy that outlives a failed handshake.
* `inspectCertificates`: what an observation says of a chain.
* `inspected_capture`: the copy says the same as the chain.
-/

namespace Surface

def maxCertificates : Nat := 16
def maxCertificateDerBytes : Nat := 1024 * 1024
def maxSubjectAltNames : Nat := 128

/-- The encoding of a certificate, as long as a slice can be. -/
structure CertificateDer where
  bytes : List UInt8
  length_lt : bytes.length < 2 ^ 63

/-- The certificates of a peer, the one of the server first. -/
structure PeerChain where
  endEntity : CertificateDer
  intermediates : List CertificateDer
  length_lt : intermediates.length + 1 < 2 ^ 63

def PeerChain.certificates (chain : PeerChain) : List CertificateDer :=
  chain.endEntity :: chain.intermediates

/-! ## What the parser finds -/

inductive GeneralName where
  | dnsName (name : String)
  | ipAddress (bytes : List UInt8)
  | other

inductive PublicKey where
  | rsa (modulus : List UInt8)
  | ec
  | other

/-- The arcs of an object identifier. -/
abbrev Oid := List Nat

structure X509Certificate where
  /-- `none` for an extension that cannot be parsed, `some none` for a certificate without it. -/
  subjectAlternativeName : Option (Option (List GeneralName))
  subject : String
  issuer : String
  serialNumber : String
  notBefore : Int
  notAfter : Int
  publicKeyAlgorithm : String
  publicKey : Option PublicKey
  namedCurve : Option Oid
  signatureAlgorithm : String

def oidEcP256 : Oid := [1, 2, 840, 10045, 3, 1, 7]
def oidNistEcP384 : Oid := [1, 3, 132, 0, 34]
def oidNistEcP521 : Oid := [1, 3, 132, 0, 35]

def sanitize (value : String) : String :=
  String.ofList ((value.toList.filter fun c => !isControl c).take 512)

def normalizedName (name : GeneralName) : Option String :=
  match name with
  | .dnsName name =>
    some (String.ofList ((name.toList.reverse.dropWhile (· == '.')).reverse.map Char.toLower))
  | .ipAddress bytes =>
    match bytes with
    | [a, b, c, d] => some (IpAddr.ofOctets a.toNat b.toNat c.toNat d.toNat).display
    | bytes =>
      if bytes.length = 16 then
        some (IpAddr.v6 (BitVec.ofNat 128 (bytes.foldl (fun n byte => n * 256 + byte.toNat) 0))).display
      else none
  | .other => none

/-- The names that are left, and whether there were more of them than fit. -/
def addAltNames : List GeneralName → List String → List String × Bool
  | [], names => (names, false)
  | name :: rest, names =>
    match (normalizedName name).filter (· ≠ "") with
    | none => addAltNames rest names
    | some normalized =>
      if normalized ∈ names then addAltNames rest names
      else if names.length = maxSubjectAltNames then (names, true)
      else addAltNames rest (names ++ [normalized])

def normalizedSubjectAltNames (certificate : X509Certificate) : Option (List String × Bool) :=
  certificate.subjectAlternativeName.map fun extension =>
    match extension with
    | none => ([], false)
    | some names => addAltNames names []

def rsaModulusBits (modulus : List UInt8) : Option Nat :=
  let unsigned :=
    match modulus with
    | 0 :: next :: rest => if 128 ≤ next then some (next :: rest) else none
    | [] => none
    | first :: rest => if first = 0 ∨ 128 ≤ first then none else some (first :: rest)
  unsigned.bind fun bytes =>
    match bytes with
    | [] => none
    | first :: rest =>
      let bits := rest.length * 8 + (Nat.log2 first.toNat + 1)
      if bits < 2 ^ 64 then some bits else none

def parsedPublicKeyBits (key : PublicKey) (namedCurve : Option Oid) : Option Nat :=
  match key with
  | .rsa modulus => rsaModulusBits modulus
  | .ec => namedCurve.bind fun oid =>
    if oid = oidEcP256 then some 256
    else if oid = oidNistEcP384 then some 384
    else if oid = oidNistEcP521 then some 521
    else none
  | .other => none

/-! ## The bounded copy -/

structure CertificateCapture where
  certificates : List CertificateDer
  chainLength : Nat
  derTruncated : Bool

/-- The certificates that fit behind the bytes already taken, and whether one did not. -/
def recordLoop : Nat → List CertificateDer → List CertificateDer × Bool
  | _, [] => ([], false)
  | cumulativeDerBytes, certificate :: rest =>
    let nextBytes := cumulativeDerBytes + certificate.bytes.length
    -- an overflow of the sum stops the loop as the limit does
    if nextBytes ≥ 2 ^ 64 then ([], true)
    else if nextBytes > maxCertificateDerBytes then ([], true)
    else
      let (kept, truncated) := recordLoop nextBytes rest
      (certificate :: kept, truncated)

def recordCertificates (endEntity : CertificateDer) (intermediates : List CertificateDer) :
    CertificateCapture :=
  let (certificates, derTruncated) :=
    recordLoop 0 ((endEntity :: intermediates).take maxCertificates)
  ⟨certificates, min (intermediates.length + 1) (2 ^ 64 - 1), derTruncated⟩

/-! ## The inspection -/

/-- The number of certificates inspected, and whether a limit or the caller left some out. -/
def inspectLoop : Nat → List CertificateDer → Bool → Nat × Bool
  | _, [], derTruncated => (0, derTruncated)
  | cumulativeDerBytes, certificate :: rest, derTruncated =>
    let nextBytes := cumulativeDerBytes + certificate.bytes.length
    if nextBytes ≥ 2 ^ 64 then (0, true)
    else if nextBytes > maxCertificateDerBytes then (0, true)
    else
      let (inspected, truncated) := inspectLoop nextBytes rest derTruncated
      (inspected + 1, truncated)

section Inspect

variable (fromDer : List UInt8 → Except String X509Certificate) (sha256 : List UInt8 → List UInt8)

def pushTlsError (message : String) (observation : TlsObservation) : TlsObservation :=
  { observation with errors := observation.errors ++ [message] }

def setAltNames (certificate : X509Certificate) (observation : TlsObservation) : TlsObservation :=
  match normalizedSubjectAltNames certificate with
  | some (names, truncated) =>
    { observation with subjectAltNames := names, subjectAltNamesTruncated := truncated }
  | none => pushTlsError "subject alternative name extension could not be parsed" observation

def setCertificate (leaf : CertificateDer) (certificate : X509Certificate)
    (observation : TlsObservation) : TlsObservation :=
  { observation with
    leafCertificateSha256 := some (hex (sha256 leaf.bytes))
    subject := some certificate.subject
    issuer := some certificate.issuer
    serialNumber := some certificate.serialNumber
    validFromUnix := some certificate.notBefore
    validUntilUnix := some certificate.notAfter
    publicKeyAlgorithm := some certificate.publicKeyAlgorithm
    publicKeyBits := certificate.publicKey.bind fun key =>
      parsedPublicKeyBits key certificate.namedCurve
    signatureAlgorithm := some certificate.signatureAlgorithm }

/-- What the first certificate of a chain says. -/
def inspectLeaf (leaf : CertificateDer) (observation : TlsObservation) : TlsObservation :=
  match fromDer leaf.bytes with
  | .error error =>
    pushTlsError (sanitize ("could not parse leaf certificate: " ++ error)) observation
  | .ok certificate => setCertificate sha256 leaf certificate (setAltNames certificate observation)

def setChainLength (chainLength : Nat) (observation : TlsObservation) : TlsObservation :=
  { observation with certificateChainLength := some chainLength }

def inspectCertificates (certificates : List CertificateDer) (chainLength : Nat)
    (derTruncated : Bool) (observation : TlsObservation) : TlsObservation :=
  let observation := setChainLength chainLength observation
  let observation :=
    if chainLength > maxCertificates then
      pushTlsError s!"certificate inspection limited to the first {maxCertificates} of {chainLength} peer certificates"
        observation
    else observation
  let (inspected, derTruncated) :=
    inspectLoop 0 (certificates.take maxCertificates) derTruncated
  let observation :=
    if derTruncated then
      pushTlsError s!"certificate DER inspection limited to {maxCertificateDerBytes} cumulative bytes"
        observation
    else observation
  if inspected = 0 then observation
  else
    match certificates.head? with
    | none => observation
    | some leaf => inspectLeaf fromDer sha256 leaf observation

/-! ## The two handshakes -/

def failed (address : SocketAddr) (serverName error : String) : TlsObservation where
  address := address
  serverName := serverName
  handshakeSucceeded := false
  certificateTrusted := none
  hostnameMatches := none
  protocolVersion := none
  cipherSuite := none
  alpn := none
  certificateChainLength := none
  leafCertificateSha256 := none
  subject := none
  issuer := none
  serialNumber := none
  validFromUnix := none
  validUntilUnix := none
  subjectAltNames := []
  subjectAltNamesTruncated := false
  publicKeyAlgorithm := none
  publicKeyBits := none
  signatureAlgorithm := none
  errors := [sanitize error]

def failedWithCapture (address : SocketAddr) (serverName error : String)
    (capture : CertificateCapture) : TlsObservation :=
  let observation := failed address serverName error
  if capture.chainLength ≠ 0 then
    inspectCertificates fromDer sha256 capture.certificates capture.chainLength
      capture.derTruncated observation
  else observation

/-- What a completed handshake negotiated. -/
structure TlsConnection where
  protocolVersion : Option String
  cipherSuite : Option String
  alpn : Option String
  peerCertificates : Option (List CertificateDer)

/-- The end of `inspect_inner`, behind the handshake. -/
def connected (address : SocketAddr) (serverName : String) (connection : TlsConnection) :
    TlsObservation :=
  let observation : TlsObservation :=
    { failed address serverName "" with
      handshakeSucceeded := true
      certificateTrusted := some true
      hostnameMatches := some true
      protocolVersion := connection.protocolVersion
      cipherSuite := connection.cipherSuite
      alpn := connection.alpn
      errors := [] }
  match connection.peerCertificates with
  | some certificates =>
    inspectCertificates fromDer sha256 certificates certificates.length false observation
  | none => pushTlsError "TLS peer supplied no certificate" observation

end Inspect

/-! ## The copy agrees with the chain -/

/-- The inspection of a whole list gives what the recorder kept of it, and so does the inspection
of what was kept. -/
theorem inspectLoop_recordLoop (certificates : List CertificateDer) :
    ∀ (cumulativeDerBytes : Nat),
      inspectLoop cumulativeDerBytes certificates false =
          ((recordLoop cumulativeDerBytes certificates).1.length,
            (recordLoop cumulativeDerBytes certificates).2) ∧
        ∀ derTruncated,
          inspectLoop cumulativeDerBytes (recordLoop cumulativeDerBytes certificates).1
              derTruncated =
            ((recordLoop cumulativeDerBytes certificates).1.length, derTruncated) := by
  induction certificates with
  | nil => exact fun _ => ⟨rfl, fun _ => rfl⟩
  | cons certificate rest ih =>
    intro cumulativeDerBytes
    obtain ⟨hfull, hkept⟩ := ih (cumulativeDerBytes + certificate.bytes.length)
    by_cases hoverflow : cumulativeDerBytes + certificate.bytes.length ≥ 2 ^ 64
    · simp only [recordLoop, inspectLoop, if_pos hoverflow]
      exact ⟨rfl, fun _ => rfl⟩
    · by_cases hlimit : cumulativeDerBytes + certificate.bytes.length > maxCertificateDerBytes
      · simp only [recordLoop, inspectLoop, if_neg hoverflow, if_pos hlimit]
        exact ⟨rfl, fun _ => rfl⟩
      · simp only [recordLoop, inspectLoop, if_neg hoverflow, if_neg hlimit, hfull, hkept,
          List.length_cons, implies_true, and_self]

theorem recordLoop_prefix (certificates : List CertificateDer) :
    ∀ (cumulativeDerBytes : Nat), (recordLoop cumulativeDerBytes certificates).1 <+: certificates := by
  induction certificates with
  | nil => exact fun _ => List.prefix_rfl
  | cons certificate rest ih =>
    intro cumulativeDerBytes
    simp only [recordLoop]
    split
    · exact List.nil_prefix
    · split
      · exact List.nil_prefix
      · exact List.cons_prefix_cons.mpr ⟨rfl, ih _⟩

/-! ## What an inspection changes -/

structure CertificateFields where
  certificateChainLength : Option Nat
  leafCertificateSha256 : Option String
  subject : Option String
  issuer : Option String
  serialNumber : Option String
  validFromUnix : Option Int
  validUntilUnix : Option Int
  subjectAltNames : List String
  subjectAltNamesTruncated : Bool
  publicKeyAlgorithm : Option String
  publicKeyBits : Option Nat
  signatureAlgorithm : Option String

namespace TlsObservation

def certificateFields (observation : TlsObservation) : CertificateFields where
  certificateChainLength := observation.certificateChainLength
  leafCertificateSha256 := observation.leafCertificateSha256
  subject := observation.subject
  issuer := observation.issuer
  serialNumber := observation.serialNumber
  validFromUnix := observation.validFromUnix
  validUntilUnix := observation.validUntilUnix
  subjectAltNames := observation.subjectAltNames
  subjectAltNamesTruncated := observation.subjectAltNamesTruncated
  publicKeyAlgorithm := observation.publicKeyAlgorithm
  publicKeyBits := observation.publicKeyBits
  signatureAlgorithm := observation.signatureAlgorithm

/-- The observation with other certificate fields, and with messages added to its errors. -/
def report (observation : TlsObservation) (edit : CertificateFields → CertificateFields)
    (messages : List String) : TlsObservation :=
  let fields := edit observation.certificateFields
  { observation with
    certificateChainLength := fields.certificateChainLength
    leafCertificateSha256 := fields.leafCertificateSha256
    subject := fields.subject
    issuer := fields.issuer
    serialNumber := fields.serialNumber
    validFromUnix := fields.validFromUnix
    validUntilUnix := fields.validUntilUnix
    subjectAltNames := fields.subjectAltNames
    subjectAltNamesTruncated := fields.subjectAltNamesTruncated
    publicKeyAlgorithm := fields.publicKeyAlgorithm
    publicKeyBits := fields.publicKeyBits
    signatureAlgorithm := fields.signatureAlgorithm
    errors := observation.errors ++ messages }

@[simp] theorem certificateFields_report (observation : TlsObservation)
    (edit : CertificateFields → CertificateFields) (messages : List String) :
    (observation.report edit messages).certificateFields = edit observation.certificateFields := rfl

@[simp] theorem errors_report (observation : TlsObservation)
    (edit : CertificateFields → CertificateFields) (messages : List String) :
    (observation.report edit messages).errors = observation.errors ++ messages := rfl

theorem report_report (observation : TlsObservation)
    (edit edit' : CertificateFields → CertificateFields) (messages messages' : List String) :
    (observation.report edit messages).report edit' messages' =
      observation.report (edit' ∘ edit) (messages ++ messages') := by
  simp only [report, certificateFields, Function.comp_apply, List.append_assoc]

end TlsObservation

/-- A step that edits the certificate fields and adds messages, the same for all observations. -/
def Reports (step : TlsObservation → TlsObservation) : Prop :=
  ∃ edit messages, ∀ observation : TlsObservation, step observation = observation.report edit messages

theorem reports_id : Reports fun observation => observation :=
  ⟨id, [], fun observation => by simp [TlsObservation.report, TlsObservation.certificateFields]⟩

theorem Reports.comp {first second : TlsObservation → TlsObservation} (hfirst : Reports first)
    (hsecond : Reports second) : Reports fun observation => second (first observation) := by
  obtain ⟨edit, messages, hfirst⟩ := hfirst
  obtain ⟨edit', messages', hsecond⟩ := hsecond
  refine ⟨edit' ∘ edit, messages ++ messages', fun observation => ?_⟩
  simp only [hfirst, hsecond, TlsObservation.report_report]

theorem reports_pushTlsError (message : String) : Reports (pushTlsError message) :=
  ⟨id, [message], fun _ => rfl⟩

/-- An optional message. -/
theorem reports_ite {b : Prop} [Decidable b] {step : TlsObservation → TlsObservation}
    (h : Reports step) :
    Reports fun observation => if b then step observation else observation := by
  by_cases hb : b
  · simp only [if_pos hb]
    exact h
  · simp only [if_neg hb]
    exact reports_id

theorem reports_setChainLength (chainLength : Nat) : Reports (setChainLength chainLength) :=
  ⟨fun fields => { fields with certificateChainLength := some chainLength }, [], fun observation =>
    by simp [setChainLength, TlsObservation.report, TlsObservation.certificateFields]⟩

theorem reports_setAltNames (certificate : X509Certificate) : Reports (setAltNames certificate) := by
  unfold setAltNames
  cases normalizedSubjectAltNames certificate with
  | none => exact reports_pushTlsError _
  | some found =>
    exact ⟨fun fields => { fields with
      subjectAltNames := found.1
      subjectAltNamesTruncated := found.2 }, [], fun observation => by
        simp [TlsObservation.report, TlsObservation.certificateFields]⟩

section Inspect

variable (fromDer : List UInt8 → Except String X509Certificate) (sha256 : List UInt8 → List UInt8)

theorem reports_setCertificate (leaf : CertificateDer) (certificate : X509Certificate) :
    Reports (setCertificate sha256 leaf certificate) :=
  ⟨fun fields => { fields with
    leafCertificateSha256 := some (hex (sha256 leaf.bytes))
    subject := some certificate.subject
    issuer := some certificate.issuer
    serialNumber := some certificate.serialNumber
    validFromUnix := some certificate.notBefore
    validUntilUnix := some certificate.notAfter
    publicKeyAlgorithm := some certificate.publicKeyAlgorithm
    publicKeyBits := certificate.publicKey.bind fun key =>
      parsedPublicKeyBits key certificate.namedCurve
    signatureAlgorithm := some certificate.signatureAlgorithm }, [], fun observation => by
      simp [setCertificate, TlsObservation.report, TlsObservation.certificateFields]⟩

theorem reports_inspectLeaf (leaf : CertificateDer) : Reports (inspectLeaf fromDer sha256 leaf) := by
  unfold inspectLeaf
  cases fromDer leaf.bytes with
  | error error => exact reports_pushTlsError _
  | ok certificate => exact (reports_setAltNames certificate).comp (reports_setCertificate ..)

theorem reports_inspectCertificates (certificates : List CertificateDer) (chainLength : Nat)
    (derTruncated : Bool) :
    Reports (inspectCertificates fromDer sha256 certificates chainLength derTruncated) := by
  have hmessages := ((reports_setChainLength chainLength).comp
    (reports_ite (b := chainLength > maxCertificates) (reports_pushTlsError
      s!"certificate inspection limited to the first {maxCertificates} of {chainLength} peer certificates"))).comp
    (reports_ite (b := (inspectLoop 0 (certificates.take maxCertificates) derTruncated).2 = true)
      (reports_pushTlsError
        s!"certificate DER inspection limited to {maxCertificateDerBytes} cumulative bytes"))
  unfold inspectCertificates
  by_cases hnone : (inspectLoop 0 (certificates.take maxCertificates) derTruncated).1 = 0
  · simp only [if_pos hnone]
    exact hmessages
  · simp only [if_neg hnone]
    cases certificates.head? with
    | none => exact hmessages
    | some leaf => exact hmessages.comp (reports_inspectLeaf fromDer sha256 leaf)

/-- The inspection of the copy is the inspection of the chain. -/
theorem inspectCertificates_capture (chain : PeerChain) (observation : TlsObservation) :
    let capture := recordCertificates chain.endEntity chain.intermediates
    inspectCertificates fromDer sha256 capture.certificates capture.chainLength
        capture.derTruncated observation =
      inspectCertificates fromDer sha256 chain.certificates chain.certificates.length false
        observation := by
  obtain ⟨hfull, hkept⟩ := inspectLoop_recordLoop (chain.certificates.take maxCertificates) 0
  have hrecorded := recordLoop_prefix (chain.certificates.take maxCertificates) 0
  have hlength : min (chain.intermediates.length + 1) (2 ^ 64 - 1) = chain.certificates.length :=
    Nat.min_eq_left (by have := chain.length_lt; omega)
  intro capture
  have hcertificates : capture.certificates =
      (recordLoop 0 (chain.certificates.take maxCertificates)).1 := rfl
  have htruncated : capture.derTruncated =
      (recordLoop 0 (chain.certificates.take maxCertificates)).2 := rfl
  have hchainLength : capture.chainLength = chain.certificates.length := hlength
  rw [hcertificates, htruncated, hchainLength]
  generalize recordLoop 0 (chain.certificates.take maxCertificates) = recorded at *
  obtain ⟨kept, truncated⟩ := recorded
  have htake : kept.take maxCertificates = kept :=
    List.take_of_length_le (hrecorded.length_le.trans (List.length_take_le ..))
  unfold inspectCertificates
  simp only [htake, hkept, hfull]
  cases kept with
  | nil => rfl
  | cons leaf rest =>
    -- the first certificate that was kept is the first of the chain
    have hhead : chain.certificates.head? = some leaf := by
      obtain ⟨tail, htail⟩ := hrecorded.trans (List.take_prefix ..)
      rw [← htail]
      rfl
    rw [hhead]
    rfl

/-- The inspection of the bounded copy and of the whole chain make the same edit of the
certificate fields and add the same messages, whatever else is in the observation; so a handshake
that failed reports of the certificates what one that succeeded does. -/
theorem inspected_capture (chain : PeerChain) :
    let capture := recordCertificates chain.endEntity chain.intermediates
    (∃ edit messages, ∀ observation : TlsObservation,
      inspectCertificates fromDer sha256 capture.certificates capture.chainLength
          capture.derTruncated observation = observation.report edit messages ∧
        inspectCertificates fromDer sha256 chain.certificates chain.certificates.length false
          observation = observation.report edit messages) ∧
      ∀ (address : SocketAddr) (serverName error : String) (connection : TlsConnection),
        let failure := failedWithCapture fromDer sha256 address serverName error capture
        let success := connected fromDer sha256 address serverName
          { connection with peerCertificates := some chain.certificates }
        failure.certificateFields = success.certificateFields ∧
          failure.errors = sanitize error :: success.errors := by
  intro capture
  obtain ⟨edit, messages, hreport⟩ := reports_inspectCertificates fromDer sha256
    chain.certificates chain.certificates.length false
  have hcapture : ∀ observation : TlsObservation,
      inspectCertificates fromDer sha256 capture.certificates capture.chainLength
        capture.derTruncated observation = observation.report edit messages := fun observation =>
    (inspectCertificates_capture fromDer sha256 chain observation).trans (hreport observation)
  refine ⟨⟨edit, messages, fun observation => ⟨hcapture observation, hreport observation⟩⟩, ?_⟩
  intro address serverName error connection
  have hne : capture.chainLength ≠ 0 := by
    show min (chain.intermediates.length + 1) (2 ^ 64 - 1) ≠ 0
    omega
  simp only [failedWithCapture, connected, if_pos hne, hcapture, hreport]
  exact ⟨rfl, rfl⟩

end Inspect

end Surface

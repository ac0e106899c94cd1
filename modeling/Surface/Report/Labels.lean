import Surface.Findings
import Surface.NetText
import Surface.Report.Projection
import Surface.Template

/-!
# Surface.Report.Labels

The labels of the renderers. Numbers, addresses and enumerations are shown as they are: their texts
are inert.
-/

namespace Surface

/-! ## Labels -/

def ScanStatus.debug : ScanStatus → String
  | notStarted => "NotStarted"
  | completed => "Completed"
  | partialScan => "Partial"
  | interrupted => "Interrupted"
  | failed => "Failed"

def ScanStage.debug : ScanStage → String
  | preflight => "Preflight"
  | dns => "Dns"
  | ports => "Ports"
  | services => "Services"
  | http => "Http"
  | tls => "Tls"
  | findings => "Findings"

def ScanErrorKind.debug : ScanErrorKind → String
  | configuration => "Configuration"
  | dns => "Dns"
  | timeout => "Timeout"
  | network => "Network"
  | http => "Http"
  | tls => "Tls"
  | cancelled => "Cancelled"
  | authorization => "Authorization"
  | other => "Other"

def AddressSource.debug : AddressSource → String
  | explicit => "Explicit"
  | aRecord => "ARecord"
  | aaaaRecord => "AaaaRecord"

def Severity.debug : Severity → String
  | info => "Info"
  | low => "Low"
  | medium => "Medium"
  | high => "High"
  | critical => "Critical"

def FindingCategory.debug : FindingCategory → String
  | network => "Network"
  | http => "Http"
  | tls => "Tls"
  | mail => "Mail"

def ScoreClassification.debug : ScoreClassification → String
  | favorable => "Favorable"
  | review => "Review"
  | elevated => "Elevated"
  | critical => "Critical"

def optionBool : Option Bool → String
  | some true => "present"
  | some false => "not found"
  | none => "unknown"

def hstsLabel : HstsState → String
  | .present => "present"
  | .missing => "missing"
  | .notApplicable => "not applicable"

def optionYesNo : Option Bool → String
  | some true => "yes"
  | some false => "no"
  | none => "unknown"

def sshDisplayChars : Nat := 255

def boundedSshValue (value : Option String) : String :=
  String.ofList ((value.getD "unknown").toList.take sshDisplayChars)

/-! ## Labels are inert -/

@[simp] theorem ScanStatus.debug_inert (status : ScanStatus) : Inert status.debug := by
  cases status <;> exact inert_literal rfl (by decide)

@[simp] theorem ScanStage.debug_inert (stage : ScanStage) : Inert stage.debug := by
  cases stage <;> exact inert_literal rfl (by decide)

@[simp] theorem ScanErrorKind.debug_inert (kind : ScanErrorKind) : Inert kind.debug := by
  cases kind <;> exact inert_literal rfl (by decide)

@[simp] theorem AddressSource.debug_inert (source : AddressSource) : Inert source.debug := by
  cases source <;> exact inert_literal rfl (by decide)

@[simp] theorem Severity.debug_inert (severity : Severity) : Inert severity.debug := by
  cases severity <;> exact inert_literal rfl (by decide)

@[simp] theorem FindingCategory.debug_inert (category : FindingCategory) :
    Inert category.debug := by
  cases category <;> exact inert_literal rfl (by decide)

@[simp] theorem FindingConfidence.debug_inert (confidence : FindingConfidence) :
    Inert confidence.debug := by
  cases confidence <;> exact inert_literal rfl (by decide)

@[simp] theorem ScoreClassification.debug_inert (classification : ScoreClassification) :
    Inert classification.debug := by
  cases classification <;> exact inert_literal rfl (by decide)

@[simp] theorem DetectionConfidence.debug_inert (confidence : DetectionConfidence) :
    Inert confidence.debug := by
  cases confidence <;> exact inert_literal rfl (by decide)

@[simp] theorem ServiceKind.display_inert (service : ServiceKind) : Inert service.display := by
  cases service <;> exact inert_literal rfl (by decide)

@[simp] theorem TransportProtocol.name_inert (transport : TransportProtocol) :
    Inert transport.name := by
  cases transport <;> exact inert_literal rfl (by decide)

@[simp] theorem DanglingCnameStatus.name_inert (status : DanglingCnameStatus) :
    Inert status.name := by
  cases status <;> exact inert_literal rfl (by decide)

@[simp] theorem AxfrOutcome.name_inert (outcome : AxfrOutcome) : Inert outcome.name := by
  cases outcome <;> exact inert_literal rfl (by decide)

@[simp] theorem WildcardDnsStatus.name_inert (status : WildcardDnsStatus) : Inert status.name := by
  cases status <;> exact inert_literal rfl (by decide)

@[simp] theorem DnssecStatus.name_inert (status : DnssecStatus) : Inert status.name := by
  cases status <;> exact inert_literal rfl (by decide)

@[simp] theorem DnssecRecordType.asStr_inert (recordType : DnssecRecordType) :
    Inert recordType.asStr := by
  cases recordType <;> exact inert_literal rfl (by decide)

@[simp] theorem optionBool_inert (value : Option Bool) : Inert (optionBool value) := by
  rcases value with _ | _ | _ <;> exact inert_literal rfl (by decide)

@[simp] theorem optionYesNo_inert (value : Option Bool) : Inert (optionYesNo value) := by
  rcases value with _ | _ | _ <;> exact inert_literal rfl (by decide)

@[simp] theorem hstsLabel_inert (state : HstsState) : Inert (hstsLabel state) := by
  cases state <;> exact inert_literal rfl (by decide)

/-! ## Numbers and addresses are inert -/

@[simp] theorem inert_nat (n : Nat) : Inert n.repr :=
  inert_of_chars hexDigits (by decide) (toString_nat_chars n)

@[simp] theorem inert_int (n : Int) : Inert n.repr := by
  have hminus : Inert "-" := inert_literal rfl (by decide)
  cases n with
  | ofNat n => exact inert_nat n
  | negSucc n => exact hminus.append (inert_nat (n + 1))

@[simp] theorem inert_bool (b : Bool) : Inert (toString b) := by
  cases b <;> exact inert_literal rfl (by decide)

@[simp] theorem IpAddr.display_inert (ip : IpAddr) : Inert ip.display := by
  refine inert_of_chars (['.', ':'] ++ hexDigits) (by decide) fun c hc => ?_
  simpa [or_assoc] using ip.display_chars c hc

@[simp] theorem SocketAddr.display_inert (address : SocketAddr) : Inert address.display := by
  refine inert_of_chars (['[', ']', '.', ':'] ++ hexDigits) (by decide) fun c hc => ?_
  simpa [or_assoc] using address.display_chars c hc

/-! ## Projections are inert -/

theorem ports_inert {report : ScanReport} {host : HostObservation} {port : PortProjection}
    (h : port ∈ ports report host) :
    Inert port.transport ∧ Inert port.state ∧ Inert port.service := by
  obtain ⟨observed, _, hport⟩ := List.mem_filterMap.mp h
  simp only at hport
  split at hport
  · cases hport
  · cases hport
    refine ⟨observed.transport.name_inert, ?_, ?_⟩
    · exact inert_ite (inert_literal rfl (by decide)) (inert_literal rfl (by decide))
    · exact inert_getD (fun service => service.service.display_inert)
        (inert_literal rfl (by decide)) _

theorem ssh_status_inert {service : ServiceObservation} {posture : SshProjection}
    (h : ssh service = some posture) : Inert posture.status := by
  obtain ⟨observed, _, rfl⟩ := Option.map_eq_some_iff.mp h
  obtain ⟨identification, outcome⟩ := observed
  cases outcome <;> exact inert_literal rfl (by decide)

end Surface

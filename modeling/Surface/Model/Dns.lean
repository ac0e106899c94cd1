import Surface.Model.Basic

/-!
# Surface.Model.Dns

The DNS section of a report: records, the CNAME chain and its destinations, mail policy, DNSSEC,
zone transfer and wildcard observations.
-/

namespace Surface

inductive DnsRecord where
  | a (address : BitVec 32)
  | aaaa (address : BitVec 128)
  | cname (name : String)
  | ns (name : String)
  | mx (preference : Nat) (exchange : String)
  | txt (value : String)
  | caa (flags : Nat) (tag : String) (value : String)
deriving DecidableEq

inductive AddressSource where
  | explicit
  | aRecord
  | aaaaRecord
deriving DecidableEq

/-- One canonical-name edge. -/
structure CnameHop where
  source : String
  destination : String
deriving DecidableEq

inductive DanglingCnameStatus where
  | resolved
  | nxDomain
  | noAddress
  | indeterminate
deriving DecidableEq

structure DanglingCnameObservation where
  sourceAlias : String := ""
  canonicalTarget : String := ""
  status : DanglingCnameStatus := .indeterminate
  evidence : List String := []
  errors : List String := []
  limitations : List String := []
deriving DecidableEq

/-- A discovered address together with the name that owns the record. -/
structure ResolvedHost where
  hostname : Option String
  ip : IpAddr
  source : AddressSource
deriving DecidableEq

structure SpfObservation where
  records : List String
  terminalPolicy : Option String
deriving DecidableEq

structure DmarcObservation where
  record : String
  policy : Option String
  subdomainPolicy : Option String
  percentage : Option Nat
  aggregateReports : List String
  adkim : Option String
  aspf : Option String
deriving DecidableEq

structure MailObservation where
  mxPresent : Bool
  spf : SpfObservation
  dmarc : List DmarcObservation
  mtaSts : List String
  mtaStsPolicyAvailable : Option Bool
  tlsRpt : List String
deriving DecidableEq

inductive DnssecStatus where
  | secure
  | insecure
  | bogus
  | indeterminate
  | notApplicable
deriving DecidableEq

inductive DnssecRecordType where
  | a
  | aaaa
deriving DecidableEq

def DnssecRecordType.asStr : DnssecRecordType → String
  | a => "A"
  | aaaa => "AAAA"

structure DnssecRrsetObservation where
  name : String
  recordType : DnssecRecordType
  status : DnssecStatus
deriving DecidableEq

structure DnssecObservation where
  status : DnssecStatus := .indeterminate
  checkedRrsets : List DnssecRrsetObservation := []
  errors : List String := []
  limitations : List String := []
deriving DecidableEq

inductive WildcardDnsStatus where
  | detected
  | notDetected
  | indeterminate
  | notApplicable
deriving DecidableEq

inductive WildcardDnsRecordType where
  | a
  | aaaa
  | cname
deriving DecidableEq

structure WildcardDnsObservation where
  status : WildcardDnsStatus := .indeterminate
  probesAttempted : Nat := 0
  answerTypes : List WildcardDnsRecordType := []
  answerFingerprints : List String := []
  errors : List String := []
  limitations : List String := []
  probeAnswersScanned : Bool := false
deriving DecidableEq

inductive AxfrOutcome where
  | allowed
  | refused
  | notAuthoritative
  | incomplete
  | unreachable
  | timeout
  | cancelled
  | limitExceeded
deriving DecidableEq

def maxAxfrNameservers : Nat := 4
def maxAxfrIpsPerNameserver : Nat := 2
def maxAxfrEndpoints : Nat := 8
def maxAxfrBytes : Nat := 2 * 1024 * 1024
def maxAxfrRecords : Nat := 4096
def maxAxfrMessages : Nat := 64

structure AxfrLimits where
  nameservers : Nat := maxAxfrNameservers
  ipsPerNameserver : Nat := maxAxfrIpsPerNameserver
  endpoints : Nat := maxAxfrEndpoints
  bytes : Nat := maxAxfrBytes
  records : Nat := maxAxfrRecords
  messages : Nat := maxAxfrMessages
deriving DecidableEq

structure AxfrAttempt where
  server : String
  endpoint : SocketAddr
  outcome : AxfrOutcome
  responseCode : Option String
  messages : Nat
  records : Nat
  bytes : Nat
  error : Option String
deriving DecidableEq

structure AuthoritativeAxfrObservation where
  zone : String := ""
  nameservers : List String := []
  attempts : List AxfrAttempt := []
  limits : AxfrLimits := {}
  transferredRecordsRetained : Bool := false
  transferredOwnerNamesRetained : Bool := false
  transferredOwnerNamesScanned : Bool := false
deriving DecidableEq

structure DnsObservation where
  queriedName : String
  records : List DnsRecord
  cnameChain : List CnameHop
  danglingCnames : List DanglingCnameObservation
  resolvedHosts : List ResolvedHost
  mail : MailObservation
  dnssec : Option DnssecObservation
  authoritativeAxfr : Option AuthoritativeAxfrObservation
  wildcardDns : Option WildcardDnsObservation
  errors : List ScanError
deriving DecidableEq

/-! ## Results of the DNS checks -/

abbrev WildcardDnsCheckState := CheckState
abbrev DanglingCnameCheckState := CheckState

inductive AxfrCheckState where
  | completed
  | skipped (reason : String)
  | timedOut
  | cancelled
deriving DecidableEq

structure AxfrCheck where
  observation : Option AuthoritativeAxfrObservation
  state : AxfrCheckState
deriving DecidableEq

structure WildcardDnsCheck where
  observation : WildcardDnsObservation
  state : WildcardDnsCheckState
deriving DecidableEq

structure DanglingCnameCheck where
  observations : List DanglingCnameObservation
  state : DanglingCnameCheckState
deriving DecidableEq

structure AuthoritativeEvidence where
  zone : String
  nameservers : List String
deriving DecidableEq

structure DnsBaseline where
  observation : DnsObservation
  authority : Option AuthoritativeEvidence
deriving DecidableEq

end Surface

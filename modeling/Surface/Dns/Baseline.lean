import Mathlib.Order.WithBot
import Mathlib.Data.List.Destutter
import Surface.Dns.Mail
import Surface.Net

/-!
# Surface.Dns.Baseline

The baseline DNS collection for a scan: one lookup for each record type, mail and authority
lookups, and the bounded observation made of their answers.

* `Collected`: what the lookups of the record types gather; `lookup` adds one answer section.
* `orderedCnameChain`: the alias chain from the queried name.
* `analyzeDnsBaselineForScan`: the whole collection.
-/

namespace Surface

/-! ## Orders of the collected sets -/

namespace AddressSource

def rank : AddressSource → Nat
  | explicit => 0
  | aRecord => 1
  | aaaaRecord => 2

theorem rank_injective : Function.Injective rank := by
  intro s t h
  cases s <;> cases t <;> simp [rank] at h ⊢

instance : LinearOrder AddressSource := LinearOrder.lift' rank rank_injective

end AddressSource

namespace ResolvedHost

/-- Hosts are ordered by name, address and source; a host without a name comes first. -/
def rank (host : ResolvedHost) : WithBot String ×ₗ IpAddr ×ₗ AddressSource :=
  toLex (host.hostname, toLex (host.ip, host.source))

theorem rank_injective : Function.Injective rank := by
  rintro ⟨hostname, ip, source⟩ ⟨hostname', ip', source'⟩ h
  obtain ⟨hname, hrest⟩ := Prod.mk.inj (toLex.injective h)
  obtain ⟨hip, hsource⟩ := Prod.mk.inj (toLex.injective hrest)
  obtain rfl : hostname = hostname' := hname
  obtain rfl : ip = ip' := hip
  obtain rfl : source = source' := hsource
  rfl

instance : LinearOrder ResolvedHost := LinearOrder.lift' rank rank_injective

end ResolvedHost

namespace CnameHop

def rank (hop : CnameHop) : String ×ₗ String := toLex (hop.source, hop.destination)

theorem rank_injective : Function.Injective rank := by
  rintro ⟨source, destination⟩ ⟨source', destination'⟩ h
  simpa [rank] using h

instance : LinearOrder CnameHop := LinearOrder.lift' rank rank_injective

end CnameHop

/-! ## Answers -/

section Answers

variable (platform : Platform)

def txtValue (parts : List (List UInt8)) : String := capped (platform.utf8Lossy parts.flatten)

def convertRecord : RData → Option DnsRecord
  | .a address => some (.a address)
  | .aaaa address => some (.aaaa address)
  | .cname name => some (.cname (trimName platform name))
  | .ns name => some (.ns (trimName platform name))
  | .mx preference exchange => some (.mx preference (trimName platform exchange))
  | .txt data => some (.txt (txtValue platform data))
  | .caa issuerCritical reservedFlags tag value =>
    some (.caa (reservedFlags ||| (if issuerCritical then 0x80#8 else 0#8)).toNat tag
      (capped (platform.utf8Lossy value)))
  | .soa | .nsec | .nsec3 | .other => none

/-- The scan address an answer record carries. -/
def Record.resolvedHost? (record : Record) : Option ResolvedHost :=
  match record.data with
  | .a address => some ⟨some (trimName platform record.name), .v4 address, .aRecord⟩
  | .aaaa address => some ⟨some (trimName platform record.name), .v6 address, .aaaaRecord⟩
  | _ => none

def Record.cnameHop? (record : Record) : Option CnameHop :=
  match record.data with
  | .cname name => some ⟨trimName platform record.name, trimName platform name⟩
  | _ => none

structure Collected where
  records : List DnsRecord := []
  resolvedHosts : OrdSet ResolvedHost := .empty
  cnameChain : OrdSet CnameHop := .empty
  errors : List ScanError := []

def Collected.answer (collected : Collected) (record : Record) : Collected where
  records := collected.records ++ (convertRecord platform record.data).toList
  resolvedHosts :=
    (record.resolvedHost? platform).toList.foldl OrdSet.insert collected.resolvedHosts
  cnameChain := (record.cnameHop? platform).toList.foldl OrdSet.insert collected.cnameChain
  errors := collected.errors

/-- What a lookup under a timeout ends with; `none` is the timeout. -/
abbrev LookupResult := Option (Except NetError (List Record))

def lookup (name : String) (recordType : RecordType) (result : LookupResult)
    (collected : Collected) : Collected :=
  let failed := fun (kind : ScanErrorKind) (message : String) =>
    { collected with errors := collected.errors ++ [⟨.dns, some name, kind, message, true⟩] }
  match result with
  | some (.ok records) => records.foldl (Collected.answer platform) collected
  | some (.error error) =>
    if platform.isNoRecordsFound error || platform.isNxDomain error then collected
    else failed .dns (recordType.display ++ " lookup failed: " ++ platform.displayError error)
  | none => failed .timeout (recordType.display ++ " lookup timed out")

/-- The text values of a lookup for a name with a special role. -/
def lookupTxtValues (result : LookupResult) : List String :=
  match result with
  | some (.ok records) =>
    let values := records.filterMap fun record =>
      match record.data with
      | .txt data => some (txtValue platform data)
      | _ => none
    (sortBy id values).take maxSpecialTxtRecords
  | _ => []

end Answers

/-! ## The alias chain -/

def maxCnameChainHops : Nat := 16

/-- At most `hops` further edges from `current`; an edge is used once, a name is left once. -/
def followCnames : Nat → List CnameHop → List String → String → List CnameHop
  | 0, _, _, _ => []
  | hops + 1, edges, visited, current =>
    if current ∈ visited then []
    else
      match edges.find? fun hop => hop.source.toLower = current.toLower with
      | none => []
      | some hop =>
        hop :: followCnames hops (edges.filter (· ≠ hop)) (current :: visited) hop.destination

def orderedCnameChain (hostname : String) (edges : OrdSet CnameHop) : List CnameHop :=
  followCnames maxCnameChainHops edges.toList [] hostname

/-! ## The collection -/

/-- What the collection meets: the system resolver, the lookups of the record types, those of the
mail names, the authority found for the zone and the fetched MTA-STS policy. -/
structure BaselineMeeting where
  initialized : Except String Unit
  built : Except String Unit
  lookup : RecordType → LookupResult
  dmarc : LookupResult
  mtaSts : LookupResult
  tlsRpt : LookupResult
  authority : Option AuthoritativeEvidence
  mtaStsPolicy : Option Bool

def baselineQueryTypes (ipv4Only ipv6Only : Bool) : List RecordType :=
  [RecordType.a, .aaaa, .cname, .ns, .mx, .txt, .caa].filter fun recordType =>
    !((ipv4Only && decide (recordType = .aaaa)) || (ipv6Only && decide (recordType = .a)))

def explicitIpObservation (target : NormalizedTarget) (ip : IpAddr) : DnsObservation where
  queriedName := target.hostname.getD ip.display
  records := []
  cnameChain := []
  danglingCnames := []
  resolvedHosts := [⟨none, ip, .explicit⟩]
  mail := interpretMail [] [] [] []
  dnssec := some
    { status := .notApplicable
      limitations := ["DNSSEC validation applies only to hostname targets."] }
  authoritativeAxfr := none
  wildcardDns := some
    { status := .notApplicable
      limitations := ["Wildcard DNS detection applies only to hostname targets.",
        "Random probe answers were not scanned or used as downstream targets."] }
  errors := []

def recordsTruncated (hostname : String) : ScanError :=
  ⟨.dns, some hostname, .other, "DNS records truncated at " ++ toString maxDnsRecords, true⟩

section Collection

variable (platform : Platform) (meeting : BaselineMeeting)

/-- The lookups of the record types, one after the other. -/
def collectBaseline (hostname : String) (queryTypes : List RecordType) : Collected :=
  queryTypes.foldl
    (fun collected recordType =>
      lookup platform hostname recordType (meeting.lookup recordType) collected) {}

def analyzeDnsBaselineForScan (target : NormalizedTarget)
    (ipv4Only ipv6Only fetchMtaStsPolicy : Bool) : Except String DnsBaseline :=
  match target.explicitIp with
  | some ip => .ok ⟨explicitIpObservation target ip, none⟩
  | none =>
    match target.hostname with
    | none => .error "target has no hostname"
    | some hostname =>
      match meeting.initialized, meeting.built with
      | .error error, _ => .error ("could not initialize system DNS resolver: " ++ error)
      | .ok _, .error error => .error ("could not build system DNS resolver: " ++ error)
      | .ok _, .ok _ =>
        let collected := collectBaseline platform meeting hostname
          (baselineQueryTypes ipv4Only ipv6Only)
        let errors :=
          if maxDnsRecords < collected.records.length then
            collected.errors ++ [recordsTruncated hostname]
          else collected.errors
        let records :=
          (sortBy platform.debugRecord (collected.records.take maxDnsRecords)).destutter (· ≠ ·)
        let mail := interpretMail records (lookupTxtValues platform meeting.dmarc)
          (lookupTxtValues platform meeting.mtaSts) (lookupTxtValues platform meeting.tlsRpt)
        let mail :=
          if fetchMtaStsPolicy && !mail.mtaSts.isEmpty then
            { mail with mtaStsPolicyAvailable := meeting.mtaStsPolicy }
          else mail
        .ok
          { observation :=
              { queriedName := hostname
                records := records
                cnameChain := orderedCnameChain hostname collected.cnameChain
                danglingCnames := []
                resolvedHosts := collected.resolvedHosts.toList.take maxResolvedHosts
                mail := mail
                dnssec := none
                authoritativeAxfr := none
                wildcardDns := none
                errors := errors }
            authority := meeting.authority }

end Collection

end Surface

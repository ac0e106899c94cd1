import Surface.Dns.Message
import Surface.Ordered
import Surface.Text

/-!
# Surface.Dns.Mail

The passive reading of mail records: SPF, DMARC, MTA-STS and TLS-RPT.
-/

namespace Surface

def maxDmarcDestinations : Nat := 16
def maxDmarcDestinationChars : Nat := 256

def isAsciiSpace (c : Char) : Bool := c.toNat ∈ [0x20, 0x09, 0x0a, 0x0c, 0x0d]

def lowerChars (cs : List Char) : List Char := cs.map Char.toLower

def startsWithLower (start : String) (value : String) : Bool :=
  start.toList.isPrefixOf (lowerChars value.toList)

/-- An unsigned byte in decimal, with an optional plus sign. -/
def parseU8 (cs : List Char) : Option Nat :=
  let digits := match cs with
    | '+' :: rest => rest
    | cs => cs
  if digits = [] ∨ digits.any (fun c => !c.isDigit) then none
  else
    let value := digits.foldl (fun n c => n * 10 + (c.toNat - '0'.toNat)) 0
    if value ≤ 255 then some value else none

def terminalTerms : List String := ["-all", "~all", "?all", "+all", "all"]

def spfTerminalPolicy (record : String) : Option String :=
  let terms := (record.toList.splitOnP isAsciiSpace).filter (· ≠ [])
  (terms.reverse.map String.ofList).find? (· ∈ terminalTerms)

def dmarcPart (result : DmarcObservation) (part : List Char) : DmarcObservation :=
  match splitOnce '=' (trimSpaces part) with
  | none => result
  | some (name, value) =>
    match String.ofList (lowerChars name) with
    | "p" => { result with policy := some (String.ofList (lowerChars value)) }
    | "sp" => { result with subdomainPolicy := some (String.ofList (lowerChars value)) }
    | "pct" => { result with percentage := (parseU8 value).filter (· ≤ 100) }
    | "rua" =>
      { result with
        aggregateReports := (((value.splitOn ',').map trimSpaces).take maxDmarcDestinations).map
          fun destination => String.ofList (destination.take maxDmarcDestinationChars) }
    | "adkim" => { result with adkim := some (String.ofList (lowerChars value)) }
    | "aspf" => { result with aspf := some (String.ofList (lowerChars value)) }
    | _ => result

def parseDmarc (record : String) : DmarcObservation :=
  (record.toList.splitOn ';').foldl dmarcPart
    { record := record, policy := none, subdomainPolicy := none, percentage := none,
      aggregateReports := [], adkim := none, aspf := none }

def spfRecord? : DnsRecord → Option String
  | .txt value => if startsWithLower "v=spf1 " value then some value else none
  | _ => none

def DnsRecord.isMx : DnsRecord → Bool
  | .mx _ _ => true
  | _ => false

def interpretMail (records : List DnsRecord) (dmarcRecords mtaSts tlsRpt : List String) :
    MailObservation :=
  let spfRecords := sortBy id (records.filterMap spfRecord?)
  { mxPresent := records.any DnsRecord.isMx
    spf :=
      { records := spfRecords
        terminalPolicy := spfRecords.head?.bind spfTerminalPolicy }
    dmarc := sortBy DmarcObservation.record
      ((dmarcRecords.filter (startsWithLower "v=dmarc1")).map parseDmarc)
    mtaSts := mtaSts
    mtaStsPolicyAvailable := none
    tlsRpt := tlsRpt }

end Surface

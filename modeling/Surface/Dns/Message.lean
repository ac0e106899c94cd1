import Surface.Model.Dns

/-!
# Surface.Dns.Message

What the DNS library hands to the code: records with the proof that validation found for them,
and the errors of a lookup.

* `Platform`: the functions of the libraries whose result the code only passes on or compares.
  Everything that is proved holds for all of them.
* `trimName`, `capped`: how the code normalises names and bounds texts.
-/

namespace Surface

inductive ResponseCode where
  | noError
  | nxDomain
  | servFail
  | refused
  | notAuth
  | other (name : String)
deriving DecidableEq

def ResponseCode.text : ResponseCode → String
  | noError => "NoError"
  | nxDomain => "NXDomain"
  | servFail => "ServFail"
  | refused => "Refused"
  | notAuth => "NotAuth"
  | other name => name

inductive OpCode where
  | query
  | other (code : Nat)
deriving DecidableEq

/-- What validation found for a record. -/
inductive Proof where
  | secure
  | insecure
  | bogus
  | indeterminate
deriving DecidableEq

inductive RecordType where
  | a
  | aaaa
  | cname
  | ns
  | mx
  | txt
  | caa
  | soa
  | nsec
  | nsec3
  | other
deriving DecidableEq

def RecordType.display : RecordType → String
  | a => "A"
  | aaaa => "AAAA"
  | cname => "CNAME"
  | ns => "NS"
  | mx => "MX"
  | txt => "TXT"
  | caa => "CAA"
  | soa => "SOA"
  | nsec => "NSEC"
  | nsec3 => "NSEC3"
  | other => "UNKNOWN"

/-- Record data, names as the library prints them. -/
inductive RData where
  | a (address : BitVec 32)
  | aaaa (address : BitVec 128)
  | cname (name : String)
  | ns (name : String)
  | mx (preference : Nat) (exchange : String)
  | txt (data : List (List UInt8))
  | caa (issuerCritical : Bool) (reservedFlags : BitVec 8) (tag : String) (value : List UInt8)
  | soa
  | nsec
  | nsec3
  | other
deriving DecidableEq

def RData.recordType : RData → RecordType
  | a _ => .a
  | aaaa _ => .aaaa
  | cname _ => .cname
  | ns _ => .ns
  | mx _ _ => .mx
  | txt _ => .txt
  | caa _ _ _ _ => .caa
  | soa => .soa
  | nsec => .nsec
  | nsec3 => .nsec3
  | other => .other

structure Record where
  name : String
  data : RData
  proof : Proof
deriving DecidableEq

inductive NetError where
  | noRecordsFound (responseCode : ResponseCode) (authorities : Option (List Record))
  | nsec (responseCode : ResponseCode) (proof : Proof) (authorities : List Record)
  | responseCode (code : ResponseCode)
  | timeout
  | transport
  | noConnections
  | other (description : String)

structure Platform where
  lowercase : String → String
  utf8Lossy : List UInt8 → String
  debugRecord : DnsRecord → String
  sha256Hex : String → String
  displayError : NetError → String
  isNoRecordsFound : NetError → Bool
  isNxDomain : NetError → Bool

/-- The libraries on names and errors that need no more than this. -/
def fixturePlatform : Platform where
  lowercase := String.toLower
  utf8Lossy bytes := String.ofList (bytes.map fun byte => Char.ofNat byte.toNat)
  debugRecord _ := ""
  sha256Hex value := value
  displayError _ := "error"
  isNoRecordsFound
    | .noRecordsFound _ _ => true
    | _ => false
  isNxDomain
    | .noRecordsFound .nxDomain _ => true
    | _ => false

def maxDnsRecords : Nat := 512
def maxResolvedHosts : Nat := 16
def maxSpecialTxtRecords : Nat := 32
def maxTxtBytes : Nat := 2048

def saturatingAdd (a b : Nat) : Nat := min (a + b) (2 ^ 64 - 1)

theorem saturatingAdd_le {a b m : Nat} (hm : m < 2 ^ 64 - 1) :
    saturatingAdd a b ≤ m ↔ a + b ≤ m := by
  unfold saturatingAdd
  omega

theorem saturatingAdd_eq {a b m : Nat} (hm : m < 2 ^ 64 - 1) (h : a + b ≤ m) :
    saturatingAdd a b = a + b := by
  unfold saturatingAdd
  omega

def trimTrailingDots (s : String) : String :=
  String.ofList (s.toList.reverse.dropWhile (· == '.')).reverse

def trimName (platform : Platform) (value : String) : String :=
  platform.lowercase (trimTrailingDots value)

/-- The longest run of leading characters that encodes into the given number of bytes. -/
def takeBytes : Nat → List Char → List Char
  | _, [] => []
  | bytes, c :: cs =>
    if c.utf8Size ≤ bytes then c :: takeBytes (bytes - c.utf8Size) cs else []

def capped (value : String) : String :=
  if maxTxtBytes < value.utf8ByteSize then String.ofList (takeBytes maxTxtBytes value.toList)
  else value

end Surface

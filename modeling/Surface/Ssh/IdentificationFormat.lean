import Surface.Ssh.Identification

/-!
# Surface.Ssh.IdentificationFormat

The reader of the identification ends on every stream, stays within its buffer, and accepts
exactly the identification line behind a bounded number of other lines.

* `Decides`: a step that cannot panic and fails only where it has to.
* `decides_appendByte`, `decides_endLine`: what one byte can do.
* `PreBannerLine`, `IdentificationLine`, `Announcement`: the format.
* `readLines_ends`: every run ends; `readLines_sound`, `readLines_continues`: the two
  directions between the runs and the format.
-/

namespace Surface

/-! ## Steps that decide a condition -/

section Decides

variable {α γ : Type}

/-- The step returns only a value with the condition, fails only when no value has it, and does
not panic. -/
def Decides (r : Except ReadFailure α) (P : α → Prop) : Prop :=
  match r with
  | .ok a => P a
  | .error (.protocol _) => ∀ a, ¬ P a
  | .error .panic => False

theorem decides_pure {a : α} {P : α → Prop} (h : P a) :
    Decides (pure a : Except ReadFailure α) P := h

theorem decides_bind {r : Except ReadFailure α} {f : α → Except ReadFailure γ} {P : α → Prop}
    {Q : γ → Prop} (hr : Decides r P) (hfail : (∀ a, ¬ P a) → ∀ c, ¬ Q c)
    (hf : ∀ a, P a → Decides (f a) Q) : Decides (r >>= f) Q := by
  match r, hr with
  | .ok a, hr => exact hf a hr
  | .error (.protocol error), hr => exact hfail hr

/-- A check in front of the rest of a step. -/
theorem decides_guard {b : Prop} [Decidable b] {error : ProtocolError}
    {k : γ → Except ReadFailure α} {q : Except ReadFailure α} {P : α → Prop}
    (hthrow : b → ∀ a, ¬ P a) (hq : ¬ b → Decides q P) :
    Decides (if b then throw (.protocol error) >>= k else q) P := by
  by_cases h : b
  · rw [if_pos h]
    exact hthrow h
  · rw [if_neg h]
    exact hq h

theorem Decides.ok_iff {r : Except ReadFailure α} {P : α → Prop} (h : Decides r P)
    (hunique : ∀ a b, P a → P b → a = b) (a : α) : r = .ok a ↔ P a := by
  match r, h with
  | .ok b, h =>
    constructor
    · intro heq
      cases heq
      exact h
    · intro ha
      rw [hunique a b ha h]
  | .error (.protocol _), h => exact iff_of_false nofun (h a)

theorem Decides.congr {r : Except ReadFailure α} {P Q : α → Prop} (h : Decides r P)
    (hPQ : ∀ a, P a ↔ Q a) : Decides r Q := by
  have hfun : P = Q := funext fun a => propext (hPQ a)
  exact hfun ▸ h

theorem Decides.ne_panic {r : Except ReadFailure α} {P : α → Prop} (h : Decides r P) :
    r ≠ .error .panic := by
  rintro rfl
  exact h

end Decides

/-! ## One byte -/

namespace LineBuffer

theorem decides_get {line : LineBuffer} {i : Nat} (h : i < line.filled.length) :
    Decides (line.get i) fun byte => line.filled[i]? = some byte := by
  unfold get
  rw [List.getElem?_eq_getElem h]
  exact rfl

theorem decides_put {line : LineBuffer} (byte : UInt8)
    (h : line.filled.length < maxPreBannerBytes + 1) :
    Decides (line.put byte) fun next => next.filled = line.filled ++ [byte] := by
  unfold put
  rw [dif_pos h]
  exact rfl

theorem not_couldBeIdentification (line : LineBuffer) :
    (!line.couldBeIdentification) = true ↔
      ¬ line.filled <+: sshPrefix ∧ ¬ sshPrefix <+: line.filled := by
  simp [couldBeIdentification, ← List.isPrefixOf_iff_prefix]

end LineBuffer

/-- The checks that a byte passes before it is part of the line. -/
structure Appends (filled : List UInt8) (preBannerBytes : Nat) (byte : UInt8) : Prop where
  room : filled.length < maxPreBannerBytes + 1
  afterReturn : filled.getLast? = some carriageReturn → byte = lineFeed
  plain : byte = carriageReturn ∨ byte = lineFeed ∨ isAsciiControl byte = false
  identificationLimit :
    sshPrefix <+: filled ++ [byte] → (filled ++ [byte]).length ≤ maxIdentificationBytes
  preBannerLimit :
    ¬ filled ++ [byte] <+: sshPrefix → ¬ sshPrefix <+: filled ++ [byte] →
      preBannerBytes + (filled ++ [byte]).length ≤ maxPreBannerBytes

theorem decides_checkReturn (line : LineBuffer) (byte : UInt8) :
    Decides (checkReturn line byte) fun _ =>
      line.filled.getLast? = some carriageReturn → byte = lineFeed := by
  unfold checkReturn
  by_cases hempty : line.filled.length ≠ 0
  · rw [if_pos hempty]
    refine decides_bind (LineBuffer.decides_get (by omega)) ?_ fun last hlast => ?_
    · intro hnone
      exact absurd (List.getElem?_eq_getElem (by omega)) (hnone _)
    · rw [← List.getLast?_eq_getElem?] at hlast
      by_cases hreturn : last = carriageReturn ∧ byte ≠ lineFeed
      · rw [if_pos hreturn]
        exact fun _ hall => hreturn.2 (hall (by rw [hlast, hreturn.1]))
      · rw [if_neg hreturn]
        refine decides_pure fun hcr => ?_
        rw [hlast] at hcr
        exact Decidable.byContradiction fun hne => hreturn ⟨Option.some.inj hcr, hne⟩
  · rw [if_neg hempty]
    have hnil : line.filled = [] := List.eq_nil_of_length_eq_zero (by omega)
    refine decides_pure fun hcr => ?_
    rw [hnil] at hcr
    cases hcr

theorem decides_appendByte (state : BannerState) (byte : UInt8) :
    Decides (appendByte state byte) fun line =>
      line.filled = state.line.filled ++ [byte] ∧
        Appends state.line.filled state.preBannerBytes byte := by
  have hle := state.line.length_le
  unfold appendByte
  refine decides_guard (fun hfull _ h => ?_) fun hroom => ?_
  · have := h.2.room
    omega
  refine decides_bind (decides_checkReturn _ _) (fun hno _ h => hno () h.2.afterReturn)
    fun _ hreturn => ?_
  refine decides_guard (fun hcontrol _ h => ?_) fun hplain => ?_
  · have := h.2.plain
    grind
  refine decides_bind (LineBuffer.decides_put byte (by omega)) (fun hno line h => hno line h.1)
    fun line hline => ?_
  refine decides_guard (fun hlong _ h => ?_) fun hshort => ?_
  · have := h.2.identificationLimit
    rw [List.isPrefixOf_iff_prefix, hline] at hlong
    exact absurd (this hlong.1) (Nat.not_le.mpr hlong.2)
  refine decides_guard (fun hmany _ h => ?_) fun hfew => ?_
  · have := h.2.preBannerLimit
    rw [LineBuffer.not_couldBeIdentification, hline] at hmany
    have := this hmany.1.1 hmany.1.2
    omega
  refine decides_pure ⟨hline, by omega, hreturn, ?_, ?_, ?_⟩
  · grind
  · intro hmarked
    rw [List.isPrefixOf_iff_prefix, hline] at hshort
    exact Nat.not_lt.mp fun hlt => hshort ⟨hmarked, hlt⟩
  · intro hnot hnot'
    rw [LineBuffer.not_couldBeIdentification, hline] at hfew
    have hmax : maxPreBannerBytes < 2 ^ 64 - 1 := by decide
    refine Nat.not_lt.mp fun hlt => hfew ⟨⟨hnot, hnot'⟩, ?_⟩
    exact Nat.lt_min.mpr ⟨hlt, hmax⟩

/-- What a line feed does to a line: it ends the reading, or the line is counted and dropped. -/
def Ended (state : BannerState) (line : List UInt8) : Progress → Prop
  | .done identification => sshPrefix <+: line ∧ parseIdentification line = .ok identification
  | .more next => ¬ sshPrefix <+: line ∧ state.preBannerLines + 1 ≤ maxPreBannerLines ∧
      state.preBannerBytes + line.length ≤ maxPreBannerBytes ∧
      next = ⟨.empty, state.preBannerLines + 1, state.preBannerBytes + line.length⟩

theorem decides_endLine (state : BannerState) (line : LineBuffer) :
    Decides (endLine state line) fun progress =>
      (2 ≤ line.filled.length ∧
        line.filled[line.filled.length - 2]? = some carriageReturn) ∧
          Ended state line.filled progress := by
  unfold endLine
  refine decides_guard (fun hshort _ h => absurd h.1.1 (by omega)) fun hlength => ?_
  refine decides_bind (LineBuffer.decides_get (by omega)) ?_ fun before hbefore => ?_
  · intro hnone
    exact absurd (List.getElem?_eq_getElem (by omega)) (hnone _)
  refine decides_guard (fun hne _ h => ?_) fun heq => ?_
  · rw [hbefore] at h
    exact hne (Option.some.inj h.1.2)
  have hreturn : before = carriageReturn := Decidable.byContradiction heq
  rw [hreturn] at hbefore
  by_cases hmarked : sshPrefix.isPrefixOf line.filled = true
  · rw [if_pos hmarked]
    rw [List.isPrefixOf_iff_prefix] at hmarked
    cases hparse : parseIdentification line.filled with
    | ok identification => exact ⟨⟨by omega, hbefore⟩, hmarked, hparse⟩
    | error error =>
      rintro (next | identification) ⟨_, hended⟩
      · exact hended.1 hmarked
      · have hok := hended.2
        rw [hparse] at hok
        cases hok
  · rw [if_neg hmarked]
    rw [List.isPrefixOf_iff_prefix] at hmarked
    have hmore : ∀ {b : Prop}, b → (∀ next, Ended state line.filled (.more next) → ¬ b) →
        ∀ progress, ¬ ((2 ≤ line.filled.length ∧
          line.filled[line.filled.length - 2]? = some carriageReturn) ∧
            Ended state line.filled progress) := by
      rintro b hb hno (next | identification) ⟨_, hended⟩
      · exact hno next hended hb
      · exact hmarked hended.1
    refine decides_guard (fun hb => hmore hb fun _ hended => ?_) fun _ => ?_
    · have hmax : maxPreBannerBytes < 2 ^ 64 := by decide
      have := hended.2.2.1
      omega
    refine decides_guard (fun hb => hmore hb fun _ hended => ?_) fun hlines => ?_
    · have := hended.2.1
      omega
    refine decides_guard (fun hb => hmore hb fun _ hended => ?_) fun hbytes => ?_
    · have := hended.2.2.1
      omega
    exact ⟨⟨by omega, hbefore⟩, hmarked, by omega, by omega, rfl⟩

/-- What one byte does. -/
def Taken (state : BannerState) (byte : UInt8) (progress : Progress) : Prop :=
  Appends state.line.filled state.preBannerBytes byte ∧
    if byte = lineFeed then
      state.line.filled.getLast? = some carriageReturn ∧
        Ended state (state.line.filled ++ [byte]) progress
    else ∃ line, line.filled = state.line.filled ++ [byte] ∧
      progress = .more { state with line := line }

/-- The byte in front of a line feed. -/
theorem before_last (filled : List UInt8) (byte : UInt8) :
    (2 ≤ (filled ++ [byte]).length ∧
      (filled ++ [byte])[(filled ++ [byte]).length - 2]? = some carriageReturn) ↔
      filled.getLast? = some carriageReturn := by
  rw [List.length_append, List.length_singleton, List.getLast?_eq_getElem?]
  constructor
  · rintro ⟨hlength, hget⟩
    rw [List.getElem?_append_left (by omega)] at hget
    exact hget
  · intro hget
    have hlt := (List.getElem?_eq_some_iff.mp hget).1
    refine ⟨by omega, ?_⟩
    rw [List.getElem?_append_left (by omega)]
    exact hget

theorem decides_takeByte (state : BannerState) (byte : UInt8) :
    Decides (takeByte state byte) (Taken state byte) := by
  unfold takeByte
  refine decides_bind (decides_appendByte state byte) (fun hno progress h => ?_)
    fun line hline => ?_
  · have hroom : (state.line.filled ++ [byte]).length ≤ maxPreBannerBytes + 1 := by
      rw [List.length_append]
      exact h.1.room
    exact hno ⟨_, hroom⟩ ⟨rfl, h.1⟩
  · by_cases hfeed : byte = lineFeed
    · rw [if_neg (not_not_intro hfeed)]
      refine (decides_endLine state line).congr fun progress => ?_
      rw [hline.1, before_last, Taken, if_pos hfeed]
      exact (and_iff_right hline.2).symm
    · rw [if_pos hfeed]
      refine decides_pure ⟨hline.2, ?_⟩
      rw [if_neg hfeed]
      exact ⟨line, hline.1, rfl⟩

theorem ended_unique {state : BannerState} {line : List UInt8} {a b : Progress}
    (ha : Ended state line a) (hb : Ended state line b) : a = b := by
  cases a with
  | done identification =>
    cases b with
    | done identification' =>
      have hparse := ha.2.symm.trans hb.2
      cases hparse
      rfl
    | more next => exact absurd ha.1 hb.1
  | more next =>
    cases b with
    | done identification => exact absurd hb.1 ha.1
    | more next' => rw [ha.2.2.2, hb.2.2.2]

theorem taken_unique {state : BannerState} {byte : UInt8} {a b : Progress}
    (ha : Taken state byte a) (hb : Taken state byte b) : a = b := by
  obtain ⟨_, ha⟩ := ha
  obtain ⟨_, hb⟩ := hb
  by_cases hfeed : byte = lineFeed
  · rw [if_pos hfeed] at ha hb
    exact ended_unique ha.2 hb.2
  · rw [if_neg hfeed] at ha hb
    obtain ⟨line, hline, rfl⟩ := ha
    obtain ⟨line', hline', rfl⟩ := hb
    rw [LineBuffer.ext (hline.trans hline'.symm)]

theorem takeByte_ok {state : BannerState} {byte : UInt8} {progress : Progress} :
    takeByte state byte = .ok progress ↔ Taken state byte progress :=
  (decides_takeByte state byte).ok_iff (fun _ _ => taken_unique) progress

/-! ## The format -/

def PlainBytes (content : List UInt8) : Prop := ∀ byte ∈ content, isAsciiControl byte = false

/-- No control byte but the two at the end. -/
def IsLine (line : List UInt8) : Prop :=
  ∃ content, PlainBytes content ∧ line = content ++ [carriageReturn, lineFeed]

structure PreBannerLine (line : List UInt8) : Prop where
  isLine : IsLine line
  noPrefix : ¬ sshPrefix <+: line

structure IdentificationLine (line : List UInt8) : Prop where
  isLine : IsLine line
  hasPrefix : sshPrefix <+: line
  length_le : line.length ≤ maxIdentificationBytes

/-- What a server sends up to the end of its identification. -/
structure Announcement (lines : List (List UInt8)) (line : List UInt8) : Prop where
  lines_le : lines.length ≤ maxPreBannerLines
  bytes_le : lines.flatten.length ≤ maxPreBannerBytes
  preBanner : ∀ preBanner ∈ lines, PreBannerLine preBanner
  identification : IdentificationLine line

/-- The stream goes on with these bytes. -/
def StartsAt (incoming : Incoming) : Nat → List UInt8 → Prop
  | _, [] => True
  | position, byte :: bytes =>
    incoming position = some byte ∧ StartsAt incoming (position + 1) bytes

theorem startsAt_append {incoming : Incoming} {first second : List UInt8} {position : Nat} :
    StartsAt incoming position (first ++ second) ↔
      StartsAt incoming position first ∧ StartsAt incoming (position + first.length) second := by
  induction first generalizing position with
  | nil => exact (and_iff_right trivial).symm
  | cons byte first ih =>
    simp only [List.cons_append, StartsAt, ih, List.length_cons, and_assoc]
    have hposition : position + 1 + first.length = position + (first.length + 1) := by omega
    rw [hposition]

/-! ## From a run to the format -/

/-- A line before its line feed. -/
def PartialLine (filled : List UInt8) : Prop :=
  ∃ content, PlainBytes content ∧ (filled = content ∨ filled = content ++ [carriageReturn])

theorem partialLine_nil : PartialLine [] := ⟨[], nofun, .inl rfl⟩

theorem plainBytes_getLast {content : List UInt8} (h : PlainBytes content) :
    content.getLast? ≠ some carriageReturn := by
  intro hlast
  have hcontrol := h carriageReturn (List.mem_of_getLast? hlast)
  exact absurd hcontrol (by decide)

theorem partialLine_append {filled : List UInt8} {preBannerBytes : Nat} {byte : UInt8}
    (h : PartialLine filled) (happends : Appends filled preBannerBytes byte)
    (hfeed : byte ≠ lineFeed) : PartialLine (filled ++ [byte]) := by
  obtain ⟨content, hplain, rfl | rfl⟩ := h
  · rcases happends.plain with hreturn | hfeed' | hcontrol
    · exact ⟨filled, hplain, .inr (by rw [hreturn])⟩
    · exact absurd hfeed' hfeed
    · refine ⟨filled ++ [byte], fun b hb => ?_, .inl rfl⟩
      rcases List.mem_append.mp hb with hb | hb
      · exact hplain b hb
      · rw [List.mem_singleton.mp hb]
        exact hcontrol
  · exact absurd (happends.afterReturn List.getLast?_concat) hfeed

theorem partialLine_end {filled : List UInt8} (h : PartialLine filled)
    (hreturn : filled.getLast? = some carriageReturn) : IsLine (filled ++ [lineFeed]) := by
  obtain ⟨content, hplain, rfl | rfl⟩ := h
  · exact absurd hreturn (plainBytes_getLast hplain)
  · exact ⟨content, hplain, by rw [List.append_assoc]; rfl⟩

/-- What the rest of the reading accepts behind the lines that are counted in a state. -/
structure Continues (state : BannerState) (lines : List (List UInt8)) (line : List UInt8) :
    Prop where
  lines_le : state.preBannerLines + lines.length ≤ maxPreBannerLines
  bytes_le : state.preBannerBytes + lines.flatten.length ≤ maxPreBannerBytes
  preBanner : ∀ preBanner ∈ lines, PreBannerLine preBanner
  identification : IdentificationLine line

theorem continues_start {lines : List (List UInt8)} {line : List UInt8} :
    Continues .start lines line ↔ Announcement lines line := by
  constructor
  · rintro ⟨hlines, hbytes, hpre, hident⟩
    exact ⟨by simpa [BannerState.start] using hlines, by simpa [BannerState.start] using hbytes,
      hpre, hident⟩
  · rintro ⟨hlines, hbytes, hpre, hident⟩
    exact ⟨by simpa [BannerState.start] using hlines, by simpa [BannerState.start] using hbytes,
      hpre, hident⟩

theorem readLines_sound {incoming : Incoming} {identification : Identification} {stop fuel : Nat} :
    ∀ (position : Nat) (state : BannerState), PartialLine state.line.filled →
      state.preBannerLines ≤ maxPreBannerLines → state.preBannerBytes ≤ maxPreBannerBytes →
      readLines incoming fuel position state = some (.ok identification, stop) →
        ∃ taken lines line, StartsAt incoming position taken ∧ stop = position + taken.length ∧
          state.line.filled ++ taken = lines.flatten ++ line ∧ Continues state lines line ∧
            parseIdentification line = .ok identification := by
  induction fuel with
  | zero =>
    intro position state _ _ _ h
    cases h
  | succ fuel ih =>
    intro position state hpartial hlines hbytes h
    rw [readLines] at h
    cases hbyte : incoming position with
    | none =>
      rw [hbyte] at h
      cases h
    | some byte =>
      rw [hbyte] at h
      cases htake : takeByte state byte with
      | error failure =>
        simp only [htake] at h
        cases h
      | ok progress =>
        simp only [htake] at h
        obtain ⟨happends, htaken⟩ := takeByte_ok.mp htake
        by_cases hfeed : byte = lineFeed
        · rw [if_pos hfeed, hfeed] at htaken
          have hline := partialLine_end hpartial htaken.1
          cases progress with
          | done found =>
            cases h
            obtain ⟨hmarked, hparse⟩ := htaken.2
            refine ⟨[byte], [], _, ⟨hbyte, trivial⟩, rfl, by rw [hfeed]; rfl,
              ⟨hlines, hbytes, nofun, hline, hmarked, ?_⟩, hparse⟩
            rw [hfeed] at happends
            exact happends.identificationLimit hmarked
          | more next =>
            obtain ⟨hmarked, hlines', hbytes', rfl⟩ := htaken.2
            obtain ⟨taken, lines, line, hstarts, rfl, hsplit, hcontinues, hparse⟩ :=
              ih _ _ partialLine_nil hlines' hbytes' h
            refine ⟨byte :: taken, (state.line.filled ++ [lineFeed]) :: lines, line,
              ⟨hbyte, hstarts⟩, ?_, ?_, ⟨?_, ?_, ?_, hcontinues.identification⟩, hparse⟩
            · rw [List.length_cons]
              omega
            · have hsplit' : taken = lines.flatten ++ line := hsplit
              rw [hfeed, hsplit']
              simp
            · have := hcontinues.lines_le
              simp only [List.length_cons] at this ⊢
              omega
            · have := hcontinues.bytes_le
              simp only [List.flatten_cons, List.length_append] at this ⊢
              omega
            · exact List.forall_mem_cons.mpr ⟨⟨hline, hmarked⟩, hcontinues.preBanner⟩
        · rw [if_neg hfeed] at htaken
          obtain ⟨next, hnext, rfl⟩ := htaken
          have hpartial' := partialLine_append hpartial happends hfeed
          rw [← hnext] at hpartial'
          obtain ⟨taken, lines, line, hstarts, rfl, hsplit, hcontinues, hparse⟩ :=
            ih _ { state with line := next } hpartial' hlines hbytes h
          refine ⟨byte :: taken, lines, line, ⟨hbyte, hstarts⟩, ?_, ?_,
            ⟨hcontinues.lines_le, hcontinues.bytes_le, hcontinues.preBanner,
              hcontinues.identification⟩, hparse⟩
          · rw [List.length_cons]
            omega
          · rw [← hsplit, hnext, List.append_assoc]
            rfl

/-! ## From the format to a run -/

theorem plainBytes_append {first second : List UInt8} :
    PlainBytes (first ++ second) ↔ PlainBytes first ∧ PlainBytes second :=
  List.forall_mem_append

/-- A byte of a line: it is plain, or it belongs to the end. -/
theorem line_split {content before after : List UInt8} {byte : UInt8}
    (h : content ++ [carriageReturn, lineFeed] = before ++ byte :: after) :
    (∃ rest, content = before ++ byte :: rest ∧ after = rest ++ [carriageReturn, lineFeed]) ∨
      (before = content ∧ byte = carriageReturn ∧ after = [lineFeed]) ∨
        (before = content ++ [carriageReturn] ∧ byte = lineFeed ∧ after = []) := by
  rcases List.append_eq_append_iff.mp h with ⟨tail, rfl, htail⟩ | ⟨tail, rfl, htail⟩
  · match tail, htail with
    | [], htail =>
      cases htail
      exact .inr (.inl ⟨List.append_nil _, rfl, rfl⟩)
    | [_], htail =>
      cases htail
      exact .inr (.inr ⟨rfl, rfl, rfl⟩)
    | _ :: _ :: tail, htail =>
      have hlength := congrArg List.length htail
      simp at hlength
  · cases tail with
    | nil =>
      cases htail
      exact .inr (.inl ⟨(List.append_nil _).symm, rfl, rfl⟩)
    | cons head tail =>
      cases htail
      exact .inl ⟨tail, rfl, rfl⟩

/-- A line that no limit of the reader stops. -/
structure Fits (preBannerBytes : Nat) (line : List UInt8) : Prop where
  isLine : IsLine line
  identificationLimit : sshPrefix <+: line → line.length ≤ maxIdentificationBytes
  preBannerLimit : ¬ sshPrefix <+: line → preBannerBytes + line.length ≤ maxPreBannerBytes

theorem Fits.appends {preBannerBytes : Nat} {line before after : List UInt8} {byte : UInt8}
    (h : Fits preBannerBytes line) (hsplit : line = before ++ byte :: after) :
    Appends before preBannerBytes byte := by
  obtain ⟨content, hplain, hcontent⟩ := h.isLine
  have hmarked : before ++ [byte] <+: line := ⟨after, by rw [hsplit, List.append_assoc]; rfl⟩
  have hlength : before.length + 1 ≤ line.length := by
    have := hmarked.length_le
    rwa [List.length_append] at this
  have hroom : line.length ≤ maxPreBannerBytes := by
    have hsmall : maxIdentificationBytes ≤ maxPreBannerBytes := by decide
    by_cases hssh : sshPrefix <+: line
    · exact (h.identificationLimit hssh).trans hsmall
    · have := h.preBannerLimit hssh
      omega
  refine ⟨by omega, fun hreturn => ?_, ?_, fun hssh => ?_, fun hnot hnot' => ?_⟩
  · rcases line_split (hcontent.symm.trans hsplit) with ⟨rest, rfl, _⟩ | ⟨rfl, _⟩ | ⟨_, rfl, _⟩
    · exact absurd hreturn (plainBytes_getLast (plainBytes_append.mp hplain).1)
    · exact absurd hreturn (plainBytes_getLast hplain)
    · rfl
  · rcases line_split (hcontent.symm.trans hsplit) with ⟨rest, rfl, _⟩ | ⟨_, rfl, _⟩ | ⟨_, rfl, _⟩
    · exact .inr (.inr (hplain byte (by simp)))
    · exact .inl rfl
    · exact .inr (.inl rfl)
  · exact hmarked.length_le.trans (h.identificationLimit (hssh.trans hmarked))
  · -- two prefixes of one line are comparable
    have hssh : ¬ sshPrefix <+: line := fun hssh =>
      (List.prefix_or_prefix_of_prefix hssh hmarked).elim hnot' hnot
    have := h.preBannerLimit hssh
    have := hmarked.length_le
    omega

/-- Bytes that pass their checks and end no line. -/
theorem readLines_append {incoming : Incoming} {bytes : List UInt8} (fuel : Nat) :
    ∀ (position : Nat) (state : BannerState), StartsAt incoming position bytes →
      (∀ before byte after, bytes = before ++ byte :: after →
        Appends (state.line.filled ++ before) state.preBannerBytes byte ∧ byte ≠ lineFeed) →
      ∃ line, line.filled = state.line.filled ++ bytes ∧
        readLines incoming (bytes.length + fuel) position state =
          readLines incoming fuel (position + bytes.length) { state with line := line } := by
  induction bytes with
  | nil =>
    intro position state _ _
    exact ⟨state.line, (List.append_nil _).symm, by rw [List.length_nil, Nat.zero_add]; rfl⟩
  | cons byte bytes ih =>
    rintro position state ⟨hbyte, hstarts⟩ happends
    obtain ⟨hhead, hfeed⟩ := happends [] byte bytes rfl
    rw [List.append_nil] at hhead
    obtain ⟨next, hnext⟩ : ∃ next : LineBuffer, next.filled = state.line.filled ++ [byte] :=
      ⟨⟨state.line.filled ++ [byte], by rw [List.length_append]; exact hhead.room⟩, rfl⟩
    have htake : takeByte state byte = .ok (.more { state with line := next }) :=
      takeByte_ok.mpr ⟨hhead, by rw [if_neg hfeed]; exact ⟨next, hnext, rfl⟩⟩
    obtain ⟨line, hline, hrun⟩ := ih _ { state with line := next } hstarts
      (fun before byte' after hsplit => by
        have := happends (byte :: before) byte' after (by rw [hsplit]; rfl)
        rw [hnext, List.append_assoc]
        exact this)
    refine ⟨line, by rw [hline, hnext, List.append_assoc]; rfl, ?_⟩
    have hfuel : (byte :: bytes).length + fuel = bytes.length + fuel + 1 := by
      rw [List.length_cons]
      omega
    have hposition : position + (byte :: bytes).length = position + 1 + bytes.length := by
      rw [List.length_cons]
      omega
    rw [hfuel, hposition, readLines, hbyte]
    simp only [htake]
    exact hrun

/-- A line up to its line feed, and what the line feed does. -/
theorem readLines_line {incoming : Incoming} {state : BannerState} {line : List UInt8}
    {position : Nat} (fuel : Nat) (progress : Progress) (hempty : state.line = .empty)
    (hfits : Fits state.preBannerBytes line) (hended : Ended state line progress)
    (hstarts : StartsAt incoming position line) :
    readLines incoming (line.length + fuel) position state =
      match progress with
      | .done identification => some (.ok identification, position + line.length)
      | .more next => readLines incoming fuel (position + line.length) next := by
  obtain ⟨content, hplain, hcontent⟩ := hfits.isLine
  have hsplit : line = (content ++ [carriageReturn]) ++ [lineFeed] := by
    rw [hcontent, List.append_assoc]
    rfl
  have hstarts' := hstarts
  rw [hsplit] at hstarts'
  obtain ⟨hfirst, hlast, _⟩ := startsAt_append.mp hstarts'
  have hbody : ∀ before byte after, content ++ [carriageReturn] = before ++ byte :: after →
      Appends (state.line.filled ++ before) state.preBannerBytes byte ∧ byte ≠ lineFeed := by
    intro before byte after hbefore
    have hline : line = before ++ byte :: (after ++ [lineFeed]) := by
      rw [hsplit, hbefore, List.append_assoc]
      rfl
    refine ⟨by rw [hempty]; exact hfits.appends hline, ?_⟩
    rintro rfl
    rcases line_split (hcontent.symm.trans hline) with ⟨rest, rfl, _⟩ | ⟨_, hne, _⟩ | ⟨_, _, hne⟩
    · exact absurd (hplain lineFeed (by simp)) (by decide)
    · cases hne
    · exact absurd hne (by simp)
  obtain ⟨filled, hfilled, hrun⟩ := readLines_append (fuel + 1) position state hfirst hbody
  have hfilled' : filled.filled = content ++ [carriageReturn] := by
    rw [hfilled, hempty]
    rfl
  have hlength : line.length = (content ++ [carriageReturn]).length + 1 :=
    (congrArg List.length hsplit).trans List.length_append
  have hfuel : line.length + fuel = (content ++ [carriageReturn]).length + (fuel + 1) := by omega
  have htake : takeByte { state with line := filled } lineFeed = .ok progress := by
    refine takeByte_ok.mpr ⟨?_, ?_⟩
    · rw [hfilled']
      exact hfits.appends hsplit
    · rw [if_pos rfl, hfilled', ← hsplit]
      refine ⟨List.getLast?_concat, ?_⟩
      cases progress with
      | done identification => exact hended
      | more next => exact hended
  rw [hfuel, hrun, readLines, hlast]
  simp only [htake]
  have hposition : position + (content ++ [carriageReturn]).length + 1 = position + line.length := by
    omega
  cases progress with
  | done identification => simp only [hposition]
  | more next => simp only [hposition]

theorem readLines_continues {incoming : Incoming} {identification : Identification}
    {lines : List (List UInt8)} {line : List UInt8}
    (fuel : Nat) (hparse : parseIdentification line = .ok identification) :
    ∀ (position : Nat) (state : BannerState), state.line = .empty → Continues state lines line →
      StartsAt incoming position (lines.flatten ++ line) →
      readLines incoming ((lines.flatten ++ line).length + fuel) position state =
        some (.ok identification, position + (lines.flatten ++ line).length) := by
  induction lines with
  | nil =>
    intro position state hempty hcontinues hstarts
    obtain ⟨hline, hmarked, hlength⟩ := hcontinues.identification
    exact readLines_line fuel (.done identification) hempty
      ⟨hline, fun _ => hlength, fun hno => absurd hmarked hno⟩ ⟨hmarked, hparse⟩ hstarts
  | cons first lines ih =>
    intro position state hempty hcontinues hstarts
    obtain ⟨hfirst, hlines⟩ := List.forall_mem_cons.mp hcontinues.preBanner
    have hcount := hcontinues.lines_le
    have hbytes := hcontinues.bytes_le
    simp only [List.length_cons, List.flatten_cons, List.length_append] at hcount hbytes
    rw [List.flatten_cons, List.append_assoc] at hstarts ⊢
    obtain ⟨hhead, htail⟩ := startsAt_append.mp hstarts
    have hlength : (first ++ (lines.flatten ++ line)).length =
        first.length + (lines.flatten ++ line).length := List.length_append
    have hended : Ended state first (.more ⟨.empty, state.preBannerLines + 1,
        state.preBannerBytes + first.length⟩) :=
      ⟨hfirst.noPrefix, by omega, by omega, rfl⟩
    have hrest := ih _ ⟨.empty, state.preBannerLines + 1, state.preBannerBytes + first.length⟩ rfl
      ⟨by simp only; omega, by simp only; omega, hlines, hcontinues.identification⟩ htail
    have hline := readLines_line ((lines.flatten ++ line).length + fuel) _ hempty
      ⟨hfirst.isLine, fun hssh => absurd hssh hfirst.noPrefix, fun _ => by omega⟩ hended hhead
    rw [hlength, Nat.add_assoc, hline]
    simp only [hrest, Nat.add_assoc]

/-! ## Every run ends -/

/-- No run reads more bytes than these. -/
def maxAnnouncementBytes : Nat := maxPreBannerBytes + maxIdentificationBytes + 1

/-- The bytes of the lines that are counted and of the line that is not complete. -/
structure Within (state : BannerState) (position : Nat) : Prop where
  position_eq : position = state.preBannerBytes + state.line.filled.length
  bytes_le : state.preBannerBytes ≤ maxPreBannerBytes
  position_lt : position < maxAnnouncementBytes

theorem within_start : Within .start 0 := ⟨rfl, Nat.zero_le _, by decide⟩

theorem Within.next {state next : BannerState} {position : Nat} {byte : UInt8}
    (h : Within state position) (htaken : Taken state byte (.more next)) :
    Within next (position + 1) := by
  obtain ⟨happends, htaken⟩ := htaken
  have hposition := h.position_eq
  have hbytes := h.bytes_le
  by_cases hfeed : byte = lineFeed
  · rw [if_pos hfeed] at htaken
    obtain ⟨_, _, _, hlimit, rfl⟩ := htaken
    rw [List.length_append, List.length_singleton] at hlimit
    have hsmall : maxPreBannerBytes < maxAnnouncementBytes := by decide
    refine ⟨?_, ?_, by omega⟩
    · rw [List.length_append, List.length_singleton]
      show position + 1 = state.preBannerBytes + (state.line.filled.length + 1) + 0
      omega
    · rw [List.length_append, List.length_singleton]
      exact hlimit
  · rw [if_neg hfeed] at htaken
    obtain ⟨line, hline, hnext⟩ := htaken
    cases hnext
    have hlength : line.filled.length = state.line.filled.length + 1 := by
      rw [hline, List.length_append, List.length_singleton]
    refine ⟨by simp only [hlength]; omega, hbytes, ?_⟩
    -- the line is short, or it is no identification and its own limit holds
    have hlimit := happends.preBannerLimit
    have hident := happends.identificationLimit
    rw [← hline] at hlimit hident
    have hmax : maxAnnouncementBytes = maxPreBannerBytes + maxIdentificationBytes + 1 := rfl
    have hfour : sshPrefix.length ≤ maxIdentificationBytes := by decide
    by_cases hshort : line.filled <+: sshPrefix
    · have := hshort.length_le
      omega
    · by_cases hssh : sshPrefix <+: line.filled
      · have := hident hssh
        omega
      · have := hlimit hshort hssh
        omega

theorem readLines_ends (incoming : Incoming) (fuel : Nat) :
    ∀ (position : Nat) (state : BannerState), Within state position →
      maxAnnouncementBytes ≤ position + fuel →
      ∃ r stop, readLines incoming fuel position state = some (r, stop) ∧ r ≠ .error .panic ∧
        stop ≤ maxAnnouncementBytes := by
  induction fuel with
  | zero =>
    intro position state hwithin hfuel
    have := hwithin.position_lt
    omega
  | succ fuel ih =>
    intro position state hwithin hfuel
    have hlt := hwithin.position_lt
    rw [readLines]
    cases hbyte : incoming position with
    | none => exact ⟨_, position, rfl, nofun, hlt.le⟩
    | some byte =>
      cases htake : takeByte state byte with
      | error failure =>
        simp only [htake]
        refine ⟨_, position + 1, rfl, ?_, hlt⟩
        rintro ⟨rfl⟩
        exact (decides_takeByte state byte).ne_panic htake
      | ok progress =>
        simp only [htake]
        cases progress with
        | done identification => exact ⟨_, position + 1, rfl, nofun, hlt⟩
        | more next => exact ih _ next (hwithin.next (takeByte_ok.mp htake)) (by omega)

theorem readLines_mono {incoming : Incoming} {fuel more : Nat} (hle : fuel ≤ more) :
    ∀ {position : Nat} {state : BannerState} {r : Except ReadFailure Identification × Nat},
      readLines incoming fuel position state = some r →
        readLines incoming more position state = some r := by
  induction fuel generalizing more with
  | zero =>
    intro position state r h
    cases h
  | succ fuel ih =>
    intro position state r h
    obtain ⟨more, rfl⟩ : ∃ m, more = m + 1 := ⟨more - 1, by omega⟩
    rw [readLines] at h ⊢
    cases hbyte : incoming position with
    | none =>
      rw [hbyte] at h
      exact h
    | some byte =>
      rw [hbyte] at h
      cases htake : takeByte state byte with
      | error failure =>
        simp only [htake] at h ⊢
        exact h
      | ok progress =>
        simp only [htake] at h ⊢
        cases progress with
        | done identification => exact h
        | more next => exact ih (by omega) h

/-- The reader ends on every stream, with one result for all bounds on the rounds that are large
enough; it does not panic; and the result is an identification exactly when the stream starts
with an announcement, which it has then read to its last byte. -/
theorem readIdentification_exact (incoming : Incoming) :
    ∃ r stop, (∀ fuel, maxAnnouncementBytes ≤ fuel →
        readIdentification incoming fuel = some (r, stop)) ∧
      r ≠ .error .panic ∧ stop ≤ maxAnnouncementBytes ∧
      ∀ identification bytes, (r = .ok identification ∧ stop = bytes) ↔
        ∃ lines line, Announcement lines line ∧ StartsAt incoming 0 (lines.flatten ++ line) ∧
          parseIdentification line = .ok identification ∧
          bytes = (lines.flatten ++ line).length := by
  obtain ⟨r, stop, hrun, hpanic, hstop⟩ :=
    readLines_ends incoming maxAnnouncementBytes 0 .start within_start
      (Nat.le_add_left _ _)
  refine ⟨r, stop, fun fuel hfuel => readLines_mono hfuel hrun, hpanic, hstop,
    fun identification bytes => ⟨?_, ?_⟩⟩
  · rintro ⟨rfl, rfl⟩
    obtain ⟨taken, lines, line, hstarts, hbytes, hsplit, hcontinues, hparse⟩ :=
      readLines_sound 0 .start partialLine_nil (Nat.zero_le _) (Nat.zero_le _) hrun
    have hsplit' : taken = lines.flatten ++ line := hsplit
    subst hsplit'
    exact ⟨lines, line, continues_start.mp hcontinues, hstarts, hparse, by omega⟩
  · rintro ⟨lines, line, hannouncement, hstarts, hparse, rfl⟩
    have hread := readLines_continues maxAnnouncementBytes hparse 0 .start rfl
      (continues_start.mpr hannouncement) hstarts
    have hsame := (readLines_mono (Nat.le_add_left _ _) hrun).symm.trans hread
    cases hsame
    exact ⟨rfl, by omega⟩

end Surface

import Surface.Findings
import Surface.Service.Probe

/-!
# Surface.Service.Starttls

The finding about STARTTLS, against what the server replied.

* `ehloReply`, `RepliesWithoutStarttls`: the greeting and the reply to EHLO of a stream, by lines.
* `seen_starttls`: a line that was read whole and advertises STARTTLS is found in the banner.
* `starttls_finding_iff`: when a finding means that the reply does not advertise STARTTLS.
-/

namespace Surface

/-! ## Replies -/

abbrev ReplyLine := List UInt8

/-- The characters of ASCII bytes. -/
def asciiChars (bytes : List UInt8) : List Char := bytes.map fun byte => Char.ofNat byte.toNat

/-- The complete lines, each with its line feed; `line` is what there is of the first one. -/
def linesFrom (line : ReplyLine) : List UInt8 → List ReplyLine
  | [] => []
  | byte :: bytes =>
    if byte = 0x0a then (line ++ [byte]) :: linesFrom [] bytes
    else linesFrom (line ++ [byte]) bytes

/-- The lines of a reply, up to the one that has a space after the code, and the lines behind. -/
def replyLines (code : String) : List ReplyLine → Option (List ReplyLine × List ReplyLine)
  | [] => none
  | line :: lines =>
    if (code ++ " ").toList.isPrefixOf (asciiChars line) then some ([line], lines)
    else if (code ++ "-").toList.isPrefixOf (asciiChars line) then
      (replyLines code lines).map fun reply => (line :: reply.1, reply.2)
    else none

/-- The greeting and the reply to EHLO, when both are complete within the bound on banners. -/
def ehloReply (stream : List UInt8) : Option (List ReplyLine × List ReplyLine) :=
  match replyLines "220" (linesFrom [] stream) with
  | none => none
  | some (greeting, lines) =>
    match replyLines "250" lines with
    | none => none
    | some (reply, _) =>
      if (greeting ++ reply).flatten.length ≤ maxBannerBytes then some (greeting, reply) else none

/-- The word behind the code, which a space or the end of the line follows. -/
def advertisesStarttls (line : ReplyLine) : Bool :=
  decide ((asciiChars ((line.drop 4).take 8)).map Char.toUpper = "STARTTLS".toList) &&
    (line.drop 12).head?.any fun byte => byte = 0x0d || byte = 0x0a || byte = 0x20

def RepliesWithoutStarttls (stream : List UInt8) : Prop :=
  ∃ greeting reply, ehloReply stream = some (greeting, reply) ∧
    ∀ line ∈ reply, advertisesStarttls line = false

/-! ### The lines make up the stream -/

theorem linesFrom_flatten (line : ReplyLine) (bytes : List UInt8) :
    (linesFrom line bytes).flatten <+: line ++ bytes := by
  induction bytes generalizing line with
  | nil => exact List.nil_prefix
  | cons byte bytes ih =>
    unfold linesFrom
    split
    · rw [List.flatten_cons, List.append_cons line byte bytes]
      exact (List.prefix_append_right_inj _).mpr (ih [])
    · rw [List.append_cons line byte bytes]
      exact ih _

theorem replyLines_append {code : String} {lines reply rest : List ReplyLine}
    (h : replyLines code lines = some (reply, rest)) : lines = reply ++ rest := by
  induction lines generalizing reply with
  | nil => cases h
  | cons line lines ih =>
    unfold replyLines at h
    split at h
    · cases h
      rfl
    · split at h
      · obtain ⟨⟨reply', rest'⟩, hreply, heq⟩ := Option.map_eq_some_iff.mp h
        cases heq
        rw [ih hreply]
        rfl
      · cases h

/-- The greeting and the reply are the first bytes of the stream, and there is room for them. -/
theorem ehloReply_spec {stream : List UInt8} {greeting reply : List ReplyLine}
    (h : ehloReply stream = some (greeting, reply)) :
    (greeting ++ reply).flatten <+: stream ∧
      (greeting ++ reply).flatten.length ≤ maxBannerBytes := by
  unfold ehloReply at h
  split at h
  · cases h
  · rename_i hgreeting
    split at h
    · cases h
    · rename_i hreply
      split at h
      · rename_i hroom
        cases h
        refine ⟨List.IsPrefix.trans ?_ (linesFrom_flatten [] stream), hroom⟩
        rw [replyLines_append hgreeting, replyLines_append hreply, ← List.append_assoc]
        exact (List.prefix_append _ _).flatten
      · cases h

/-! ## The banner -/

/-- The letters of STARTTLS, in whatever case. -/
theorem letter_of_toUpper {c : Char} (h : c.toUpper ∈ "STARTTLS".toList) :
    65 ≤ c.toNat ∧ c.toNat ≤ 122 := by
  unfold Char.toUpper at h
  split at h
  · rename_i hlower
    have hlow : 97 ≤ c.toNat := hlower.1
    exact ⟨by omega, hlower.2⟩
  · have hletters : "STARTTLS".toList = ['S', 'T', 'A', 'R', 'T', 'T', 'L', 'S'] := by decide
    rw [hletters] at h
    simp only [List.mem_cons, List.not_mem_nil, or_false] at h
    rcases h with rfl | rfl | rfl | rfl | rfl | rfl | rfl | rfl <;> decide

theorem toNat_asciiChar (byte : UInt8) : (Char.ofNat byte.toNat).toNat = byte.toNat := by
  have hvalid : byte.toNat.isValidChar := .inl (by have := byte.toNat_lt; omega)
  rw [Char.ofNat, dif_pos hvalid]
  rfl

/-- A word of ASCII letters among the bytes is found in the banner. -/
theorem sanitizeBanner_word {before word after : List UInt8} (hne : word ≠ [])
    (hletters : ∀ byte ∈ word, 65 ≤ byte.toNat ∧ byte.toNat ≤ 122)
    (hlength : (before ++ word ++ after).length ≤ maxBannerBytes) :
    asciiChars word <:+: (sanitizeBanner (before ++ word ++ after)).toList := by
  have hascii : ∀ byte ∈ word, byte < 0x80 := fun byte hbyte => by
    have := (hletters byte hbyte).2
    exact UInt8.lt_iff_toNat_lt.mpr (show byte.toNat < 128 by omega)
  have hchars : ∀ c ∈ asciiChars word, 65 ≤ c.toNat ∧ c.toNat ≤ 122 := by
    intro c hc
    obtain ⟨byte, hbyte, rfl⟩ := List.mem_map.mp hc
    rw [toNat_asciiChar]
    exact hletters byte hbyte
  have hclean : (asciiChars word).map (fun c => if isControl c then ' ' else c) =
      asciiChars word := by
    refine (List.map_congr_left fun c hc => ?_).trans (List.map_id _)
    obtain ⟨hlow, hhigh⟩ := hchars c hc
    have hcontrol : isControl c = false := decide_eq_false (by omega)
    rw [hcontrol]
    rfl
  have hspace : ∀ c ∈ asciiChars word, isUnicodeSpace c = false := by
    intro c hc
    obtain ⟨hlow, hhigh⟩ := hchars c hc
    simp only [isUnicodeSpace, Bool.or_eq_false_iff, Bool.and_eq_false_iff, decide_eq_false_iff_not,
      List.mem_cons, List.not_mem_nil, or_false]
    omega
  unfold sanitizeBanner
  rw [String.toList_ofList, List.take_of_length_le
    (by rw [List.length_map]; exact (length_decodeLossy_le _).trans hlength),
    decodeLossy_ascii before hne hascii after, List.map_append, List.map_append]
  change _ <:+: trimSpaces (_ ++ (asciiChars word).map _ ++ _)
  rw [hclean]
  exact trimSpaces_keeps (by simpa [asciiChars] using hne) hspace

/-- A line that was read whole and advertises STARTTLS is found in the banner. -/
theorem seen_starttls {before line after : List UInt8} (h : advertisesStarttls line = true)
    (hlength : (before ++ line ++ after).length ≤ maxBannerBytes) :
    hasText "STARTTLS" (sanitizeBanner (before ++ line ++ after)).toUpper = true := by
  rw [advertisesStarttls, Bool.and_eq_true, decide_eq_true_eq] at h
  obtain ⟨hword, -⟩ := h
  generalize hpart : (line.drop 4).take 8 = word at hword
  have hsplit : before ++ line ++ after =
      (before ++ line.take 4) ++ word ++ ((line.drop 4).drop 8 ++ after) := by
    have hline : line.take 4 ++ (word ++ (line.drop 4).drop 8) = line := by
      rw [← hpart, List.take_append_drop, List.take_append_drop]
    simp only [List.append_assoc] at hline ⊢
    rw [← List.append_assoc word, ← List.append_assoc (line.take 4), hline]
  have hletters : ∀ byte ∈ word, 65 ≤ byte.toNat ∧ byte.toNat ≤ 122 := by
    intro byte hbyte
    rw [← toNat_asciiChar]
    refine letter_of_toUpper ?_
    rw [← hword]
    exact List.mem_map_of_mem (List.mem_map_of_mem hbyte)
  have hne : word ≠ [] := by
    rintro rfl
    exact absurd hword (by decide)
  rw [hsplit] at hlength ⊢
  obtain ⟨front, back, hfound⟩ := sanitizeBanner_word hne hletters hlength
  refine decide_eq_true ?_
  rw [String.toUpper, String.toList_map, ← hfound, List.map_append, List.map_append, hword]
  exact ⟨_, _, rfl⟩

/-! ## The finding -/

/-- The finding about STARTTLS is made for the endpoint. -/
def ReportsStarttls (address : SocketAddr) (hostname : String) (meeting : ProbeMeeting) : Prop :=
  ∃ observation, probe address hostname meeting = some observation ∧
    smtpFindings observation ≠ []

/-- The bytes of an exchange that comes to its end. -/
def ProbeMeeting.seen (meeting : ProbeMeeting) (hostname : String) : Option (List UInt8) :=
  if meeting.cancelled || !meeting.connected then none else meeting.exchangeEhlo hostname

/-- A greeting and the digits 250, with no word on STARTTLS. -/
structure LooksUnencrypted (banner : String) : Prop where
  greets : hasStart "220 " banner.toUpper = true
  replies : hasText "250" banner = true
  silent : hasText "STARTTLS" banner.toUpper = false

/-- What starts with 220 starts with no other mark. -/
theorem hasStart_of_greets {banner : String} (h : hasStart "220 " banner.toUpper = true) :
    hasStart "SSH-" banner = false ∧ hasStart "HTTP/" banner.toUpper = false := by
  rw [hasStart, List.isPrefixOf_iff_prefix, String.toUpper, String.toList_map] at h
  simp only [hasStart, String.toUpper, String.toList_map]
  have hmark : "220 ".toList = ['2', '2', '0', ' '] := by decide
  have hssh : "SSH-".toList = ['S', 'S', 'H', '-'] := by decide
  have hhttp : "HTTP/".toList = ['H', 'T', 'T', 'P', '/'] := by decide
  rw [hmark] at h
  rw [hssh, hhttp]
  cases hchars : banner.toList with
  | nil =>
    rw [hchars] at h
    exact absurd (List.prefix_nil.mp h) (by decide)
  | cons c cs =>
    rw [hchars, List.map_cons, List.cons_prefix_cons] at h
    have hfirst : 'S' ≠ c := by
      rintro rfl
      exact absurd h.1 (by decide)
    rw [List.map_cons, ← h.1]
    simp [List.isPrefixOf, hfirst]

theorem classifyBanner_smtp {port : Nat} (hport : port = 25 ∨ port = 587) (banner : String) :
    classifyBanner banner port = (.smtp, .high) ↔ hasStart "220 " banner.toUpper = true := by
  have hmem : port ∈ [25, 587] := by simpa using hport
  constructor
  · intro h
    by_contra hgreets
    unfold classifyBanner at h
    simp only [hmem, hgreets, and_false, if_false] at h
    repeat' split at h
    all_goals
      obtain ⟨hkind, hconfidence⟩ := Prod.mk.inj h
      first
        | cases hconfidence; done
        | cases hkind
  · intro h
    obtain ⟨hssh, hhttp⟩ := hasStart_of_greets h
    unfold classifyBanner
    simp only [hssh, hhttp, hmem, h, Bool.false_eq_true, if_false, and_self, if_true]

theorem smtpDetails_starttls (banner : String) :
    (smtpDetails banner).get "starttls" = none ↔ hasText "STARTTLS" banner.toUpper = false := by
  have hstarttls : "STARTTLS".toLower = "starttls" := toLower_eq (by decide)
  have hauth : "AUTH".toLower = "auth" := toLower_eq (by decide)
  have hsize : "SIZE".toLower = "size" := toLower_eq (by decide)
  have hskip {details : OrdMap String String} {name : String} (present : Bool)
      (hne : "starttls" ≠ name) :
      (if present then details.insert name "advertised" else details).get "starttls" =
        details.get "starttls" := by
    split
    · rw [OrdMap.get_insert, if_neg hne]
    · rfl
  simp only [smtpDetails, List.foldl_cons, List.foldl_nil, hstarttls, hauth, hsize]
  rw [hskip _ (by decide), hskip _ (by decide)]
  cases hasText "STARTTLS" banner.toUpper <;> simp [OrdMap.get_insert]

/-- What of a banner makes the finding. -/
theorem smtpFindings_iff {address : SocketAddr} (hport : address.port = 25 ∨ address.port = 587)
    (banner : String) :
    smtpFindings (bannerObservation address banner) ≠ [] ↔ LooksUnencrypted banner := by
  have hclassified : (bannerObservation address banner).service = .smtp ∧
      (bannerObservation address banner).confidence = .high ↔
        hasStart "220 " banner.toUpper = true := by
    rw [← classifyBanner_smtp hport]
    exact ⟨fun h => Prod.ext h.1 h.2, fun h => ⟨congrArg Prod.fst h, congrArg Prod.snd h⟩⟩
  have hbanner : (bannerObservation address banner).banner.any (hasText "250") =
      hasText "250" banner := by
    show (if banner = "" then none else some banner).any (hasText "250") = _
    split
    · rename_i hempty
      rw [hempty]
      decide
    · rfl
  have hdetails (hsmtp : (bannerObservation address banner).service = .smtp) :
      (bannerObservation address banner).protocolDetails = smtpDetails banner := if_pos hsmtp
  have hfound (P : Prop) [Decidable P] (finding : Finding) :
      (if P then [finding] else []) ≠ [] ↔ P := by
    split <;> simp_all
  rw [smtpFindings, hfound, ← and_assoc, hclassified, hbanner]
  constructor
  · rintro ⟨hgreets, hreplies, hnone⟩
    rw [hdetails (hclassified.mpr hgreets).1] at hnone
    exact ⟨hgreets, hreplies, (smtpDetails_starttls banner).mp hnone⟩
  · intro h
    refine ⟨h.greets, h.replies, ?_⟩
    rw [hdetails (hclassified.mpr h.greets).1]
    exact (smtpDetails_starttls banner).mpr h.silent

theorem smtpFindings_hint (address : SocketAddr) : smtpFindings (hintObservation address) = [] := by
  unfold smtpFindings hintObservation
  exact if_neg fun h => by cases h.2.1

theorem reportsStarttls_iff {address : SocketAddr}
    (hport : address.port = 25 ∨ address.port = 587) (hostname : String)
    (meeting : ProbeMeeting) :
    ReportsStarttls address hostname meeting ↔
      ∃ bytes, meeting.seen hostname = some bytes ∧ LooksUnencrypted (sanitizeBanner bytes) := by
  have hbehavior : probeBehavior address.port = .smtpEhlo := if_pos (by simpa using hport)
  unfold ReportsStarttls probe ProbeMeeting.seen
  cases meeting.cancelled with
  | true => simp
  | false =>
    cases hconnected : meeting.connected with
    | false => simp [probeInner, hconnected, smtpFindings_hint]
    | true =>
      cases hbytes : meeting.exchangeEhlo hostname with
      | none => simp [probeInner, hconnected, hbehavior, ProbeMeeting.bannerBytes, hbytes,
          smtpFindings_hint]
      | some bytes => simp [probeInner, hconnected, hbehavior, ProbeMeeting.bannerBytes, hbytes,
          ← smtpFindings_iff hport]

theorem readSome_prefix (stream : List UInt8) (room count : Nat) :
    readSome stream room count <+: stream ∧ (readSome stream room count).length ≤ room :=
  ⟨List.take_prefix _ _, (List.length_take_le _ _).trans (Nat.min_le_right _ _)⟩

/-- The bytes that were read are the first ones of the stream, within the bound. -/
theorem seen_prefix {hostname : String} {meeting : ProbeMeeting} {bytes : List UInt8}
    (h : meeting.seen hostname = some bytes) :
    bytes <+: meeting.stream ∧ bytes.length ≤ maxBannerBytes := by
  unfold ProbeMeeting.seen at h
  split at h
  · cases h
  · unfold ProbeMeeting.exchangeEhlo at h
    split at h
    · cases h
    · rename_i greeting hgreeting
      obtain ⟨count, -, rfl⟩ := Option.map_eq_some_iff.mp hgreeting
      obtain ⟨hfront, hroom⟩ := readSome_prefix meeting.stream maxBannerBytes count
      generalize readSome meeting.stream maxBannerBytes count = greeting at h hfront hroom
      split at h
      · split at h
        · obtain ⟨more, -, rfl⟩ := Option.map_eq_some_iff.mp h
          obtain ⟨rest, hrest⟩ := hfront
          rw [← hrest, List.drop_left]
          obtain ⟨hfront', hroom'⟩ :=
            readSome_prefix rest (maxBannerBytes - greeting.length) more
          refine ⟨(List.prefix_append_right_inj _).mpr hfront', ?_⟩
          rw [List.length_append]
          omega
        · cases h
      · cases h
        exact ⟨hfront, hroom⟩

/-- The two reads leave out what matters: there is no complete reply, or a line of it that
advertises STARTTLS ends behind them. -/
def Missed (stream : List UInt8) (length : Nat) : Prop :=
  ehloReply stream = none ∨
    ∃ greeting before line after, ehloReply stream = some (greeting, before ++ line :: after) ∧
      advertisesStarttls line = true ∧ length < (greeting ++ before ++ [line]).flatten.length

/-- The exchange looks unencrypted although what matters was left out. -/
def Misread (hostname : String) (meeting : ProbeMeeting) : Prop :=
  ∃ bytes, meeting.seen hostname = some bytes ∧ LooksUnencrypted (sanitizeBanner bytes) ∧
    Missed meeting.stream bytes.length

/-- A finding means a complete reply without STARTTLS exactly when the exchange is not misread. -/
theorem starttls_finding_iff {address : SocketAddr}
    (hport : address.port = 25 ∨ address.port = 587) (hostname : String)
    (meeting : ProbeMeeting) :
    (ReportsStarttls address hostname meeting → RepliesWithoutStarttls meeting.stream) ↔
      ¬ Misread hostname meeting := by
  rw [reportsStarttls_iff hport]
  constructor
  · rintro hreplies ⟨bytes, hseen, hlooks, hmissed⟩
    obtain ⟨greeting, reply, hreply, hnone⟩ := hreplies ⟨bytes, hseen, hlooks⟩
    rcases hmissed with hincomplete | ⟨greeting', before, line, after, hreply', hline, -⟩
    · rw [hreply] at hincomplete
      cases hincomplete
    · rw [hreply] at hreply'
      cases hreply'
      have hsilent := hnone line (List.mem_append_right _ List.mem_cons_self)
      rw [hline] at hsilent
      cases hsilent
  · rintro hread ⟨bytes, hseen, hlooks⟩
    obtain ⟨hfront, hroom⟩ := seen_prefix hseen
    cases hreply : ehloReply meeting.stream with
    | none => exact absurd ⟨bytes, hseen, hlooks, .inl hreply⟩ hread
    | some parts =>
      obtain ⟨greeting, reply⟩ := parts
      refine ⟨greeting, reply, hreply, fun line hline => ?_⟩
      by_contra hadvertises
      rw [Bool.not_eq_false] at hadvertises
      obtain ⟨before, after, rfl⟩ := List.append_of_mem hline
      refine hread ⟨bytes, hseen, hlooks, .inr ⟨greeting, before, line, after, hreply, hadvertises,
        not_le.mp fun hwhole => ?_⟩⟩
      -- the line was read whole, so that the banner shows it
      obtain ⟨⟨more, hmore⟩, -⟩ := ehloReply_spec hreply
      have hline : (greeting ++ before ++ [line]).flatten <+: bytes := by
        refine List.prefix_of_prefix_length_le ?_ hfront hwhole
        refine ⟨after.flatten ++ more, ?_⟩
        rw [← hmore]
        simp
      obtain ⟨rest, rfl⟩ := hline
      rw [List.flatten_append, List.flatten_singleton] at hlooks hroom
      have hshown := seen_starttls hadvertises hroom
      rw [hlooks.silent] at hshown
      cases hshown

/-! ### A reply in two segments -/

def asciiBytes (text : String) : List UInt8 := text.toList.map fun c => UInt8.ofNat c.toNat

/-- The second read ends with the first line of the reply. -/
def segmentedMeeting : ProbeMeeting where
  cancelled := false
  connected := true
  writes := fun _ => true
  stream := asciiBytes
    "220 mx.example.com ESMTP\r\n250-mx.example.com\r\n250 STARTTLS\r\n"
  first := some 25
  second := some 19

def mailEndpoint : SocketAddr := ⟨.v4 0xc0000201#32, 25⟩

theorem segmented_looks : ∃ bytes, segmentedMeeting.seen "example.com" = some bytes ∧
    LooksUnencrypted (sanitizeBanner bytes) := by
  refine ⟨asciiBytes "220 mx.example.com ESMTP\r\n250-mx.example.com\r\n", by decide +kernel, ?_⟩
  constructor
  · rw [hasStart, String.toUpper, String.toList_map]
    decide +kernel
  · decide +kernel
  · rw [hasText, String.toUpper, String.toList_map]
    decide +kernel

/-- The finding is made although the server advertises STARTTLS. -/
theorem starttls_segmented :
    ReportsStarttls mailEndpoint "example.com" segmentedMeeting ∧
      ¬ RepliesWithoutStarttls segmentedMeeting.stream := by
  refine ⟨(reportsStarttls_iff (.inl rfl) _ _).mpr segmented_looks, ?_⟩
  rintro ⟨greeting, reply, hreply, hnone⟩
  have hadvertises : (ehloReply segmentedMeeting.stream).any
      (fun parts => parts.2.any advertisesStarttls) = true := by decide +kernel
  rw [hreply, Option.any_some, List.any_eq_true] at hadvertises
  obtain ⟨line, hline, hstarttls⟩ := hadvertises
  rw [hnone line hline] at hstarttls
  cases hstarttls

theorem starttls_finding_iff_segmented :
    (ReportsStarttls mailEndpoint "example.com" segmentedMeeting →
        RepliesWithoutStarttls segmentedMeeting.stream) ↔
      ¬ Misread "example.com" segmentedMeeting :=
  starttls_finding_iff (.inl rfl) _ _

end Surface

import Surface.Ssh.Kexinit

/-!
# Surface.Ssh.KexinitFormat

`parseKexinit` accepts the KEXINIT format and nothing else.

* the texts, the numbers and the primitives of the cursor as exact readers.
* `ValidNameList`, `encodeNameList`, `KexInitFormat`: the format.
* `parseKexinit_exact`: the parser returns ten lists exactly on their encodings.
-/

namespace Surface

/-! ## Texts -/

theorem utf8Bytes_eq_nil_iff {text : String} : utf8Bytes text = [] ↔ text = "" := by
  rw [← fromUtf8_eq_some_iff]
  have hempty : fromUtf8 [] = some "" := fromUtf8_eq_some_iff.mpr (by decide)
  rw [hempty]
  simp [eq_comm]

theorem joinNames_splitText (text : String) : joinNames (splitText ',' text) = text :=
  intercalate_splitText (by decide) text

theorem splitText_joinNames {names : List String} (hne : names ≠ [])
    (hcomma : ∀ name ∈ names, ',' ∉ name.toList) : splitText ',' (joinNames names) = names :=
  splitText_intercalate (by decide) hne hcomma

/-! ## Names -/

/-- A comma of a text is a byte of its encoding. -/
theorem comma_mem_utf8Bytes {text : String} (h : ',' ∈ text.toList) : 44 ∈ utf8Bytes text := by
  rw [utf8Bytes_eq_flatMap]
  exact List.mem_flatMap.mpr ⟨',', h, by decide⟩

theorem validAlgorithmName_ne {name : String} (h : validAlgorithmName name = true) :
    name ≠ "" := by
  intro hname
  subst hname
  simp [validAlgorithmName] at h

theorem validAlgorithmName_comma {name : String} (h : validAlgorithmName name = true) :
    ',' ∉ name.toList := by
  intro hcomma
  have hbyte := comma_mem_utf8Bytes hcomma
  unfold validAlgorithmName at h
  split at h
  · cases h
  · rename_i hchecks
    rw [Bool.or_eq_true, not_or, Bool.not_eq_true', Bool.not_eq_false, List.all_eq_true] at hchecks
    have hcheck := hchecks.2 44 hbyte
    simp at hcheck

/-! ## Numbers -/

theorem u32FromBeBytes_lt (a b c d : UInt8) : u32FromBeBytes a b c d < 2 ^ 32 := by
  have ha := a.toNat_lt
  have hb := b.toNat_lt
  have hc := c.toNat_lt
  have hd := d.toNat_lt
  unfold u32FromBeBytes
  omega

theorem u32ToBeBytes_fromBeBytes (a b c d : UInt8) :
    u32ToBeBytes (u32FromBeBytes a b c d) = [a, b, c, d] := by
  have ha := a.toNat_lt
  have hb := b.toNat_lt
  have hc := c.toNat_lt
  have hd := d.toNat_lt
  have hbyte : ∀ (n : Nat) (byte : UInt8), n % 2 ^ 8 = byte.toNat → UInt8.ofNat n = byte := by
    intro n byte h
    rw [← UInt8.toNat_inj, UInt8.toNat_ofNat', h]
  unfold u32ToBeBytes u32FromBeBytes
  rw [hbyte _ a (by omega), hbyte _ b (by omega), hbyte _ c (by omega), hbyte _ d (by omega)]

theorem u32FromBeBytes_toBeBytes {n : Nat} (h : n < 2 ^ 32) :
    u32FromBeBytes (UInt8.ofNat (n / 2 ^ 24)) (UInt8.ofNat (n / 2 ^ 16)) (UInt8.ofNat (n / 2 ^ 8))
      (UInt8.ofNat n) = n := by
  unfold u32FromBeBytes
  simp only [UInt8.toNat_ofNat']
  omega

/-! ## The cursor -/

def cursorPointer : Pointer Cursor UInt8 where
  items cursor := cursor.bytes
  position cursor := cursor.position
  position_le cursor := cursor.position_le
  move cursor n h := { cursor with position := n, position_le := h }
  items_move _ _ _ := rfl
  position_move _ _ _ := rfl
  move_position _ := rfl
  move_move _ _ _ _ _ _ := rfl

def cursorFeed : Feed Cursor UInt8 := cursorPointer.feed

theorem length_rest (cursor : Cursor) :
    (cursorFeed.rest cursor).length = cursor.bytes.length - cursor.position :=
  List.length_drop

namespace Cursor

theorem reads_take (n : Nat) :
    Reads cursorFeed (take n) fun bytes w _ => w.length = n ∧ w = bytes := by
  refine cursorPointer.reads_next (fun w a b ha hb => ha.symm.trans hb) ?_ ?_
  · intro cursor h
    have hle : cursor.position + n ≤ cursor.bytes.length := h
    have hlt := cursor.length_lt
    refine ⟨_, rfl, ?_⟩
    rw [take, Reader.outcome_mk, if_neg (by omega), dif_pos hle]
    rfl
  · intro cursor h
    have hle : ¬ cursor.position + n ≤ cursor.bytes.length := h
    rw [take, Reader.outcome_mk]
    by_cases hoverflow : cursor.position + n ≥ 2 ^ 64
    · exact ⟨_, _, by rw [if_pos hoverflow]⟩
    · exact ⟨_, _, by rw [if_neg hoverflow, dif_neg hle]⟩

theorem reads_remaining :
    Reads cursorFeed remaining fun n w v => n = v.length ∧ w = [] := by
  intro cursor n cursor'
  rw [remaining, Reader.outcome_mk]
  constructor
  · intro h
    cases h
    refine ⟨[], cursorFeed.rest cursor, rfl, ⟨?_, rfl⟩, (cursorFeed.advance_zero cursor).symm⟩
    exact (length_rest cursor).symm
  · rintro ⟨w, v, hrest, ⟨rfl, rfl⟩, rfl⟩
    have hlength := length_rest cursor
    rw [hrest, List.nil_append] at hlength
    rw [List.length_nil, cursorFeed.advance_zero, hlength]

theorem reads_byte : Reads cursorFeed byte fun b w _ => w = [b] := by
  refine ((reads_take 1).bind fun bytes => reads_pure (bytes.headD 0)).congr (fun b w v => ?_)
  constructor
  · rintro ⟨bytes, u, u', rfl, ⟨hlength, rfl⟩, rfl, rfl⟩
    obtain ⟨b, rfl⟩ := List.length_eq_one_iff.mp hlength
    rfl
  · rintro rfl
    exact ⟨[b], [b], [], rfl, ⟨rfl, rfl⟩, rfl, rfl⟩

theorem reads_u32 : Reads cursorFeed u32 fun n w _ => n < 2 ^ 32 ∧ w = u32ToBeBytes n := by
  refine ((reads_take 4).bind (G := fun bytes n w _ =>
    (∃ a b c d, bytes = [a, b, c, d] ∧ n = u32FromBeBytes a b c d) ∧ w = []) fun bytes => ?_).congr
      (fun n w v => ?_)
  · split
    · rename_i a b c d
      refine (reads_pure _).congr (fun n w v => and_congr_left fun _ => ?_)
      constructor
      · rintro rfl
        exact ⟨a, b, c, d, rfl, rfl⟩
      · rintro ⟨_, _, _, _, hbytes, rfl⟩
        cases hbytes
        rfl
    · rename_i hbytes
      refine (reads_throw _).congr (fun n w v => iff_of_false id ?_)
      rintro ⟨⟨a, b, c, d, rfl, _⟩, _⟩
      exact hbytes a b c d rfl
  · constructor
    · rintro ⟨bytes, u, u', rfl, ⟨_, rfl⟩, ⟨a, b, c, d, rfl, rfl⟩, rfl⟩
      rw [u32ToBeBytes_fromBeBytes, List.append_nil]
      exact ⟨u32FromBeBytes_lt a b c d, rfl⟩
    · rintro ⟨hn, rfl⟩
      refine ⟨u32ToBeBytes n, u32ToBeBytes n, [], (List.append_nil _).symm, ⟨rfl, rfl⟩, ?_, rfl⟩
      exact ⟨_, _, _, _, rfl, (u32FromBeBytes_toBeBytes hn).symm⟩

end Cursor

/-! ## Lists of names -/

/-- What a list of names may be: the empty list has the empty text. -/
structure ValidNameList (names : List String) : Prop where
  length_le : names.length ≤ maxAlgorithmNames
  valid : ∀ name ∈ names, validAlgorithmName name = true
  bytes_le : (utf8Bytes (joinNames names)).length ≤ maxNameListBytes

def encodeNameList (names : List String) : List UInt8 :=
  u32ToBeBytes (utf8Bytes (joinNames names)).length ++ utf8Bytes (joinNames names)

example : encodeNameList [] = [0, 0, 0, 0] := by decide

theorem joinNames_eq_empty {names : List String} (h : ∀ name ∈ names, validAlgorithmName name = true)
    (hempty : joinNames names = "") : names = [] := by
  by_contra hne
  have hsplit := splitText_joinNames hne fun name hname => validAlgorithmName_comma (h name hname)
  rw [hempty] at hsplit
  have hone : splitText ',' "" = [""] := by decide
  rw [hone] at hsplit
  subst hsplit
  exact validAlgorithmName_ne (h "" List.mem_cons_self) rfl

namespace Cursor

theorem reads_names (bytes : List UInt8) :
    Reads cursorFeed (names bytes) fun names w _ =>
      (names.length ≤ maxAlgorithmNames ∧ (∀ name ∈ names, validAlgorithmName name = true) ∧
        utf8Bytes (joinNames names) = bytes) ∧ w = [] := by
  have hjoin : utf8Bytes (joinNames []) = [] := by decide
  unfold Cursor.names
  cases bytes with
  | nil =>
    refine (reads_pure []).congr (fun names w v => and_congr_left fun _ => ?_)
    constructor
    · rintro rfl
      exact ⟨Nat.zero_le _, by simp, hjoin⟩
    · rintro ⟨_, hvalid, hbytes⟩
      exact joinNames_eq_empty hvalid (utf8Bytes_eq_nil_iff.mp hbytes)
  | cons byte bytes =>
    cases htext : fromUtf8 (byte :: bytes) with
    | none =>
      simp only [List.isEmpty_cons, Bool.false_eq_true, if_false]
      refine (reads_throw _).congr (fun names w v => iff_of_false id ?_)
      rintro ⟨⟨_, _, hbytes⟩, _⟩
      rw [← fromUtf8_eq_some_iff, htext] at hbytes
      cases hbytes
    | some text =>
      simp only [List.isEmpty_cons, Bool.false_eq_true, if_false]
      have hbytes : utf8Bytes text = byte :: bytes := fromUtf8_eq_some_iff.mp htext
      refine (Reads.guard fun _ => Reads.guard fun _ => reads_pure (splitText ',' text)).congr
        (fun names w v => ?_)
      constructor
      · rintro ⟨hcount, hvalid, rfl, rfl⟩
        refine ⟨⟨Nat.not_lt.mp hcount, ?_, by rw [joinNames_splitText, hbytes]⟩, rfl⟩
        simpa using hvalid
      · rintro ⟨⟨hcount, hvalid, hnames⟩, rfl⟩
        have htext' : joinNames names = text := by
          rw [← fromUtf8_eq_some_iff, htext] at hnames
          exact (Option.some.inj hnames).symm
        have hne : names ≠ [] := by
          rintro rfl
          rw [hjoin] at hnames
          cases hnames
        have hsplit : splitText ',' text = names := by
          rw [← htext']
          exact splitText_joinNames hne fun name hname =>
            validAlgorithmName_comma (hvalid name hname)
        rw [hsplit]
        exact ⟨Nat.not_lt.mpr hcount, by simpa using hvalid, rfl, rfl⟩

theorem reads_nameList :
    Reads cursorFeed nameList fun names w _ => ValidNameList names ∧ w = encodeNameList names := by
  refine (reads_u32.bind fun length => Reads.guard fun _ =>
    (reads_take length).bind reads_names).congr (fun names w v => ?_)
  constructor
  · rintro ⟨length, u, u', rfl, ⟨_, rfl⟩, hlength, bytes, u₁, u₂, rfl, ⟨rfl, rfl⟩,
      ⟨hcount, hvalid, rfl⟩, rfl⟩
    rw [List.append_nil]
    exact ⟨⟨hcount, hvalid, Nat.not_lt.mp hlength⟩, rfl⟩
  · rintro ⟨⟨hcount, hvalid, hlength⟩, rfl⟩
    have hlt : (utf8Bytes (joinNames names)).length < 2 ^ 32 := by
      have hmax : maxNameListBytes < 2 ^ 32 := by decide
      omega
    exact ⟨_, _, _, rfl, ⟨hlt, rfl⟩, Nat.not_lt.mpr hlength, _, _, [],
      (List.append_nil _).symm, ⟨rfl, rfl⟩, ⟨hcount, hvalid, rfl⟩, rfl⟩

end Cursor

/-! ## The message -/

/-- The bytes of a KEXINIT message that carries ten lists. -/
structure KexInitFormat (lists : List (List String)) (payload : List UInt8) : Prop where
  length_eq : lists.length = 10
  valid : ∀ names ∈ lists, ValidNameList names
  bytes_eq : ∃ (cookie : List UInt8) (follows : UInt8), cookie.length = 16 ∧
    (follows = 0 ∨ follows = 1) ∧
    payload = sshMsgKexinit :: cookie ++ lists.flatMap encodeNameList ++ [follows, 0, 0, 0, 0]

theorem Cursor.reads_kexinit :
    Reads cursorFeed kexinit fun message w v => KexInitFormat message.lists w ∧ v = [] := by
  have hzero : u32ToBeBytes 0 = [0, 0, 0, 0] := by decide
  refine (reads_byte.bind fun message => Reads.guard fun _ => (reads_take 16).bind fun _ =>
    (Reads.times reads_nameList 10).bind fun lists => reads_byte.bind fun follows =>
      Reads.guard fun _ => reads_u32.bind fun reserved => Reads.guard fun _ =>
        reads_remaining.bind fun remaining => Reads.guard fun _ =>
          reads_pure (⟨lists⟩ : KexInit)).congr (fun kexinit w v => ?_)
  constructor
  · rintro ⟨message, _, _, rfl, rfl, hmessage, cookie, _, _, rfl, ⟨hcookie, rfl⟩, lists, _, _, rfl,
      ⟨hlength, hvalid, rfl⟩, follows, _, _, rfl, rfl, hfollows, reserved, _, _, rfl, ⟨_, rfl⟩,
      hreserved, remaining, _, _, rfl, ⟨rfl, rfl⟩, hremaining, rfl, rfl⟩
    obtain rfl : message = sshMsgKexinit := not_not.mp hmessage
    obtain rfl : reserved = 0 := not_not.mp hreserved
    have hnil : v = [] := List.eq_nil_of_length_eq_zero (not_not.mp hremaining)
    refine ⟨⟨hlength, hvalid, _, follows, hcookie, not_not.mp hfollows, ?_⟩, hnil⟩
    rw [hzero]
    simp
  · rintro ⟨⟨hlength, hvalid, cookie, follows, hcookie, hfollows, rfl⟩, rfl⟩
    refine ⟨sshMsgKexinit, _, cookie ++ (kexinit.lists.flatMap encodeNameList ++
      ([follows] ++ (u32ToBeBytes 0 ++ []))), ?_, rfl, not_not.mpr rfl, cookie, _, _, rfl,
      ⟨hcookie, rfl⟩, kexinit.lists, _, _, rfl, ⟨hlength, hvalid, rfl⟩, follows, _, _, rfl, rfl,
      not_not.mpr hfollows, 0, _, [], rfl, ⟨by decide, rfl⟩, not_not.mpr rfl, 0, [], [], rfl,
      ⟨rfl, rfl⟩, not_not.mpr rfl, rfl, rfl⟩
    rw [hzero]
    simp

/-! ## The parser -/

theorem parseKexinit_iff (payload : ByteSlice) (lists : List (List String)) :
    parseKexinit payload = .ok ⟨lists⟩ ↔ KexInitFormat lists payload.bytes := by
  have hrest : cursorFeed.rest (Cursor.new payload) = payload.bytes := rfl
  constructor
  · intro h
    obtain ⟨w, v, hw, ⟨hformat, rfl⟩, _⟩ :=
      (Cursor.reads_kexinit (Cursor.new payload) ⟨lists⟩ _).mp (Prod.ext h rfl)
    rw [hrest, List.append_nil] at hw
    rw [hw]
    exact hformat
  · intro h
    have houtcome := (Cursor.reads_kexinit (Cursor.new payload) ⟨lists⟩ _).mpr
      ⟨payload.bytes, [], by rw [hrest, List.append_nil], ⟨h, rfl⟩, rfl⟩
    rw [parseKexinit, houtcome]

/-! ## The encoder -/

theorem appendNameList_eq {names : List String} (h : ValidNameList names) (payload : List UInt8) :
    appendNameList payload names = some (payload ++ encodeNameList names) := by
  have hlt : (utf8Bytes (joinNames names)).length < 2 ^ 32 := by
    have hmax : maxNameListBytes < 2 ^ 32 := by decide
    have hle := h.bytes_le
    omega
  simp only [appendNameList, if_pos hlt, encodeNameList, List.append_assoc]

theorem foldlM_appendNameList {lists : List (List String)} :
    (∀ names ∈ lists, ValidNameList names) → ∀ payload : List UInt8,
      lists.foldlM appendNameList payload = some (payload ++ lists.flatMap encodeNameList) := by
  induction lists with
  | nil =>
    intro _ payload
    simp
  | cons names lists ih =>
    intro hvalid payload
    obtain ⟨hnames, hlists⟩ := List.forall_mem_cons.mp hvalid
    rw [List.foldlM_cons, appendNameList_eq hnames, Option.bind_eq_bind, Option.bind_some,
      ih hlists, List.flatMap_cons, List.append_assoc]

theorem length_flatMap_encodeNameList {lists : List (List String)} :
    (∀ names ∈ lists, ValidNameList names) →
      (lists.flatMap encodeNameList).length ≤ lists.length * (4 + maxNameListBytes) := by
  induction lists with
  | nil => simp
  | cons names lists ih =>
    intro hvalid
    obtain ⟨hnames, hlists⟩ := List.forall_mem_cons.mp hvalid
    have hle := hnames.bytes_le
    have hrest := ih hlists
    have hlength : (encodeNameList names).length = 4 + (utf8Bytes (joinNames names)).length := by
      rw [encodeNameList, List.length_append]
      rfl
    rw [List.flatMap_cons, List.length_append, List.length_cons, Nat.add_mul]
    omega

/-- The parser accepts exactly the format, so it gives back what has been encoded. -/
theorem parseKexinit_exact :
    (∀ (payload : ByteSlice) (lists : List (List String)),
      parseKexinit payload = .ok ⟨lists⟩ ↔ KexInitFormat lists payload.bytes) ∧
    ∀ (cookie : List UInt8) (lists : List (List String)) (follows : UInt8), cookie.length = 16 →
      lists.length = 10 → (∀ names ∈ lists, ValidNameList names) → follows = 0 ∨ follows = 1 →
        ∃ payload : ByteSlice, kexinitPayload cookie lists follows = some payload.bytes ∧
          parseKexinit payload = .ok ⟨lists⟩ := by
  refine ⟨parseKexinit_iff, fun cookie lists follows hcookie hlength hvalid hfollows => ?_⟩
  have hbytes : kexinitPayload cookie lists follows = some (sshMsgKexinit :: cookie ++
      lists.flatMap encodeNameList ++ [follows, 0, 0, 0, 0]) := by
    rw [kexinitPayload, foldlM_appendNameList hvalid]
    rfl
  have hlt : (sshMsgKexinit :: cookie ++ lists.flatMap encodeNameList ++
      [follows, 0, 0, 0, 0]).length < 2 ^ 63 := by
    have hle := length_flatMap_encodeNameList hvalid
    simp only [maxNameListBytes, hlength] at hle
    simp only [List.length_append, List.length_cons, hcookie, List.length_nil]
    omega
  refine ⟨⟨_, hlt⟩, hbytes, (parseKexinit_iff _ _).mpr ?_⟩
  exact ⟨hlength, hvalid, cookie, follows, hcookie, hfollows, rfl⟩

end Surface

import Surface.NetText

/-!
# Surface.NetParse

Reading the text of an address, the way the standard library's parser does: octets and segments
one after the other, with the longest run of digits for each.

`parseUnsigned_toString`: the text of a number is read as that number.
`parse_display`: the text of an address is read as that address.
`parse_last`: without colons, an address ends in a label of digits.
-/

namespace Surface

/-! ## Digits -/

def digitValue (c : Char) : Option Nat :=
  if '0' ≤ c ∧ c ≤ '9' then some (c.toNat - 48)
  else if 'a' ≤ c ∧ c ≤ 'z' then some (c.toNat - 87)
  else if 'A' ≤ c ∧ c ≤ 'Z' then some (c.toNat - 55)
  else none

def toDigit (radix : Nat) (c : Char) : Option Nat := (digitValue c).filter (· < radix)

def isRadixDigit (radix : Nat) (c : Char) : Bool := (toDigit radix c).isSome

/-- The number that digits stand for, the most significant one first. -/
def joinDigits (base : Nat) (digits : List Nat) : Nat :=
  digits.foldl (fun number digit => number * base + digit) 0

theorem joinDigits_concat (base : Nat) (digits : List Nat) (digit : Nat) :
    joinDigits base (digits ++ [digit]) = joinDigits base digits * base + digit := by
  rw [joinDigits, List.foldl_append]
  rfl

/-- The digits of a number, cut out one by one, stand for it. -/
theorem joinDigits_range {base : Nat} (k n : Nat) :
    joinDigits base ((List.range k).map fun i => n / base ^ (k - 1 - i) % base) = n % base ^ k := by
  induction k generalizing n with
  | zero =>
    rw [Nat.pow_zero, Nat.mod_one]
    rfl
  | succ k ih =>
    have hfront : (List.range k).map (fun i => n / base ^ (k + 1 - 1 - i) % base) =
        (List.range k).map fun i => n / base / base ^ (k - 1 - i) % base := by
      refine List.map_congr_left fun i hi => ?_
      have hpow : k + 1 - 1 - i = (k - 1 - i) + 1 := by
        have := List.mem_range.mp hi
        omega
      rw [hpow, Nat.pow_succ', Nat.div_div_eq_div_mul]
    have hlast : k + 1 - 1 - k = 0 := by omega
    rw [List.range_succ, List.map_append, List.map_singleton, joinDigits_concat, hfront, ih, hlast,
      Nat.pow_zero, Nat.div_one, Nat.pow_succ', Nat.mod_mul, Nat.mul_comm base, Nat.add_comm]

theorem digitValue_digitChar : ∀ n < 16, digitValue n.digitChar = some n := by decide

theorem toDigit_digitChar {radix n : Nat} (hle : radix ≤ 16) (hn : n < radix) :
    toDigit radix n.digitChar = some n := by
  rw [toDigit, digitValue_digitChar n (Nat.lt_of_lt_of_le hn hle)]
  simp [hn]

section Radix

variable {radix : Nat}

/-- Read back digit by digit, the digits of a number give the number. -/
theorem toDigits_read (hb : 1 < radix) (hle : radix ≤ 16) (n : Nat) :
    (∀ c ∈ Nat.toDigits radix n, isRadixDigit radix c = true) ∧
      joinDigits radix ((Nat.toDigits radix n).filterMap (toDigit radix)) = n := by
  induction n using Nat.strongRecOn with
  | ind n ih =>
    have hmod : n % radix < radix := Nat.mod_lt n (Nat.zero_lt_of_lt hb)
    rw [Nat.toDigits_eq_if hb]
    split
    · rename_i hn
      have hdigit := toDigit_digitChar hle hn
      refine ⟨fun c hc => ?_, ?_⟩
      · rw [List.mem_singleton.mp hc, isRadixDigit, hdigit]
        rfl
      · rw [List.filterMap_cons_some hdigit, List.filterMap_nil]
        simp [joinDigits]
    · rename_i hn
      have hdigit := toDigit_digitChar hle hmod
      obtain ⟨hall, hvalue⟩ := ih (n / radix) (Nat.div_lt_self (by omega) hb)
      refine ⟨fun c hc => ?_, ?_⟩
      · rcases List.mem_append.mp hc with hc | hc
        · exact hall c hc
        · rw [List.mem_singleton.mp hc, isRadixDigit, hdigit]
          rfl
      · rw [List.filterMap_append, List.filterMap_cons_some hdigit, List.filterMap_nil,
          joinDigits_concat, hvalue, Nat.mul_comm, Nat.div_add_mod]

/-- Only zero is written with a leading zero. -/
theorem toDigits_head (hb : 1 < radix) (hle : radix ≤ 16) {n : Nat}
    (h : (Nat.toDigits radix n).head? = some '0') : (Nat.toDigits radix n).length = 1 := by
  have hpos : ∀ n, 0 < n → (Nat.toDigits radix n).head? ≠ some '0' := by
    intro n
    induction n using Nat.strongRecOn with
    | ind n ih =>
      intro hn hhead
      rw [Nat.toDigits_eq_if hb] at hhead
      split at hhead
      · rename_i hlt
        have hzero := digitChar_injective n (by omega) 0 (by omega) (Option.some.inj hhead)
        omega
      · rename_i hlt
        rw [List.head?_append_of_ne_nil _ Nat.toDigits_ne_nil] at hhead
        exact ih (n / radix) (Nat.div_lt_self (by omega) hb)
          (Nat.div_pos (by omega) (by omega)) hhead
  rcases Nat.eq_zero_or_pos n with hn | hn
  · rw [hn, Nat.toDigits_zero]
    rfl
  · exact absurd h (hpos n hn)

end Radix

/-! ## Whole numbers -/

/-- The decimal number a text is, below a bound; one sign in front is let through. -/
def parseUnsigned (bound : Nat) (text : String) : Option Nat :=
  let digits := if text.toList.head? = some '+' then text.toList.tail else text.toList
  if digits = [] ∨ digits.all (isRadixDigit 10) = false then none
  else
    let number := joinDigits 10 (digits.filterMap (toDigit 10))
    if number < bound then some number else none

theorem parseUnsigned_lt {bound n : Nat} {text : String} (h : parseUnsigned bound text = some n) :
    n < bound := by
  unfold parseUnsigned at h
  simp only at h
  generalize (if text.toList.head? = some '+' then text.toList.tail else text.toList) = digits at h
  split at h
  · cases h
  · split at h
    · rename_i hlt
      rwa [← Option.some.inj h]
    · cases h

theorem parseUnsigned_toString {bound n : Nat} (h : n < bound) :
    parseUnsigned bound (toString n) = some n := by
  obtain ⟨hall, hvalue⟩ := toDigits_read (by decide : 1 < 10) (by decide) n
  have htext : (toString n).toList = Nat.toDigits 10 n := by
    rw [Nat.toString_eq_ofList_toDigits, String.toList_ofList]
  have hsign : ¬(Nat.toDigits 10 n).head? = some '+' := fun hhead =>
    absurd (hall '+' (List.mem_of_mem_head? hhead)) (by decide)
  have hdigits : ¬(Nat.toDigits 10 n = [] ∨ (Nat.toDigits 10 n).all (isRadixDigit 10) = false) := by
    rintro (hnil | hbad)
    · exact Nat.toDigits_ne_nil hnil
    · rw [List.all_eq_true.mpr hall] at hbad
      cases hbad
  unfold parseUnsigned
  simp only
  rw [htext, if_neg hsign, if_neg hdigits, hvalue, if_pos h]

/-- A number has digits, and a sign at most in front of them. -/
theorem parseUnsigned_chars {bound n : Nat} {text : String}
    (h : parseUnsigned bound text = some n) :
    text.toList ≠ [] ∧ ∀ c ∈ text.toList, c = '+' ∨ isRadixDigit 10 c = true := by
  unfold parseUnsigned at h
  simp only at h
  generalize hdigits :
    (if text.toList.head? = some '+' then text.toList.tail else text.toList) = digits at h
  split at h
  · cases h
  · rename_i hread
    rw [not_or, Bool.not_eq_false, List.all_eq_true] at hread
    cases htext : text.toList with
    | nil =>
      rw [htext] at hdigits
      exact absurd hdigits.symm hread.1
    | cons first rest =>
      rw [htext, List.head?_cons, List.tail_cons] at hdigits
      refine ⟨List.cons_ne_nil _ _, fun c hc => ?_⟩
      by_cases hsign : first = '+'
      · rw [if_pos (congrArg some hsign)] at hdigits
        rcases List.mem_cons.mp hc with rfl | hc
        · exact .inl hsign
        · exact .inr (hread.2 c (hdigits ▸ hc))
      · rw [if_neg fun hhead => hsign (Option.some.inj hhead)] at hdigits
        exact .inr (hread.2 c (hdigits ▸ hc))

/-! ## The reader -/

def readGiven (c : Char) : List Char → Option (List Char)
  | [] => none
  | d :: cs => if d = c then some cs else none

/-- Numbers but the first come after a separator. -/
def readSeparator {α : Type} (separator : Char) (index : Nat)
    (inner : List Char → Option (α × List Char)) (cs : List Char) : Option (α × List Char) :=
  if 0 < index then (readGiven separator cs).bind inner else inner cs

def readNumber (radix maxDigits bound : Nat) (allowZeroPrefix : Bool) (cs : List Char) :
    Option (Nat × List Char) :=
  let digits := cs.takeWhile (isRadixDigit radix)
  if digits = [] ∨ maxDigits < digits.length then none
  else if allowZeroPrefix = false ∧ digits.head? = some '0' ∧ 1 < digits.length then none
  else
    let number := joinDigits radix (digits.filterMap (toDigit radix))
    if number < bound then some (number, cs.dropWhile (isRadixDigit radix)) else none

def readOctet : List Char → Option (Nat × List Char) := readNumber 10 3 256 false

def readSegment : List Char → Option (Nat × List Char) := readNumber 16 4 65536 true

/-- The octets from an index on, as many as are left. -/
def readOctets : Nat → Nat → List Char → Option (List Nat × List Char)
  | _, 0, cs => some ([], cs)
  | index, left + 1, cs =>
    (readSeparator '.' index readOctet cs).bind fun read =>
      (readOctets (index + 1) left read.2).map fun more => (read.1 :: more.1, more.2)

def readIpv4 (cs : List Char) : Option (BitVec 32 × List Char) :=
  (readOctets 0 4 cs).map fun read => (BitVec.ofNat 32 (joinDigits 256 read.1), read.2)

namespace IpAddr

/-- The segments from an index on, and whether the last two of them are an IPv4 address. -/
def readGroups : Nat → Nat → List Char → List Nat × Bool × List Char
  | _, 0, cs => ([], false, cs)
  | index, left + 1, cs =>
    -- an embedded IPv4 address takes the room of two segments
    match if 0 < left then readSeparator ':' index readIpv4 cs else none with
    | some (embedded, rest) =>
      ([octet embedded 0 * 256 + octet embedded 1, octet embedded 2 * 256 + octet embedded 3],
        true, rest)
    | none =>
      match readSeparator ':' index readSegment cs with
      | some (group, rest) =>
        let groups := readGroups (index + 1) left rest
        (group :: groups.1, groups.2)
      | none => ([], false, cs)

def ofSegments (segs : List Nat) : BitVec 128 := BitVec.ofNat 128 (joinDigits 65536 segs)

def readIpv6 (cs : List Char) : Option (BitVec 128 × List Char) :=
  let head := readGroups 0 8 cs
  if head.1.length = 8 then some (ofSegments head.1, head.2.2)
  -- the IPv4 part is not allowed before `::`
  else if head.2.1 = true then none
  else
    ((readGiven ':' head.2.2).bind (readGiven ':')).map fun rest =>
      -- `::` stands for one segment at least
      let tail := readGroups 0 (8 - (head.1.length + 1)) rest
      let zeros := List.replicate (8 - (head.1.length + tail.1.length)) 0
      (ofSegments (head.1 ++ (zeros ++ tail.1)), tail.2.2)

def readIpAddr (cs : List Char) : Option (IpAddr × List Char) :=
  ((readIpv4 cs).map fun read => (IpAddr.v4 read.1, read.2)).or
    ((readIpv6 cs).map fun read => (IpAddr.v6 read.1, read.2))

/-- An address is read from the whole text. -/
def parse (text : String) : Option IpAddr :=
  (readIpAddr text.toList).bind fun read => if read.2 = [] then some read.1 else none

end IpAddr

theorem readGiven_eq_none {c : Char} {cs : List Char} (h : cs.head? ≠ some c) :
    readGiven c cs = none := by
  cases cs with
  | nil => rfl
  | cons d cs => exact if_neg fun hd => h (congrArg some hd)

theorem readGiven_eq_some {c : Char} {cs rest : List Char} (h : readGiven c cs = some rest) :
    cs = c :: rest := by
  cases cs with
  | nil => cases h
  | cons d cs =>
    by_cases hd : d = c
    · rw [readGiven, if_pos hd] at h
      rw [hd, Option.some.inj h]
    · rw [readGiven, if_neg hd] at h
      cases h

/-- A number takes the run of digits in front, and there is one. -/
theorem readNumber_spec {radix maxDigits bound : Nat} {allowZeroPrefix : Bool} {cs : List Char}
    {read : Nat × List Char} (h : readNumber radix maxDigits bound allowZeroPrefix cs = some read) :
    cs.takeWhile (isRadixDigit radix) ≠ [] ∧ read.2 = cs.dropWhile (isRadixDigit radix) := by
  unfold readNumber at h
  simp only at h
  split at h
  · cases h
  · rename_i hdigits
    split at h
    · cases h
    · split at h
      · cases h
        exact ⟨fun hnil => hdigits (.inl hnil), rfl⟩
      · cases h

theorem readNumber_lt {radix maxDigits bound : Nat} {allowZeroPrefix : Bool} {cs : List Char}
    {read : Nat × List Char} (h : readNumber radix maxDigits bound allowZeroPrefix cs = some read) :
    read.1 < bound := by
  unfold readNumber at h
  simp only at h
  split at h
  · cases h
  · split at h
    · cases h
    · split at h
      · rename_i hlt
        cases h
        exact hlt
      · cases h

/-! ## Reading what was written -/

/-- A number is read up to the first character that is no digit of it. -/
theorem readNumber_toDigits {radix maxDigits bound : Nat} {allowZeroPrefix : Bool} {n : Nat}
    {rest : List Char} (hb : 1 < radix) (hle : radix ≤ 16) (hmax : 0 < maxDigits)
    (hdigits : n < radix ^ maxDigits) (hbound : n < bound)
    (hrest : ∀ c ∈ rest.head?, isRadixDigit radix c = false) :
    readNumber radix maxDigits bound allowZeroPrefix (Nat.toDigits radix n ++ rest) =
      some (n, rest) := by
  obtain ⟨hall, hvalue⟩ := toDigits_read hb hle n
  have hstop : rest.takeWhile (isRadixDigit radix) = [] ∧
      rest.dropWhile (isRadixDigit radix) = rest := by
    cases rest with
    | nil => exact ⟨rfl, rfl⟩
    | cons c rest =>
      have hc := hrest c rfl
      simp [hc]
  have htake : (Nat.toDigits radix n ++ rest).takeWhile (isRadixDigit radix) =
      Nat.toDigits radix n := by
    rw [List.takeWhile_append_of_pos hall, hstop.1, List.append_nil]
  have hdrop : (Nat.toDigits radix n ++ rest).dropWhile (isRadixDigit radix) = rest := by
    rw [List.dropWhile_append_of_pos hall, hstop.2]
  have hlength : ¬(Nat.toDigits radix n = [] ∨ maxDigits < (Nat.toDigits radix n).length) := by
    rintro (hnil | hlong)
    · exact Nat.toDigits_ne_nil hnil
    · exact absurd ((Nat.length_toDigits_le_iff hb hmax).mpr hdigits) (Nat.not_le.mpr hlong)
  have hzero : ¬(allowZeroPrefix = false ∧ (Nat.toDigits radix n).head? = some '0' ∧
      1 < (Nat.toDigits radix n).length) := by
    rintro ⟨-, hhead, hlong⟩
    exact absurd (toDigits_head hb hle hhead) (Nat.ne_of_gt hlong)
  rw [readNumber, htake, hdrop]
  simp only
  rw [if_neg hlength, if_neg hzero, hvalue, if_pos hbound]

theorem readOctet_toString {n : Nat} {rest : List Char} (hn : n < 256)
    (hrest : ∀ c ∈ rest.head?, isRadixDigit 10 c = false) :
    readOctet ((toString n).toList ++ rest) = some (n, rest) := by
  rw [Nat.toString_eq_ofList_toDigits, String.toList_ofList]
  exact readNumber_toDigits (by decide) (by decide) (by decide) (Nat.lt_trans hn (by decide)) hn
    hrest

/-- Joined texts are the first one and then the others, each behind the separator. -/
theorem intercalate_toList {sep : String} {c : Char} (hsep : sep.toList = [c]) (s : String)
    (l : List String) :
    (sep.intercalate (s :: l)).toList = s.toList ++ l.flatMap fun t => c :: t.toList := by
  induction l generalizing s with
  | nil => rw [String.intercalate_singleton, List.flatMap_nil, List.append_nil]
  | cons t l ih =>
    rw [String.intercalate_cons_of_ne_nil (List.cons_ne_nil t l), String.toList_append,
      String.toList_append, hsep, ih, List.flatMap_cons, List.append_assoc]
    rfl

/-- Behind an octet there is a dot or what comes after the address. -/
theorem octets_stop (octets : List Nat) {rest : List Char}
    (hrest : ∀ c ∈ rest.head?, isRadixDigit 10 c = false) :
    ∀ c ∈ ((octets.flatMap fun n => '.' :: (toString n).toList) ++ rest).head?,
      isRadixDigit 10 c = false := by
  intro c hc
  cases octets with
  | nil => exact hrest c hc
  | cons m octets =>
    cases Option.some.inj hc
    decide

/-- The octets behind the first one, each behind its dot. -/
theorem readOctets_tail {index : Nat} {octets : List Nat} {rest : List Char}
    (hoctets : ∀ n ∈ octets, n < 256) (hrest : ∀ c ∈ rest.head?, isRadixDigit 10 c = false) :
    readOctets (index + 1) octets.length
      ((octets.flatMap fun n => '.' :: (toString n).toList) ++ rest) = some (octets, rest) := by
  induction octets generalizing index with
  | nil => rfl
  | cons n octets ih =>
    have hread := readOctet_toString (hoctets n List.mem_cons_self) (octets_stop octets hrest)
    rw [List.flatMap_cons, List.append_assoc, List.cons_append, List.length_cons, readOctets,
      readSeparator, if_pos (Nat.succ_pos index), readGiven, if_pos rfl, Option.bind_some, hread,
      Option.bind_some, ih fun m hm => hoctets m (List.mem_cons_of_mem n hm)]
    rfl

theorem readOctets_cons {n : Nat} {octets : List Nat} {rest : List Char} (hn : n < 256)
    (hoctets : ∀ n ∈ octets, n < 256) (hrest : ∀ c ∈ rest.head?, isRadixDigit 10 c = false) :
    readOctets 0 (octets.length + 1)
      ((toString n).toList ++ ((octets.flatMap fun n => '.' :: (toString n).toList) ++ rest)) =
      some (n :: octets, rest) := by
  have hread := readOctet_toString hn (octets_stop octets hrest)
  rw [readOctets, readSeparator, if_neg (Nat.lt_irrefl 0), hread, Option.bind_some,
    readOctets_tail hoctets hrest]
  rfl

namespace IpAddr

theorem octet_lt (b : BitVec 32) (i : Nat) : octet b i < 256 := Nat.mod_lt _ (by decide)

theorem joinDigits_octets (b : BitVec 32) :
    joinDigits 256 ((List.range 4).map (octet b)) = b.toNat := by
  have hcut : ∀ i, octet b i = b.toNat / 256 ^ (4 - 1 - i) % 256 := by
    intro i
    rw [octet, Nat.pow_mul]
  rw [List.map_congr_left fun i _ => hcut i, joinDigits_range]
  exact Nat.mod_eq_of_lt b.isLt

theorem displayV4_toList (b : BitVec 32) :
    (displayV4 b).toList = (toString (octet b 0)).toList ++
      ([octet b 1, octet b 2, octet b 3].flatMap fun n => '.' :: (toString n).toList) := by
  have hdot : ".".toList = ['.'] := by decide
  exact intercalate_toList hdot _ [toString (octet b 1), toString (octet b 2), toString (octet b 3)]

theorem readIpv4_displayV4 (b : BitVec 32) {rest : List Char}
    (hrest : ∀ c ∈ rest.head?, isRadixDigit 10 c = false) :
    readIpv4 ((displayV4 b).toList ++ rest) = some (b, rest) := by
  have hread : readOctets 0 4 ((displayV4 b).toList ++ rest) =
      some ((List.range 4).map (octet b), rest) := by
    rw [displayV4_toList, List.append_assoc]
    refine readOctets_cons (octet_lt b 0) (fun n hn => ?_) hrest
    simp only [List.mem_cons, List.not_mem_nil, or_false] at hn
    rcases hn with rfl | rfl | rfl <;> exact octet_lt b _
  rw [readIpv4, hread, Option.map_some, joinDigits_octets, BitVec.ofNat_toNat, BitVec.setWidth_eq]

theorem readIpv4_displayV4_whole (b : BitVec 32) : readIpv4 (displayV4 b).toList = some (b, []) := by
  rw [← List.append_nil (displayV4 b).toList]
  exact readIpv4_displayV4 b fun c hc => (by cases hc)

/-! ## Segments -/

/-- What may stand behind a group of segments: nothing, or `::`. -/
def GroupEnds (rest : List Char) : Prop := rest = [] ∨ ∃ more, rest = ':' :: ':' :: more

theorem GroupEnds.head {rest : List Char} (h : GroupEnds rest) : ∀ c ∈ rest.head?, c = ':' := by
  intro c hc
  rcases h with rfl | ⟨more, rfl⟩
  · cases hc
  · exact (Option.some.inj hc).symm

theorem colon_head (more : List Char) : ∀ c ∈ (':' :: more).head?, c = ':' := fun _ hc =>
  (Option.some.inj hc).symm

theorem readSegment_hexSegment {n : Nat} {rest : List Char} (hn : n < 65536)
    (hrest : ∀ c ∈ rest.head?, c = ':') :
    readSegment ((hexSegment n).toList ++ rest) = some (n, rest) := by
  rw [hexSegment, String.toList_ofList]
  refine readNumber_toDigits (by decide) (by decide) (by decide) hn hn fun c hc => ?_
  rw [hrest c hc]
  decide

theorem readSegment_colon {rest : List Char} (hrest : ∀ c ∈ rest.head?, c = ':') :
    readSegment rest = none := by
  cases rest with
  | nil => rfl
  | cons c rest =>
    rw [hrest c rfl]
    rfl

/-- Before a colon there is no IPv4 address: the dot behind its first octet is missing. -/
theorem readIpv4_hex {text rest : List Char} (htext : ∀ c ∈ text, c ∈ hexDigits)
    (hrest : ∀ c ∈ rest.head?, c = ':') : readIpv4 (text ++ rest) = none := by
  have hdot : ((text ++ rest).dropWhile (isRadixDigit 10)).head? ≠ some '.' := by
    induction text with
    | nil =>
      cases rest with
      | nil => exact fun h => (by cases h)
      | cons c rest =>
        have hcolon : isRadixDigit 10 ':' = false := by decide
        rw [hrest c rfl, List.nil_append, List.dropWhile_cons, hcolon]
        exact fun h => absurd (Option.some.inj h) (by decide)
    | cons c text ih =>
      rw [List.cons_append, List.dropWhile_cons]
      split
      · exact ih fun d hd => htext d (List.mem_cons_of_mem c hd)
      · intro h
        exact absurd (Option.some.inj h ▸ htext c List.mem_cons_self) (by decide)
  rw [readIpv4, readOctets, readSeparator, if_neg (Nat.lt_irrefl 0)]
  cases hread : readOctet (text ++ rest) with
  | none => rfl
  | some read =>
    rw [Option.bind_some, readOctets, readSeparator, if_pos (Nat.succ_pos 0),
      (readNumber_spec hread).2, readGiven_eq_none hdot]
    rfl

/-- Where neither an address nor a segment can be read, the group ends. -/
theorem readGroups_stop {index : Nat} (left : Nat) {cs : List Char}
    (hipv4 : readSeparator ':' index readIpv4 cs = none)
    (hsegment : readSeparator ':' index readSegment cs = none) :
    readGroups index left cs = ([], false, cs) := by
  cases left with
  | zero => rfl
  | succ left =>
    rw [readGroups, hipv4, hsegment, ite_self]

theorem readGroups_ends (index left : Nat) {rest : List Char} (hrest : GroupEnds rest) :
    readGroups index left rest = ([], false, rest) := by
  have hipv4 : ∀ {more : List Char}, (∀ c ∈ more.head?, c = ':') → readIpv4 more = none :=
    fun {more} hmore => by
      rw [← List.nil_append more]
      exact readIpv4_hex (fun c hc => (by cases hc)) hmore
  by_cases hindex : 0 < index
  · rcases hrest with rfl | ⟨more, rfl⟩
    · refine readGroups_stop left ?_ ?_ <;> rw [readSeparator, if_pos hindex] <;> rfl
    · refine readGroups_stop left ?_ ?_
      · rw [readSeparator, if_pos hindex]
        exact hipv4 (colon_head more)
      · rw [readSeparator, if_pos hindex]
        exact readSegment_colon (colon_head more)
  · refine readGroups_stop left ?_ ?_
    · rw [readSeparator, if_neg hindex]
      exact hipv4 hrest.head
    · rw [readSeparator, if_neg hindex]
      exact readSegment_colon hrest.head

theorem segments_stop (segs : List Nat) {rest : List Char} (hrest : ∀ c ∈ rest.head?, c = ':') :
    ∀ c ∈ ((segs.flatMap fun n => ':' :: (hexSegment n).toList) ++ rest).head?, c = ':' := by
  cases segs with
  | nil => exact hrest
  | cons n segs => exact colon_head _

/-- The segments behind the first one, each behind its colon. -/
theorem readGroups_tail {index : Nat} {segs : List Nat} (more : Nat) {rest : List Char}
    (hsegs : ∀ n ∈ segs, n < 65536) (hrest : GroupEnds rest) :
    readGroups (index + 1) (segs.length + more)
      ((segs.flatMap fun n => ':' :: (hexSegment n).toList) ++ rest) = (segs, false, rest) := by
  induction segs generalizing index with
  | nil => exact readGroups_ends (index + 1) _ hrest
  | cons n segs ih =>
    have hstop := segments_stop segs hrest.head
    have hipv4 := readIpv4_hex (hexSegment_chars n) hstop
    have hread := readSegment_hexSegment (hsegs n List.mem_cons_self) hstop
    have hlength : (n :: segs).length + more = segs.length + more + 1 := by
      rw [List.length_cons, Nat.add_right_comm]
    rw [List.flatMap_cons, List.append_assoc, List.cons_append, hlength, readGroups]
    simp only [readSeparator, if_pos (Nat.succ_pos index), readGiven, if_true, Option.bind_some,
      hipv4, ite_self, hread, ih fun m hm => hsegs m (List.mem_cons_of_mem n hm)]

theorem joinSegments_cons (n : Nat) (segs : List Nat) (rest : List Char) :
    (joinSegments (n :: segs)).toList ++ rest = (hexSegment n).toList ++
      ((segs.flatMap fun n => ':' :: (hexSegment n).toList) ++ rest) := by
  have hcolon : ":".toList = [':'] := by decide
  rw [joinSegments, List.map_cons, intercalate_toList hcolon, List.flatMap_map, List.append_assoc]

theorem readIpv4_joinSegments (segs : List Nat) {rest : List Char}
    (hrest : ∀ c ∈ rest.head?, c = ':') : readIpv4 ((joinSegments segs).toList ++ rest) = none := by
  cases segs with
  | nil => exact readIpv4_hex (fun c hc => (by cases hc)) hrest
  | cons n segs =>
    rw [joinSegments_cons]
    exact readIpv4_hex (hexSegment_chars n) (segments_stop segs hrest)

theorem readGroups_join {limit : Nat} {segs : List Nat} {rest : List Char}
    (hlimit : segs.length ≤ limit) (hsegs : ∀ n ∈ segs, n < 65536) (hrest : GroupEnds rest) :
    readGroups 0 limit ((joinSegments segs).toList ++ rest) = (segs, false, rest) := by
  cases segs with
  | nil => exact readGroups_ends 0 limit hrest
  | cons n segs =>
    have hstop := segments_stop segs hrest.head
    have hipv4 := readIpv4_hex (hexSegment_chars n) hstop
    have hread := readSegment_hexSegment (hsegs n List.mem_cons_self) hstop
    obtain ⟨more, hmore⟩ := Nat.exists_eq_add_of_le hlimit
    have hlength : limit = segs.length + more + 1 := by
      rw [hmore, List.length_cons, Nat.add_right_comm]
    rw [joinSegments_cons, hlength, readGroups]
    simp only [readSeparator, if_neg (Nat.lt_irrefl 0), hipv4, ite_self, hread,
      readGroups_tail more (fun m hm => hsegs m (List.mem_cons_of_mem n hm)) hrest]

/-! ## Addresses -/

theorem segment_lt (b : BitVec 128) (i : Nat) : segment b i < 65536 := Nat.mod_lt _ (by decide)

theorem ofSegments_segments (b : BitVec 128) : ofSegments (segments b) = b := by
  have hcut : ∀ i, segment b i = b.toNat / 65536 ^ (8 - 1 - i) % 65536 := by
    intro i
    rw [segment, Nat.pow_mul]
  have hvalue : joinDigits 65536 (segments b) = b.toNat := by
    rw [segments, List.map_congr_left fun i _ => hcut i, joinDigits_range]
    exact Nat.mod_eq_of_lt b.isLt
  rw [ofSegments, hvalue, BitVec.ofNat_toNat, BitVec.setWidth_eq]

/-- The text of segments with a run of zeros left out. -/
theorem compressed_toList (before after : List Nat) :
    (joinSegments before ++ "::" ++ joinSegments after).toList =
      (joinSegments before).toList ++ ':' :: ':' :: (joinSegments after).toList := by
  rw [String.toList_append, String.toList_append, List.append_assoc]
  rfl

theorem readIpv4_segmentsText (segs : List Nat) : readIpv4 (segmentsText segs).toList = none := by
  unfold segmentsText
  generalize longestZeros segs = run
  obtain ⟨start, len⟩ := run
  simp only
  split
  · rw [compressed_toList]
    exact readIpv4_joinSegments _ (colon_head _)
  · rw [← List.append_nil (joinSegments segs).toList]
    exact readIpv4_joinSegments segs fun c hc => (by cases hc)

theorem readIpv6_segmentsText {segs : List Nat} (hlength : segs.length = 8)
    (hsegs : ∀ n ∈ segs, n < 65536) :
    readIpv6 (segmentsText segs).toList = some (ofSegments segs, []) := by
  have hrun := longestZeros_run segs
  unfold segmentsText
  generalize longestZeros segs = run at *
  obtain ⟨start, len⟩ := run
  simp only
  by_cases hlen : 1 < len
  · have hle := hrun.1
    simp only at hle
    have hhead : readGroups 0 8 ((joinSegments (segs.take start)).toList ++
        (':' :: ':' :: (joinSegments (segs.drop (start + len))).toList)) =
        (segs.take start, false, ':' :: ':' :: (joinSegments (segs.drop (start + len))).toList) :=
      readGroups_join (by rw [List.length_take]; omega)
        (fun n hn => hsegs n (List.mem_of_mem_take hn)) (.inr ⟨_, rfl⟩)
    have htail : readGroups 0 (8 - ((segs.take start).length + 1))
        ((joinSegments (segs.drop (start + len))).toList ++ []) =
        (segs.drop (start + len), false, []) :=
      readGroups_join (by rw [List.length_take, List.length_drop]; omega)
        (fun n hn => hsegs n (List.mem_of_mem_drop hn)) (.inl rfl)
    rw [List.append_nil] at htail
    have hzeros : 8 - ((segs.take start).length + (segs.drop (start + len)).length) = len := by
      rw [List.length_take, List.length_drop]
      omega
    have hshort : (segs.take start).length ≠ 8 := by
      rw [List.length_take]
      omega
    rw [if_pos hlen, compressed_toList, readIpv6, hhead]
    simp only [if_neg hshort, Bool.false_eq_true, if_false, readGiven, if_true, Option.bind_some,
      Option.map_some, htail, hzeros]
    rw [← hrun.split]
  · have hhead : readGroups 0 8 ((joinSegments segs).toList ++ []) = (segs, false, []) :=
      readGroups_join (Nat.le_of_eq hlength) hsegs (.inl rfl)
    rw [List.append_nil] at hhead
    rw [if_neg hlen, readIpv6, hhead]
    simp only [if_pos hlength]

theorem mapped_toList (b : BitVec 32) : ("::ffff:" ++ displayV4 b).toList =
    ':' :: ':' :: ((hexSegment 0xffff).toList ++ ':' :: (displayV4 b).toList) := by
  have hhex : (hexSegment 0xffff).toList = ['f', 'f', 'f', 'f'] := by decide
  rw [String.toList_append, hhex]
  rfl

/-- An address that embeds an IPv4 address is put together from `ffff` and the octets. -/
theorem ofSegments_mapped {b : BitVec 128} (h : b.toNat / 2 ^ 32 = 0xffff) {v4 : BitVec 32}
    (hv4 : v4 = b.setWidth 32) :
    ofSegments (List.replicate 5 0 ++ [0xffff, octet v4 0 * 256 + octet v4 1,
      octet v4 2 * 256 + octet v4 3]) = b := by
  have hoctets := joinDigits_octets v4
  have hlow : v4.toNat = b.toNat % 2 ^ 32 := by rw [hv4, BitVec.toNat_setWidth]
  refine BitVec.eq_of_toNat_eq ?_
  rw [ofSegments, BitVec.toNat_ofNat]
  have hlt := b.isLt
  simp only [joinDigits, List.range_succ, List.range_zero, List.nil_append, List.map_cons,
    List.map_nil, List.cons_append, List.foldl_cons, List.foldl_nil,
    List.replicate_succ, List.replicate_zero] at hoctets ⊢
  omega

theorem readIpv6_mapped {b : BitVec 128} (h : b.toNat / 2 ^ 32 = 0xffff) :
    readIpv6 ("::ffff:" ++ displayV4 (b.setWidth 32)).toList = some (b, []) := by
  generalize hv4 : b.setWidth 32 = v4
  have hembedded := readIpv4_displayV4_whole v4
  have hstop : ∀ c ∈ (':' :: (displayV4 v4).toList).head?, c = ':' := colon_head _
  have hipv4 := readIpv4_hex (hexSegment_chars 0xffff) hstop
  have hread := readSegment_hexSegment (show 0xffff < 65536 by decide) hstop
  have htail : readGroups 0 7 ((hexSegment 0xffff).toList ++ ':' :: (displayV4 v4).toList) =
      ([0xffff, octet v4 0 * 256 + octet v4 1, octet v4 2 * 256 + octet v4 3], true, []) := by
    rw [readGroups]
    simp only [readSeparator, if_neg (Nat.lt_irrefl 0), hipv4, ite_self, hread]
    rw [readGroups]
    simp only [readSeparator, if_pos (Nat.succ_pos 0), readGiven, if_true, Option.bind_some,
      hembedded, show 0 < 5 by decide]
  rw [mapped_toList, readIpv6, readGroups_ends 0 8 (.inr ⟨_, rfl⟩)]
  simp only [List.length_nil, show ¬0 = 8 by decide, Bool.false_eq_true, if_false, readGiven,
    if_true, Option.bind_some, Option.map_some, htail, List.nil_append]
  exact congrArg (fun bits => some (bits, [])) (ofSegments_mapped h hv4.symm)

theorem readIpv4_displayV6 (b : BitVec 128) : readIpv4 (displayV6 b).toList = none := by
  rw [displayV6_eq]
  split
  · rw [mapped_toList]
    exact readIpv4_joinSegments [] (colon_head _)
  · exact readIpv4_segmentsText _

theorem readIpv6_displayV6 (b : BitVec 128) : readIpv6 (displayV6 b).toList = some (b, []) := by
  rw [displayV6_eq]
  split
  · rename_i hmapped
    exact readIpv6_mapped hmapped
  · have hsegs : ∀ n ∈ segments b, n < 65536 := by
      intro n hn
      obtain ⟨i, _, rfl⟩ := List.mem_map.mp hn
      exact segment_lt b i
    rw [readIpv6_segmentsText (by simp [segments]) hsegs, ofSegments_segments]

theorem readIpAddr_display (ip : IpAddr) : readIpAddr ip.display.toList = some (ip, []) := by
  cases ip with
  | v4 b =>
    rw [readIpAddr, display, readIpv4_displayV4_whole]
    rfl
  | v6 b =>
    rw [readIpAddr, display, readIpv4_displayV6, readIpv6_displayV6]
    rfl

/-- The text of an address is read as that address. -/
theorem parse_display (ip : IpAddr) : parse ip.display = some ip := by
  rw [parse, readIpAddr_display, Option.bind_some, if_pos rfl]

def parseV4 (text : String) : Option (BitVec 32) :=
  (readIpv4 text.toList).bind fun read => if read.2 = [] then some read.1 else none

def parseV6 (text : String) : Option (BitVec 128) :=
  (readIpv6 text.toList).bind fun read => if read.2 = [] then some read.1 else none

theorem parseV4_display (b : BitVec 32) : parseV4 (displayV4 b) = some b := by
  rw [parseV4, readIpv4_displayV4_whole, Option.bind_some, if_pos rfl]

theorem parseV6_display (b : BitVec 128) : parseV6 (displayV6 b) = some b := by
  rw [parseV6, readIpv6_displayV6, Option.bind_some, if_pos rfl]

end IpAddr

namespace SocketAddr

/-- A colon and the port up to the end. -/
def readPort (cs : List Char) : Option Nat :=
  (readGiven ':' cs).bind fun digits =>
    (readNumber 10 digits.length 65536 true digits).bind fun read =>
      if read.2 = [] then some read.1 else none

/-- An IPv4 address with a port, or an IPv6 address in brackets with a port. -/
def parse (text : String) : Option SocketAddr :=
  ((readIpv4 text.toList).bind fun read =>
    (readPort read.2).map fun port => ⟨.v4 read.1, port⟩).or
  ((readGiven '[' text.toList).bind fun inside =>
    (splitOnce ']' inside).bind fun parts =>
      (IpAddr.readIpv6 parts.1).bind fun read =>
        if read.2 = [] then (readPort parts.2).map fun port => ⟨.v6 read.1, port⟩ else none)

theorem readPort_toString {port : Nat} (h : port < 65536) :
    readPort (':' :: (toString port).toList) = some port := by
  have hdigits : (toString port).toList = Nat.toDigits 10 port := by
    rw [Nat.toString_eq_ofList_toDigits, String.toList_ofList]
  have hlength : 0 < (Nat.toDigits 10 port).length := List.length_pos_of_ne_nil Nat.toDigits_ne_nil
  have hread : readNumber 10 (Nat.toDigits 10 port).length 65536 true
      (Nat.toDigits 10 port ++ []) = some (port, []) :=
    readNumber_toDigits (by decide) (by decide) hlength
      ((Nat.length_toDigits_le_iff (by decide) hlength).mp (Nat.le_refl _)) h
      (fun c hc => by cases hc)
  rw [List.append_nil] at hread
  rw [readPort, hdigits, readGiven, if_pos rfl, Option.bind_some, hread]
  rfl

theorem readPort_lt {cs : List Char} {port : Nat} (h : readPort cs = some port) : port < 65536 := by
  obtain ⟨digits, -, h⟩ := Option.bind_eq_some_iff.mp h
  obtain ⟨read, hread, h⟩ := Option.bind_eq_some_iff.mp h
  split at h
  · cases h
    exact readNumber_lt hread
  · cases h

/-- The text of an address with its port is read as both. -/
theorem parse_display {address : SocketAddr} (h : address.port < 65536) :
    parse address.display = some address := by
  obtain ⟨ip, port⟩ := address
  cases ip with
  | v4 b =>
    have hread : readIpv4 ((IpAddr.displayV4 b).toList ++ ':' :: (toString port).toList) =
        some (b, ':' :: (toString port).toList) :=
      IpAddr.readIpv4_displayV4 b (fun c hc => by cases hc; decide)
    rw [parse, display_v4, String.toList_append, String.toList_append, List.append_assoc]
    rw [show ":".toList ++ (toString port).toList = ':' :: (toString port).toList from rfl, hread,
      Option.bind_some, readPort_toString h]
    rfl
  | v6 b =>
    have hbracket : ']' ∉ (IpAddr.displayV6 b).toList := fun hmem =>
      absurd (IpAddr.displayV6_chars b ']' hmem) (by decide)
    have htext : (display ⟨.v6 b, port⟩).toList =
        '[' :: ((IpAddr.displayV6 b).toList ++ ']' :: ':' :: (toString port).toList) := by
      rw [display_v6, String.toList_append, String.toList_append, String.toList_append]
      simp
    have hv4 : readIpv4 ('[' :: ((IpAddr.displayV6 b).toList ++
        ']' :: ':' :: (toString port).toList)) = none := rfl
    rw [parse, htext, hv4, readGiven, if_pos rfl, Option.bind_none, Option.none_or,
      Option.bind_some, splitOnce_append hbracket, Option.bind_some, IpAddr.readIpv6_displayV6,
      Option.bind_some, if_pos rfl, readPort_toString h]
    rfl

theorem parse_port {text : String} {address : SocketAddr} (h : parse text = some address) :
    address.port < 65536 := by
  rcases Option.or_eq_some_iff.mp h with h | ⟨-, h⟩
  · obtain ⟨read, -, h⟩ := Option.bind_eq_some_iff.mp h
    obtain ⟨port, hport, rfl⟩ := Option.map_eq_some_iff.mp h
    exact readPort_lt hport
  · obtain ⟨inside, -, h⟩ := Option.bind_eq_some_iff.mp h
    obtain ⟨parts, -, h⟩ := Option.bind_eq_some_iff.mp h
    obtain ⟨read, -, h⟩ := Option.bind_eq_some_iff.mp h
    split at h
    · obtain ⟨port, hport, rfl⟩ := Option.map_eq_some_iff.mp h
      exact readPort_lt hport
    · cases h

end SocketAddr

/-! ## What is read is an address -/

/-- The last octet is a run of digits behind a dot. -/
theorem readOctets_last {index left : Nat} {cs : List Char} {read : List Nat × List Char}
    (h : readOctets (index + 1) (left + 1) cs = some read) :
    ∃ front last, cs = front ++ '.' :: (last ++ read.2) ∧ last ≠ [] ∧
      ∀ c ∈ last, isRadixDigit 10 c = true := by
  induction left generalizing index cs read with
  | zero =>
    rw [readOctets, readSeparator, if_pos (Nat.succ_pos index)] at h
    obtain ⟨first, hfirst, h⟩ := Option.bind_eq_some_iff.mp h
    obtain ⟨rest, hgiven, hread⟩ := Option.bind_eq_some_iff.mp hfirst
    cases h
    obtain ⟨hne, hrest⟩ := readNumber_spec hread
    refine ⟨[], rest.takeWhile (isRadixDigit 10), ?_, hne, List.all_eq_true.mp List.all_takeWhile⟩
    rw [readGiven_eq_some hgiven, hrest, List.takeWhile_append_dropWhile]
    rfl
  | succ left ih =>
    rw [readOctets, readSeparator, if_pos (Nat.succ_pos index)] at h
    obtain ⟨first, hfirst, h⟩ := Option.bind_eq_some_iff.mp h
    obtain ⟨rest, hgiven, hread⟩ := Option.bind_eq_some_iff.mp hfirst
    obtain ⟨more, hmore, h⟩ := Option.map_eq_some_iff.mp h
    cases h
    obtain ⟨front, last, hcut, hlast⟩ := ih hmore
    refine ⟨'.' :: (rest.takeWhile (isRadixDigit 10) ++ front), last, ?_, hlast⟩
    have hrest := (readNumber_spec hread).2
    rw [hcut] at hrest
    rw [readGiven_eq_some hgiven, List.cons_append, List.append_assoc, hrest,
      List.takeWhile_append_dropWhile]

theorem readIpv4_last {cs : List Char} {read : BitVec 32 × List Char}
    (h : readIpv4 cs = some read) :
    ∃ front last, cs = front ++ '.' :: (last ++ read.2) ∧ last ≠ [] ∧
      ∀ c ∈ last, isRadixDigit 10 c = true := by
  obtain ⟨octets, hoctets, rfl⟩ := Option.map_eq_some_iff.mp h
  rw [readOctets, readSeparator, if_neg (Nat.lt_irrefl 0)] at hoctets
  obtain ⟨first, hfirst, hmap⟩ := Option.bind_eq_some_iff.mp hoctets
  obtain ⟨more, hmore, rfl⟩ := Option.map_eq_some_iff.mp hmap
  obtain ⟨front, last, hcut, hlast⟩ := readOctets_last hmore
  refine ⟨cs.takeWhile (isRadixDigit 10) ++ front, last, ?_, hlast⟩
  have hrest := (readNumber_spec hfirst).2
  rw [hcut] at hrest
  rw [List.append_assoc, hrest, List.takeWhile_append_dropWhile]

namespace IpAddr

/-- Without colons there are no more groups than the first one, or the two of an address. -/
theorem readGroups_noColon (limit : Nat) {cs : List Char} (h : ':' ∉ cs) :
    (readGroups 0 limit cs).1.length ≤ 2 ∧
      ((readGroups 0 limit cs).2.1 = false → ':' ∉ (readGroups 0 limit cs).2.2) := by
  cases limit with
  | zero => exact ⟨Nat.zero_le 2, fun _ => h⟩
  | succ left =>
    rw [readGroups]
    split
    · exact ⟨Nat.le_refl 2, fun hfalse => (by cases hfalse)⟩
    · split
      · rename_i segment rest hread
        have hrest : ':' ∉ rest := by
          rw [readSeparator, if_neg (Nat.lt_irrefl 0)] at hread
          have hdrop : rest = cs.dropWhile (isRadixDigit 16) := (readNumber_spec hread).2
          rw [hdrop]
          exact fun hmem => h ((List.dropWhile_suffix _).subset hmem)
        have hgiven : readGiven ':' rest = none :=
          readGiven_eq_none fun hhead => hrest (List.mem_of_mem_head? hhead)
        have hnext : readGroups (0 + 1) left rest = ([], false, rest) := by
          refine readGroups_stop left ?_ ?_ <;>
            rw [readSeparator, if_pos (Nat.succ_pos 0), hgiven] <;> rfl
        rw [hnext]
        exact ⟨Nat.le_succ 1, fun _ => hrest⟩
      · exact ⟨Nat.zero_le 2, fun _ => h⟩

theorem readIpv6_noColon {cs : List Char} (h : ':' ∉ cs) : readIpv6 cs = none := by
  obtain ⟨hlength, hrest⟩ := readGroups_noColon 8 h
  have hshort : ¬(readGroups 0 8 cs).1.length = 8 := by omega
  rw [readIpv6]
  simp only [if_neg hshort]
  split
  · rfl
  · rename_i hipv4
    have hgiven : readGiven ':' (readGroups 0 8 cs).2.2 = none :=
      readGiven_eq_none fun hhead =>
        hrest (Bool.eq_false_of_not_eq_true hipv4) (List.mem_of_mem_head? hhead)
    rw [hgiven]
    rfl

/-- No address starts with a dot. -/
theorem parse_dot {text : String} {rest : List Char} (h : text.toList = '.' :: rest) :
    parse text = none := by
  have hipv4 : readIpv4 ('.' :: rest) = none := rfl
  have hsegment : readSegment ('.' :: rest) = none := rfl
  have hgroups : readGroups 0 8 ('.' :: rest) = ([], false, '.' :: rest) :=
    readGroups_stop 8 hipv4 hsegment
  have hipv6 : readIpv6 ('.' :: rest) = none := by
    rw [readIpv6, hgroups]
    rfl
  rw [parse, readIpAddr, h, hipv4, hipv6]
  rfl

/-- A text without colons is an address only when its last label is a run of digits. -/
theorem parse_last {text : String} {ip : IpAddr} (hcolon : ':' ∉ text.toList)
    (h : parse text = some ip) :
    ∃ front last, text.toList = front ++ '.' :: last ∧ last ≠ [] ∧
      ∀ c ∈ last, isRadixDigit 10 c = true := by
  obtain ⟨read, hread, h⟩ := Option.bind_eq_some_iff.mp h
  rw [readIpAddr, readIpv6_noColon hcolon, Option.map_none, Option.or_none] at hread
  obtain ⟨v4, hv4, rfl⟩ := Option.map_eq_some_iff.mp hread
  split at h
  · rename_i hrest
    obtain ⟨front, last, hcut, hlast⟩ := readIpv4_last hv4
    refine ⟨front, last, ?_, hlast⟩
    rw [hcut, hrest, List.append_nil]
  · cases h

end IpAddr

end Surface

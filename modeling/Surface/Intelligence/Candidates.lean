import Surface.Model.Intelligence
import Surface.Ordered
import Surface.Target

/-!
# Surface.Intelligence.Candidates

The names that certificates were issued for, as candidates below a primary hostname.

* `ctCandidates_set`: the candidates are the first ones, in order, of the names in the domain.
* `issuanceCount_iff`: how often a candidate is counted is the number of its issuances exactly when
  no issuance lists it twice.
-/

namespace Surface

def maxCtCandidates : Nat := 1000

structure CertSpotterIssuance where
  id : String
  dnsNames : List String
deriving DecidableEq

section Source

variable (parsers : Parsers)

/-- A name without the label of a wildcard, and whether it had one. -/
def splitWildcard : List Char → List Char × Bool
  | '*' :: '.' :: name => (name, true)
  | name => (name, false)

/-- A name without white space around it and dots at its end, in lower case; then split. -/
def ctBareName (rawName : String) : List Char × Bool :=
  splitWildcard
    ((trimEnd '.' (String.ofList (trimSpaces rawName.toList))).toList.map Char.toLower)

/-- The hostname that a name of a certificate stands for, and whether it is a wildcard there. -/
def ctHostname (rawName : String) : Option (String × Bool) :=
  (normalizeTarget parsers (String.ofList (ctBareName rawName).1)).toOption.bind fun target =>
    target.hostname.map fun name => (name, (ctBareName rawName).2)

def ctDisplayName (name : String) (wildcard : Bool) : String :=
  if wildcard = true then "*." ++ name else name

variable (primary : String)

/-- The entry that a name is counted under. -/
def ctKey (rawName : String) : Option (String ×ₗ Bool) :=
  match ctHostname parsers rawName with
  | none => none
  | some (name, wildcard) =>
    if (wildcard = false ∧ name = primary) ∨
        (name ≠ primary ∧ ("." ++ primary).toList.isSuffixOf name.toList = false) then none
    else some (toLex (ctDisplayName name wildcard, wildcard))

def ctKeys (issuances : List CertSpotterIssuance) : List (String ×ₗ Bool) :=
  (issuances.flatMap CertSpotterIssuance.dnsNames).filterMap (ctKey parsers primary)

def ctCandidates (issuances : List CertSpotterIssuance) :
    List CertificateTransparencyCandidate × Bool :=
  let counts := OrdMap.tally (ctKeys parsers primary issuances)
  ((counts.entries.take maxCtCandidates).map fun entry =>
    { name := (ofLex entry.1).1
      wildcard := (ofLex entry.1).2
      issuanceCount := entry.2
      dnsStatus := .notChecked },
    decide (maxCtCandidates < counts.size))

end Source

variable {parsers : Parsers} {primary : String} {issuances : List CertSpotterIssuance}

/-! ## Names in the domain -/

def StrictSubdomain (name primary : String) : Prop :=
  ∃ front, front ≠ "" ∧ name = front ++ ("." ++ primary)

/-- A strict subdomain, plain or as a wildcard, or the wildcard at the primary name itself. -/
def InDomain (primary name : String) (wildcard : Bool) : Prop :=
  StrictSubdomain name primary ∨ name = primary ∧ wildcard = true

theorem StrictSubdomain.ne {name : String} (h : StrictSubdomain name primary) : name ≠ primary := by
  obtain ⟨front, -, rfl⟩ := h
  intro hsame
  have hlength := congrArg (fun text => text.toList.length) hsame
  have hdot : ".".toList.length = 1 := by decide
  simp only [String.toList_append, List.length_append, hdot] at hlength
  omega

theorem isSuffixOf_dot_iff (primary : String) {name : String} (hhead : ∀ rest, name.toList ≠ '.' :: rest) :
    ("." ++ primary).toList.isSuffixOf name.toList = true ↔ StrictSubdomain name primary := by
  rw [List.isSuffixOf_iff_suffix]
  constructor
  · rintro ⟨front, hfront⟩
    refine ⟨String.ofList front, fun hempty => ?_, String.toList_injective ?_⟩
    · have hnil : front = [] := by
        rw [← String.toList_ofList (l := front), hempty]
        rfl
      rw [hnil, List.nil_append, String.toList_append] at hfront
      exact hhead primary.toList hfront.symm
    · rw [String.toList_append, String.toList_ofList, hfront]
  · rintro ⟨front, -, rfl⟩
    exact ⟨front.toList, String.toList_append.symm⟩

theorem ctHostname_shape {rawName name : String} {wildcard : Bool}
    (h : ctHostname parsers rawName = some (name, wildcard)) :
    '*' ∉ name.toList ∧ ∀ rest, name.toList ≠ '.' :: rest := by
  obtain ⟨target, htarget, hname⟩ := Option.bind_eq_some_iff.mp h
  obtain ⟨found, hfound, hsame⟩ := Option.map_eq_some_iff.mp hname
  cases hsame
  cases hnormalize : normalizeTarget parsers (String.ofList (ctBareName rawName).1) with
  | error error =>
    rw [hnormalize] at htarget
    cases htarget
  | ok other =>
    rw [hnormalize] at htarget
    cases htarget
    exact hostname_shape hnormalize hfound

theorem ctKey_eq_some_iff {rawName : String} {key : String ×ₗ Bool} :
    ctKey parsers primary rawName = some key ↔ ∃ name wildcard,
      ctHostname parsers rawName = some (name, wildcard) ∧ InDomain primary name wildcard ∧
      key = toLex (ctDisplayName name wildcard, wildcard) := by
  unfold ctKey
  cases hhostname : ctHostname parsers rawName with
  | none => exact ⟨fun h => (nomatch h), fun ⟨_, _, h, _⟩ => (nomatch h)⟩
  | some hostname =>
    obtain ⟨name, wildcard⟩ := hostname
    have hsubdomain := isSuffixOf_dot_iff primary (ctHostname_shape hhostname).2
    have hscope : ¬((wildcard = false ∧ name = primary) ∨
        (name ≠ primary ∧ ("." ++ primary).toList.isSuffixOf name.toList = false)) ↔
        InDomain primary name wildcard := by
      rw [InDomain, ← Bool.not_eq_true, ← Bool.not_eq_true, hsubdomain, not_or, not_and, not_and,
        not_not]
      constructor
      · rintro ⟨hwildcard, hdomain⟩
        by_cases hname : name = primary
        · exact .inr ⟨hname, not_not.mp fun hplain => hwildcard hplain hname⟩
        · exact .inl (hdomain hname)
      · rintro (hdomain | ⟨hname, hwildcard⟩)
        · exact ⟨fun _ => hdomain.ne, fun _ => hdomain⟩
        · exact ⟨fun hplain => absurd hwildcard hplain, fun hne => absurd hname hne⟩
    constructor
    · intro h
      simp only at h
      split at h
      · cases h
      · rename_i hin
        cases h
        exact ⟨name, wildcard, rfl, hscope.mp hin, rfl⟩
    · rintro ⟨name', wildcard', hsame, hin, rfl⟩
      cases hsame
      exact if_neg (hscope.mpr hin)

/-- The key of a wildcard, and no other, has a star in its name. -/
theorem ctKey_star {rawName : String} {key : String ×ₗ Bool}
    (h : ctKey parsers primary rawName = some key) :
    (ofLex key).2 = true ↔ '*' ∈ (ofLex key).1.toList := by
  obtain ⟨name, wildcard, hhostname, -, rfl⟩ := ctKey_eq_some_iff.mp h
  have hstar := (ctHostname_shape hhostname).1
  cases wildcard with
  | false => simpa [ctDisplayName] using hstar
  | true => simp [ctDisplayName]

/-! ## The candidates -/

/-- A name that some issuance lists, as candidates show it. -/
def CtName (parsers : Parsers) (primary : String) (issuances : List CertSpotterIssuance)
    (displayName : String) : Prop :=
  ∃ issuance ∈ issuances, ∃ rawName ∈ issuance.dnsNames, ∃ name wildcard,
    ctHostname parsers rawName = some (name, wildcard) ∧ InDomain primary name wildcard ∧
    displayName = ctDisplayName name wildcard

theorem mem_ctKeys {key : String ×ₗ Bool} : key ∈ ctKeys parsers primary issuances ↔
    ∃ issuance ∈ issuances, ∃ rawName ∈ issuance.dnsNames,
      ctKey parsers primary rawName = some key := by
  rw [ctKeys, List.mem_filterMap]
  constructor
  · rintro ⟨rawName, hraw, hkey⟩
    obtain ⟨issuance, hissuance, hraw⟩ := List.mem_flatMap.mp hraw
    exact ⟨issuance, hissuance, rawName, hraw, hkey⟩
  · rintro ⟨issuance, hissuance, rawName, hraw, hkey⟩
    exact ⟨rawName, List.mem_flatMap.mpr ⟨issuance, hissuance, hraw⟩, hkey⟩

theorem ctName_iff {displayName : String} : CtName parsers primary issuances displayName ↔
    ∃ key ∈ ctKeys parsers primary issuances, displayName = (ofLex key).1 := by
  constructor
  · rintro ⟨issuance, hissuance, rawName, hraw, name, wildcard, hhostname, hin, rfl⟩
    exact ⟨_, mem_ctKeys.mpr ⟨issuance, hissuance, rawName, hraw,
      ctKey_eq_some_iff.mpr ⟨name, wildcard, hhostname, hin, rfl⟩⟩, rfl⟩
  · rintro ⟨key, hkey, rfl⟩
    obtain ⟨issuance, hissuance, rawName, hraw, hkey⟩ := mem_ctKeys.mp hkey
    obtain ⟨name, wildcard, hhostname, hin, rfl⟩ := ctKey_eq_some_iff.mp hkey
    exact ⟨issuance, hissuance, rawName, hraw, name, wildcard, hhostname, hin, rfl⟩

/-- Names tell the keys apart, so they are in the order of the keys. -/
theorem ctNames_sorted (parsers : Parsers) (primary : String)
    (issuances : List CertSpotterIssuance) :
    ((OrdSet.ofList (ctKeys parsers primary issuances)).toList.map fun key => (ofLex key).1).Pairwise
      (· < ·) := by
  have hstar : ∀ key ∈ (OrdSet.ofList (ctKeys parsers primary issuances)).toList,
      ((ofLex key).2 = true ↔ '*' ∈ (ofLex key).1.toList) := by
    intro key hkey
    obtain ⟨_, _, rawName, _, hkey⟩ := mem_ctKeys.mp (OrdSet.mem_ofList.mp hkey)
    exact ctKey_star hkey
  refine List.pairwise_map.mpr ((OrdSet.sorted _).imp_of_mem fun {a b} ha hb hlt => ?_)
  rcases Prod.Lex.lt_iff.mp hlt with h | ⟨hname, hwildcard⟩
  · exact h
  · have hsame : (ofLex a).2 = (ofLex b).2 := by
      rw [Bool.eq_iff_iff, hstar a ha, hstar b hb, hname]
    exact absurd hwildcard (by rw [hsame]; exact lt_irrefl _)

/-- What the candidates of a list of issuances are. -/
structure CtCandidateSet (parsers : Parsers) (primary : String)
    (issuances : List CertSpotterIssuance)
    (result : List CertificateTransparencyCandidate × Bool) : Prop where
  names : ∃ names : OrdSet String,
    (∀ name, name ∈ names ↔ CtName parsers primary issuances name) ∧
    result.1.map CertificateTransparencyCandidate.name = names.toList.take 1000 ∧
    (result.2 = true ↔ 1000 < names.size)
  ascending : (result.1.map CertificateTransparencyCandidate.name).Pairwise (· < ·)
  kinds : ∀ candidate ∈ result.1, ∃ name, InDomain primary name candidate.wildcard ∧
    candidate.name = ctDisplayName name candidate.wildcard
  confined : ∀ candidate ∈ result.1,
    StrictSubdomain candidate.name primary ∧ candidate.name ≠ primary

theorem InDomain.confined {name : String} {wildcard : Bool} (h : InDomain primary name wildcard) :
    StrictSubdomain (ctDisplayName name wildcard) primary := by
  cases wildcard with
  | false =>
    rcases h with h | h
    · exact h
    · cases h.2
  | true =>
    rcases h with ⟨front, -, rfl⟩ | ⟨rfl, -⟩
    · refine ⟨"*." ++ front, fun hempty => ?_, (String.append_assoc ..).symm⟩
      exact absurd (String.append_eq_empty_iff.mp hempty).1 (by decide)
    · exact ⟨"*", by decide, by rw [← String.append_assoc]; rfl⟩

theorem mem_ctCandidates {candidate : CertificateTransparencyCandidate}
    (h : candidate ∈ (ctCandidates parsers primary issuances).1) :
    toLex (candidate.name, candidate.wildcard) ∈ ctKeys parsers primary issuances ∧
      candidate.issuanceCount = (ctKeys parsers primary issuances).countP fun key =>
        decide (key = toLex (candidate.name, candidate.wildcard)) := by
  obtain ⟨⟨key, count⟩, hentry, rfl⟩ := List.mem_map.mp h
  exact OrdMap.mem_entries_tally.mp (List.mem_of_mem_take hentry)

theorem ctCandidates_set (parsers : Parsers) (primary : String)
    (issuances : List CertSpotterIssuance) :
    CtCandidateSet parsers primary issuances (ctCandidates parsers primary issuances) := by
  have hkeys := OrdMap.keys_tally (ctKeys parsers primary issuances)
  have hsorted := ctNames_sorted parsers primary issuances
  have hnames : (ctCandidates parsers primary issuances).1.map
      CertificateTransparencyCandidate.name =
      ((OrdSet.ofList (ctKeys parsers primary issuances)).toList.map fun key =>
        (ofLex key).1).take 1000 := by
    rw [← hkeys, OrdMap.keys, List.map_map, ← List.map_take, ctCandidates, List.map_map]
    rfl
  have hkind : ∀ candidate ∈ (ctCandidates parsers primary issuances).1, ∃ name,
      InDomain primary name candidate.wildcard ∧
      candidate.name = ctDisplayName name candidate.wildcard := by
    intro candidate hcandidate
    obtain ⟨_, _, rawName, _, hkey⟩ := mem_ctKeys.mp (mem_ctCandidates hcandidate).1
    obtain ⟨name, wildcard, -, hin, hsame⟩ := ctKey_eq_some_iff.mp hkey
    obtain ⟨hname, rfl⟩ := Prod.mk.inj (toLex.injective hsame)
    exact ⟨name, hin, hname⟩
  refine ⟨⟨⟨_, hsorted⟩, fun name => ?_, hnames, ?_⟩, ?_, hkind, fun candidate hcandidate => ?_⟩
  · rw [ctName_iff, OrdSet.mem_def, List.mem_map]
    constructor
    · rintro ⟨key, hkey, rfl⟩
      exact ⟨key, OrdSet.mem_ofList.mp hkey, rfl⟩
    · rintro ⟨key, hkey, rfl⟩
      exact ⟨key, OrdSet.mem_ofList.mpr hkey, rfl⟩
  · have hsize := congrArg List.length hkeys
    rw [OrdMap.keys, List.length_map] at hsize
    rw [OrdSet.size, List.length_map, ← hsize]
    exact decide_eq_true_iff
  · rw [hnames]
    exact hsorted.sublist (List.take_sublist _ _)
  · obtain ⟨name, hin, hname⟩ := hkind candidate hcandidate
    have hdomain := hin.confined
    rw [← hname] at hdomain
    exact ⟨hdomain, hdomain.ne⟩

/-! ## Counts -/

/-- How many of the names of an issuance are counted under a key. -/
def CertSpotterIssuance.listings (parsers : Parsers) (primary : String)
    (issuance : CertSpotterIssuance) (key : String ×ₗ Bool) : Nat :=
  issuance.dnsNames.countP fun rawName => decide (ctKey parsers primary rawName = some key)

/-- How many issuances have a name that is counted under a key. -/
def ctIssuances (parsers : Parsers) (primary : String) (issuances : List CertSpotterIssuance)
    (key : String ×ₗ Bool) : Nat :=
  issuances.countP fun issuance => issuance.dnsNames.any fun rawName =>
    decide (ctKey parsers primary rawName = some key)

theorem listings_pos {issuance : CertSpotterIssuance} {key : String ×ₗ Bool} :
    (issuance.dnsNames.any fun rawName => decide (ctKey parsers primary rawName = some key)) =
      decide (0 < issuance.listings parsers primary key) := by
  rw [Bool.eq_iff_iff, decide_eq_true_eq, CertSpotterIssuance.listings, List.countP_pos_iff,
    List.any_eq_true]

theorem countP_ctKeys (key : String ×ₗ Bool) :
    (ctKeys parsers primary issuances).countP (fun other => decide (other = key)) =
      (issuances.map fun issuance => issuance.listings parsers primary key).sum := by
  rw [ctKeys, List.countP_filterMap, List.countP_flatMap]
  refine congrArg List.sum (List.map_congr_left fun issuance _ => ?_)
  refine List.countP_congr fun rawName _ => ?_
  cases ctKey parsers primary rawName <;> simp

/-- Positive numbers are counted once each only when they are all one. -/
theorem sum_eq_countP_iff {α : Type} {f : α → Nat} {l : List α} :
    (l.map f).sum = l.countP (fun a => decide (0 < f a)) ↔ ∀ a ∈ l, f a ≤ 1 := by
  have hle : ∀ l : List α, l.countP (fun a => decide (0 < f a)) ≤ (l.map f).sum := by
    intro l
    induction l with
    | nil => exact Nat.le_refl 0
    | cons a l ih =>
      rw [List.map_cons, List.sum_cons, List.countP_cons]
      split
      · rename_i hpos
        have := of_decide_eq_true hpos
        omega
      · omega
  induction l with
  | nil => simp
  | cons a l ih =>
    have := hle l
    rw [List.map_cons, List.sum_cons, List.countP_cons, List.forall_mem_cons]
    refine Iff.trans ?_ (and_congr_right fun _ => ih)
    split
    · rename_i hpos
      have := of_decide_eq_true hpos
      omega
    · rename_i hzero
      have : f a = 0 := Nat.eq_zero_of_not_pos fun h => hzero (decide_eq_true h)
      omega

theorem mem_take_keys {key : String ×ₗ Bool} :
    key ∈ (OrdSet.ofList (ctKeys parsers primary issuances)).toList.take maxCtCandidates ↔
      ∃ candidate ∈ (ctCandidates parsers primary issuances).1,
        key = toLex (candidate.name, candidate.wildcard) := by
  rw [← OrdMap.keys_tally, OrdMap.keys, ← List.map_take, List.mem_map]
  constructor
  · rintro ⟨entry, hentry, rfl⟩
    exact ⟨_, List.mem_map_of_mem hentry, rfl⟩
  · rintro ⟨candidate, hcandidate, rfl⟩
    obtain ⟨entry, hentry, rfl⟩ := List.mem_map.mp hcandidate
    exact ⟨entry, hentry, rfl⟩

theorem issuanceCount_iff (parsers : Parsers) (primary : String)
    (issuances : List CertSpotterIssuance) :
    (∀ candidate ∈ (ctCandidates parsers primary issuances).1, candidate.issuanceCount =
      ctIssuances parsers primary issuances (toLex (candidate.name, candidate.wildcard))) ↔
    ∀ key ∈ (OrdSet.ofList (ctKeys parsers primary issuances)).toList.take maxCtCandidates,
      ∀ issuance ∈ issuances, issuance.listings parsers primary key ≤ 1 := by
  have hcount : ∀ candidate ∈ (ctCandidates parsers primary issuances).1,
      (candidate.issuanceCount =
        ctIssuances parsers primary issuances (toLex (candidate.name, candidate.wildcard)) ↔
      ∀ issuance ∈ issuances,
        issuance.listings parsers primary (toLex (candidate.name, candidate.wildcard)) ≤ 1) := by
    intro candidate hcandidate
    rw [(mem_ctCandidates hcandidate).2, countP_ctKeys, ctIssuances, ← sum_eq_countP_iff]
    simp only [listings_pos]
  constructor
  · intro h key hkey
    obtain ⟨candidate, hcandidate, rfl⟩ := mem_take_keys.mp hkey
    exact (hcount candidate hcandidate).mp (h candidate hcandidate)
  · intro h candidate hcandidate
    exact (hcount candidate hcandidate).mpr (h _ (mem_take_keys.mpr ⟨candidate, hcandidate, rfl⟩))

/-- One issuance with one name, in two spellings. -/
def respelledIssuance : CertSpotterIssuance := ⟨"1", ["a.example.com", "A.example.com."]⟩

theorem ctHostname_eq {rawName bareName name : String} {wildcard : Bool}
    {target : NormalizedTarget}
    (hsplit : ctBareName rawName = (bareName.toList, wildcard))
    (htarget : normalizeTarget parsers bareName = .ok target)
    (hname : target.hostname = some name) :
    ctHostname parsers rawName = some (name, wildcard) := by
  rw [ctHostname, hsplit]
  simp only [String.ofList_toList, htarget, Except.toOption, Option.bind_some, hname,
    Option.map_some]

theorem ctKeys_respelled : ctKeys asciiParsers "example.com" [respelledIssuance] =
    [toLex ("a.example.com", false), toLex ("a.example.com", false)] := by
  have hvalid : validateDomain "a.example.com" = .ok () := by rfl
  have hlower : "a.example.com".toLower = "a.example.com" := toLower_eq (by decide)
  have htarget : normalizeTarget asciiParsers "a.example.com" =
      .ok ⟨"a.example.com", some "a.example.com", none, none, none, none⟩ := by
    have hhost : asciiParsers.host (trimEnd '.' "a.example.com") =
        .ok (.domain "a.example.com") := by rfl
    have hne : trimEnd '.' "a.example.com" ≠ "" := by decide
    have hparse : IpAddr.parse "a.example.com" = none :=
      IpAddr.parse_eq_none (by decide) (by decide)
    rw [normalizeTarget_plain (plainName_of_valid hvalid) hparse, normalizeHostname]
    simp only [if_neg hne, hhost, hlower, hvalid]
    rfl
  have hkey : ∀ rawName ∈ respelledIssuance.dnsNames,
      ctKey asciiParsers "example.com" rawName = some (toLex ("a.example.com", false)) := by
    have hin : InDomain "example.com" "a.example.com" false := .inl ⟨"a", by decide, by decide⟩
    intro rawName hraw
    refine ctKey_eq_some_iff.mpr ⟨"a.example.com", false, ctHostname_eq ?_ htarget rfl, hin, rfl⟩
    rcases List.mem_pair.mp hraw with rfl | rfl
    · decide
    · decide
  have hnames : [respelledIssuance].flatMap CertSpotterIssuance.dnsNames =
      ["a.example.com", "A.example.com."] := rfl
  have hplain := hkey "a.example.com" List.mem_cons_self
  have hrespelled := hkey "A.example.com." (List.mem_cons_of_mem _ List.mem_cons_self)
  simp only [ctKeys, hnames, List.filterMap_cons, hplain, hrespelled, List.filterMap_nil]

theorem issuanceCount_respelled : asciiParsers.Standard asciiName ∧
    ¬∀ candidate ∈ (ctCandidates asciiParsers "example.com" [respelledIssuance]).1,
      candidate.issuanceCount = ctIssuances asciiParsers "example.com" [respelledIssuance]
        (toLex (candidate.name, candidate.wildcard)) := by
  refine ⟨asciiParsers_standard, fun h => ?_⟩
  have hcandidates : (ctCandidates asciiParsers "example.com" [respelledIssuance]).1 =
      [⟨"a.example.com", false, 2, .notChecked⟩] := by
    rw [ctCandidates, ctKeys_respelled]
    rfl
  have hcount := h ⟨"a.example.com", false, 2, .notChecked⟩
    (hcandidates ▸ List.mem_singleton_self _)
  have hle : 2 ≤ 1 := hcount.le.trans List.countP_le_length
  exact absurd hle (by decide)

end Surface

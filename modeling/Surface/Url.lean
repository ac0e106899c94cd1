import Surface.NetParse

/-!
# Surface.Url

Hosts and URLs as the URL standard has them. The parsers are a library's, so `Parsers` takes them
as they come, and `Parsers.Standard` states what the standard says of them.

`Parsers.Standard.domain_trimEnd_iff`: without its trailing dots, a domain is parsed as just that
domain, unless it ends in a number then.
-/

namespace Surface

inductive Host where
  | domain (name : String)
  | ipv4 (bits : BitVec 32)
  | ipv6 (bits : BitVec 128)
deriving DecidableEq

structure Url where
  scheme : String
  username : String
  password : Option String
  host : Option Host
  port : Option Nat
  path : String
  query : Option String
deriving DecidableEq

/-! ## Names that end in a number -/

/-- A decimal number, or one in the notation of C: hexadecimal behind `0x`, octal behind `0`. -/
def ipv4Number (input : List Char) : Option Nat :=
  let (radix, digits) :=
    if ['0', 'x'].isPrefixOf input || ['0', 'X'].isPrefixOf input then (16, input.drop 2)
    else if 2 ≤ input.length ∧ input.head? = some '0' then (8, input.drop 1)
    else (10, input)
  if input = [] then none
  else if digits.all (isRadixDigit radix) then
    some (joinDigits radix (digits.filterMap (toDigit radix)))
  else none

def isNumberLabel (label : List Char) : Bool :=
  (label ≠ [] && label.all (isRadixDigit 10)) || (ipv4Number label).isSome

/-- The ends-in-a-number checker: one empty label at the end is the root and does not count. -/
def endsInNumber (name : String) : Bool :=
  let parts := name.toList.splitOn '.'
  let parts := if parts.getLast? = some [] then parts.dropLast else parts
  parts.getLast?.any isNumberLabel

example : endsInNumber "1.2.3.4." = true := by decide

example : endsInNumber "1.2.3.4.." = false := by decide

theorem endsInNumber_of_digits {name : String} {front last : List Char}
    (hname : name.toList = front ++ '.' :: last) (hne : last ≠ [])
    (hdigits : ∀ c ∈ last, isRadixDigit 10 c = true) : endsInNumber name = true := by
  have hdot : '.' ∉ last := fun hmem => absurd (hdigits '.' hmem) (by decide)
  have hlast : (name.toList.splitOn '.').getLast? = some last := by
    rw [hname, List.splitOn_append_cons_self, List.splitOn_eq_singleton hdot,
      List.getLast?_append_of_ne_nil _ (List.cons_ne_nil last [])]
    rfl
  have hkeep : ¬(name.toList.splitOn '.').getLast? = some [] := by
    rw [hlast]
    exact fun h => hne (Option.some.inj h)
  unfold endsInNumber
  simp only
  rw [if_neg hkeep, hlast, Option.any_some, isNumberLabel, List.all_eq_true.mpr hdigits,
    decide_eq_true hne]
  rfl

/-- An empty part at the end is behind a separator. -/
theorem intercalate_concat_nil {c : Char} {parts : List (List Char)} (hne : parts ≠ []) :
    ∃ front, [c].intercalate (parts ++ [[]]) = front ++ [c] := by
  induction parts with
  | nil => exact absurd rfl hne
  | cons part parts ih =>
    rw [List.cons_append, List.intercalate_cons_of_ne_nil (by simp)]
    by_cases hparts : parts = []
    · exact ⟨part, by simp [hparts]⟩
    · obtain ⟨front, hfront⟩ := ih hparts
      refine ⟨part ++ ([c] ++ front), ?_⟩
      simp only [hfront, List.append_assoc]

theorem getLast_splitOn_ne_nil {cs : List Char} (hne : cs ≠ []) (hlast : cs.getLast? ≠ some '.') :
    (cs.splitOn '.').getLast? ≠ some [] := by
  intro h
  obtain ⟨parts, hparts⟩ := List.getLast?_eq_some_iff.mp h
  have hjoin : ['.'].intercalate (cs.splitOn '.') = cs := List.intercalate_splitOn '.'
  rw [hparts] at hjoin
  by_cases hnil : parts = []
  · rw [hnil] at hjoin
    exact hne hjoin.symm
  · obtain ⟨front, hfront⟩ := intercalate_concat_nil (c := '.') hnil
    rw [hjoin] at hfront
    exact hlast (List.getLast?_eq_some_iff.mpr ⟨front, hfront⟩)

/-- One dot at the end makes no difference. -/
theorem endsInNumber_root {name : String} (hlast : name.toList.getLast? ≠ some '.') :
    endsInNumber (name ++ ".") = endsInNumber name := by
  have hsplit : (name ++ ".").toList.splitOn '.' = name.toList.splitOn '.' ++ [[]] := by
    have hdot : ".".toList = '.' :: [] := by decide
    rw [String.toList_append, hdot, List.splitOn_append_cons_self, List.splitOn_nil]
  unfold endsInNumber
  simp only
  rw [hsplit, if_pos List.getLast?_concat, List.dropLast_concat]
  by_cases hname : name.toList = []
  · rw [hname]
    decide
  · rw [if_neg (getLast_splitOn_ne_nil hname hlast)]

/-- A name is no address when it has no colons and does not end in a number. -/
theorem IpAddr.parse_eq_none {name : String} (hcolon : ':' ∉ name.toList)
    (hnumber : endsInNumber name = false) : IpAddr.parse name = none := by
  cases h : IpAddr.parse name with
  | none => rfl
  | some ip =>
    obtain ⟨front, last, hname, hne, hdigits⟩ := IpAddr.parse_last hcolon h
    rw [endsInNumber_of_digits hname hne hdigits] at hnumber
    cases hnumber

/-! ## The parsers -/

/-- Errors are taken as the texts they are shown with. -/
structure Parsers where
  host : String → Except String Host
  url : String → Except String Url

/-- The host parser percent-decodes a text and takes it from domain to ASCII, here both at once as
`toAscii`; a text in brackets is an IPv6 address. What ends in a number then is an IPv4 address or
no host at all. -/
structure Parsers.Standard (parsers : Parsers) (toAscii : String → Option String) : Prop where
  domain : ∀ text name, parsers.host text = .ok (.domain name) ↔
    text.toList.head? ≠ some '[' ∧ toAscii text = some name ∧ endsInNumber name = false
  lower : ∀ text name, toAscii text = some name → ∀ c ∈ name.toList,
    c.toNat < 0x80 ∧ c.isUpper = false
  /-- Serializing and parsing again changes nothing. -/
  again : ∀ text name, toAscii text = some name → toAscii name = some name
  /-- The labels are taken one by one, so the empty one at the end may be left out. -/
  root : ∀ name, name ≠ "" → toAscii (name ++ ".") = some (name ++ ".") → toAscii name = some name
  /-- The host of a URL with a special scheme comes from the host parser. -/
  special : ∀ text url host, parsers.url text = .ok url → url.scheme = "http" ∨ url.scheme = "https" →
    url.host = some host → ∃ part, parsers.host part = .ok host

namespace Parsers.Standard

variable {parsers : Parsers} {toAscii : String → Option String}

theorem toAscii_dots (standard : parsers.Standard toAscii) {name : String} (hne : name ≠ "")
    (count : Nat) (h : toAscii (name ++ String.ofList (List.replicate count '.')) =
      some (name ++ String.ofList (List.replicate count '.'))) : toAscii name = some name := by
  induction count with
  | zero => rwa [List.replicate_zero, String.ofList_nil, String.append_empty] at h
  | succ count ih =>
    have hdots : name ++ String.ofList (List.replicate (count + 1) '.') =
        name ++ String.ofList (List.replicate count '.') ++ "." := by
      refine String.toList_injective ?_
      simp [List.replicate_succ']
    rw [hdots] at h
    refine ih (standard.root _ (fun hempty => hne ?_) h)
    exact (String.append_eq_empty_iff.mp hempty).1

/-- A domain, and what is left of it without its trailing dots, stand for themselves. -/
theorem toAscii_trimEnd (standard : parsers.Standard toAscii) {text name : String}
    (h : parsers.host text = .ok (.domain name)) (hne : trimEnd '.' name ≠ "") :
    toAscii (trimEnd '.' name) = some (trimEnd '.' name) := by
  obtain ⟨count, hcut⟩ := trimEnd_append '.' name
  have hself := standard.again text name ((standard.domain text name).mp h).2.1
  refine standard.toAscii_dots hne count ?_
  rwa [hcut] at hself

/-- A domain that ends in a number without its trailing dots has two of them or more. -/
theorem two_dots (standard : parsers.Standard toAscii) {text name : String}
    (h : parsers.host text = .ok (.domain name)) (hnumber : endsInNumber (trimEnd '.' name) = true) :
    ∃ front, name = front ++ ".." := by
  have hdomain := ((standard.domain text name).mp h).2.2
  obtain ⟨count, hcut⟩ := trimEnd_append '.' name
  cases count with
  | zero =>
    rw [List.replicate_zero, String.ofList_nil, String.append_empty] at hcut
    rw [← hcut, hdomain] at hnumber
    cases hnumber
  | succ count =>
    cases count with
    | zero =>
      have hroot : name = trimEnd '.' name ++ "." := hcut
      rw [hroot, endsInNumber_root (trimEnd_getLast '.' name), hnumber] at hdomain
      cases hdomain
    | succ count =>
      refine ⟨trimEnd '.' name ++ String.ofList (List.replicate count '.'),
        String.toList_injective ?_⟩
      rw [congrArg String.toList hcut]
      simp [List.replicate_succ']

theorem domain_trimEnd_iff (standard : parsers.Standard toAscii) {text name other : String}
    (h : parsers.host text = .ok (.domain name)) (hne : trimEnd '.' name ≠ "")
    (hopen : (trimEnd '.' name).toList.head? ≠ some '[') :
    parsers.host (trimEnd '.' name) = .ok (.domain other) ↔
      other = trimEnd '.' name ∧ endsInNumber (trimEnd '.' name) = false := by
  rw [standard.domain, standard.toAscii_trimEnd h hne, Option.some.injEq]
  constructor
  · rintro ⟨-, rfl, hnumber⟩
    exact ⟨rfl, hnumber⟩
  · rintro ⟨rfl, hnumber⟩
    exact ⟨hopen, rfl, hnumber⟩

end Parsers.Standard

end Surface

import Surface.Ordered

/-!
# Surface.Json

JSON values as a serialisation library builds them: the members of an object are kept in
ascending order of their names, each name once.

* `Json.mapOf`: an object from its members in any order.
* `Json.field?`, `Json.removeField`, `Json.modifyField`, `Json.modifyItems`: reading and editing.
* `mapOf_inj`, `mapOf_members`: two objects with the same distinct names agree exactly when all
  members do.
* `removeField_mapOf`, `modifyField_mapOf`: editing an object edits its list of members.
* `Json.text`, `Json.prettyText`: the compact and the indented text of a value.
-/

namespace Surface

inductive Json where
  | null
  | bool (b : Bool)
  | number (n : Int)
  | string (s : String)
  | array (items : List Json)
  | object (members : List (String × Json))

namespace Json

mutual

def decEq : (a b : Json) → Decidable (a = b)
  | .null, .null => .isTrue rfl
  | .bool a, .bool b => decidable_of_iff (a = b) (by simp)
  | .number a, .number b => decidable_of_iff (a = b) (by simp)
  | .string a, .string b => decidable_of_iff (a = b) (by simp)
  | .array a, .array b =>
    match decEqItems a b with
    | .isTrue h => .isTrue (by rw [h])
    | .isFalse h => .isFalse (fun he => h (by cases he; rfl))
  | .object a, .object b =>
    match decEqMembers a b with
    | .isTrue h => .isTrue (by rw [h])
    | .isFalse h => .isFalse (fun he => h (by cases he; rfl))
  | .null, .bool _ | .null, .number _ | .null, .string _ | .null, .array _ | .null, .object _
  | .bool _, .null | .bool _, .number _ | .bool _, .string _ | .bool _, .array _
  | .bool _, .object _ | .number _, .null | .number _, .bool _ | .number _, .string _
  | .number _, .array _ | .number _, .object _ | .string _, .null | .string _, .bool _
  | .string _, .number _ | .string _, .array _ | .string _, .object _ | .array _, .null
  | .array _, .bool _ | .array _, .number _ | .array _, .string _ | .array _, .object _
  | .object _, .null | .object _, .bool _ | .object _, .number _ | .object _, .string _
  | .object _, .array _ => .isFalse (fun h => (by cases h))

def decEqItems : (a b : List Json) → Decidable (a = b)
  | [], [] => .isTrue rfl
  | [], _ :: _ => .isFalse (fun h => (by cases h))
  | _ :: _, [] => .isFalse (fun h => (by cases h))
  | a :: as, b :: bs =>
    match decEq a b, decEqItems as bs with
    | .isTrue h, .isTrue hs => .isTrue (by rw [h, hs])
    | .isFalse h, _ => .isFalse (fun he => h (by cases he; rfl))
    | _, .isFalse hs => .isFalse (fun he => hs (by cases he; rfl))

def decEqMembers : (a b : List (String × Json)) → Decidable (a = b)
  | [], [] => .isTrue rfl
  | [], _ :: _ => .isFalse (fun h => (by cases h))
  | _ :: _, [] => .isFalse (fun h => (by cases h))
  | (j, a) :: as, (k, b) :: bs =>
    match decEq a b, decEqMembers as bs with
    | .isTrue h, .isTrue hs =>
      decidable_of_iff (j = k) ⟨fun hk => (by rw [hk, h, hs]), fun he => (by cases he; rfl)⟩
    | .isFalse h, _ => .isFalse (fun he => h (by cases he; rfl))
    | _, .isFalse hs => .isFalse (fun he => hs (by cases he; rfl))

end

instance : DecidableEq Json := decEq

instance : Inhabited Json := ⟨null⟩

/-! ## Building -/

def mapOf (members : List (String × Json)) : Json := .object (OrdMap.ofList members).entries

/-- A missing value is `null`. -/
def ofOption {α : Type} (f : α → Json) : Option α → Json
  | none => .null
  | some a => f a

def ofList {α : Type} (f : α → Json) (l : List α) : Json := .array (l.map f)

def ofNat (n : Nat) : Json := .number n

def ofMap {α : Type} (f : α → Json) (m : OrdMap String α) : Json :=
  .object (m.entries.map fun e => (e.1, f e.2))

/-! ## Reading and editing -/

def field? (name : String) : Json → Option Json
  | .object members => members.lookup name
  | _ => none

def removeField (name : String) : Json → Json
  | .object members => .object (members.filter fun member => member.1 ≠ name)
  | value => value

def modifyField (name : String) (f : Json → Json) : Json → Json
  | .object members => .object (members.map (OrdMap.editEntry name f))
  | value => value

def modifyItems (f : Json → Json) : Json → Json
  | .array items => .array (items.map f)
  | value => value

/-! ## Text -/

def hexDigit (n : Nat) : Char := (Nat.toDigits 16 n).headD '0'

def quoteMark : Char := Char.ofNat 34

def backslash : Char := Char.ofNat 92

def escapeChar (c : Char) : List Char :=
  if c = quoteMark ∨ c = backslash then [backslash, c]
  else if c.toNat = 8 then [backslash, 'b']
  else if c.toNat = 9 then [backslash, 't']
  else if c.toNat = 10 then [backslash, 'n']
  else if c.toNat = 12 then [backslash, 'f']
  else if c.toNat = 13 then [backslash, 'r']
  else if c.toNat < 32 then
    [backslash, 'u', '0', '0', hexDigit (c.toNat / 16), hexDigit (c.toNat % 16)]
  else [c]

def quote (s : String) : String :=
  String.ofList (quoteMark :: s.toList.flatMap escapeChar ++ [quoteMark])

mutual

def text : Json → String
  | .null => "null"
  | .bool b => if b then "true" else "false"
  | .number n => toString n
  | .string s => quote s
  | .array items => "[" ++ ",".intercalate (textItems items) ++ "]"
  | .object members => "\x7b" ++ ",".intercalate (textMembers members) ++ "\x7d"

def textItems : List Json → List String
  | [] => []
  | item :: items => text item :: textItems items

def textMembers : List (String × Json) → List String
  | [] => []
  | (name, value) :: members => (quote name ++ ":" ++ text value) :: textMembers members

end

/-- The white space in front of a line. -/
def indent (depth : Nat) : String := String.ofList (List.replicate (2 * depth) ' ')

/-- Items on lines of their own, or nothing between the brackets when there are none. -/
def prettyBlock (depth : Nat) (opening closing : String) (lines : List String) : String :=
  if lines.isEmpty then opening ++ closing
  else opening ++ "\n" ++
    ",\n".intercalate (lines.map fun line => indent (depth + 1) ++ line) ++
    "\n" ++ indent depth ++ closing

mutual

def pretty (depth : Nat) : Json → String
  | .array items => prettyBlock depth "[" "]" (prettyItems (depth + 1) items)
  | .object members => prettyBlock depth "\x7b" "\x7d" (prettyMembers (depth + 1) members)
  | .null => "null"
  | .bool b => if b then "true" else "false"
  | .number n => toString n
  | .string s => quote s

def prettyItems (depth : Nat) : List Json → List String
  | [] => []
  | item :: items => pretty depth item :: prettyItems depth items

def prettyMembers (depth : Nat) : List (String × Json) → List String
  | [] => []
  | (name, value) :: members =>
    (quote name ++ ": " ++ pretty depth value) :: prettyMembers depth members

end

/-- The indented text of a value. -/
def prettyText (value : Json) : String := pretty 0 value

/-! ## Laws -/

theorem mapOf_inj {l l' : List (String × Json)} (hk : l.map Prod.fst = l'.map Prod.fst)
    (hn : (l.map Prod.fst).Nodup) : mapOf l = mapOf l' ↔ l = l' := by
  rw [← OrdMap.ofList_inj hk hn]
  refine ⟨fun h => ?_, fun h => congrArg (fun m : OrdMap String Json => Json.object m.entries) h⟩
  have hentries := Json.object.inj h
  cases hl : OrdMap.ofList l
  cases hl' : OrdMap.ofList l'
  simp_all

/-- Equal objects built from the same distinct names have equal members. -/
theorem mapOf_members {l l' : List (String × Json)} (h : mapOf l = mapOf l')
    (hk : l.map Prod.fst = l'.map Prod.fst) (hn : (l.map Prod.fst).Nodup) : l = l' :=
  (mapOf_inj hk hn).mp h

theorem field?_mapOf (name : String) (l : List (String × Json)) :
    (mapOf l).field? name = l.reverse.lookup name :=
  OrdMap.get_ofList l name

theorem removeField_mapOf (name : String) (l : List (String × Json)) :
    (mapOf l).removeField name = mapOf (l.filter fun member => member.1 ≠ name) :=
  congrArg (fun m : OrdMap String Json => Json.object m.entries) (OrdMap.erase_ofList l name)

theorem modifyField_mapOf (name : String) (f : Json → Json) (l : List (String × Json)) :
    (mapOf l).modifyField name f = mapOf (l.map (OrdMap.editEntry name f)) :=
  congrArg (fun m : OrdMap String Json => Json.object m.entries) (OrdMap.adjust_ofList l name f)

theorem mapOf_ne_null (l : List (String × Json)) : mapOf l ≠ null := by
  intro h
  cases h

section Injective

variable {α : Type} {f : α → Json}

theorem string_injective : Function.Injective Json.string := fun _ _ h => Json.string.inj h

theorem bool_injective : Function.Injective Json.bool := fun _ _ h => Json.bool.inj h

theorem ofNat_injective : Function.Injective ofNat := fun _ _ h => by
  have hint := Json.number.inj h
  omega

theorem ofOption_injective (hf : Function.Injective f) (hnull : ∀ a, f a ≠ .null) :
    Function.Injective (ofOption f) := by
  intro a b h
  cases a with
  | none =>
    cases b with
    | none => rfl
    | some b => exact absurd h.symm (hnull b)
  | some a =>
    cases b with
    | none => exact absurd h (hnull a)
    | some b => rw [hf h]

theorem ofList_injective (hf : Function.Injective f) : Function.Injective (ofList f) :=
  fun _ _ h => List.map_injective_iff.mpr hf (Json.array.inj h)

theorem ofMap_injective (hf : Function.Injective f) : Function.Injective (ofMap f) := by
  intro m m' h
  have hentry : Function.Injective (fun e : String × α => (e.1, f e.2)) := by
    rintro ⟨k, a⟩ ⟨k', a'⟩ he
    obtain ⟨hk, ha⟩ := Prod.mk.inj he
    rw [Prod.mk.injEq]
    exact ⟨hk, hf ha⟩
  have hentries := List.map_injective_iff.mpr hentry (Json.object.inj h)
  cases m
  cases m'
  simp_all

end Injective

end Json

end Surface

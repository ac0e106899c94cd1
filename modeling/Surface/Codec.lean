import Surface.JsonRead

/-!
# Surface.Codec

Values as JSON values and back, described once for both directions, as derived serialisation does
it. A `Codec` carries what its two directions owe each other as fields, so a codec put together
from others needs no proof of its own.

* `Codec.unsigned`, `Codec.list`, `Codec.enumeration`, `Codec.map`: the codecs of plain values.
* `Field`: a member of a record, which may have a default or be left out.
* `Fields`: the members of a record in their order; `Fields.codec` is the record as an object.
-/

namespace Surface

open Json

/-! ## Nesting -/

namespace Json

theorem bool_ne_null (b : Bool) : bool b ≠ null := fun h => by cases h

theorem number_ne_null (n : Int) : number n ≠ null := fun h => by cases h

theorem string_ne_null (s : String) : string s ≠ null := fun h => by cases h

theorem array_ne_null (items : List Json) : array items ≠ null := fun h => by cases h

theorem object_ne_null (members : List (String × Json)) : object members ≠ null :=
  fun h => by cases h

theorem readableItems_iff {depth : Nat} {l : List Json} :
    readableItems depth l = true ↔ ∀ v ∈ l, readable depth v = true := by
  induction l with
  | nil => simp [readableItems]
  | cons v l ih => rw [readableItems, Bool.and_eq_true, ih, List.forall_mem_cons]

theorem readableMembers_iff {depth : Nat} {l : List (String × Json)} :
    readableMembers depth l = true ↔ ∀ member ∈ l, readable depth member.2 = true := by
  induction l with
  | nil => simp [readableMembers]
  | cons member l ih => rw [readableMembers, Bool.and_eq_true, ih, List.forall_mem_cons]

mutual

theorem readable_mono : ∀ {v : Json} {m n : Nat}, m ≤ n → readable m v = true →
    readable n v = true
  | .null, _, _, _, _ | .bool _, _, _, _, _ | .string _, _, _, _, _ => rfl
  | .number _, _, _, _, h => h
  | .array items, m, n, hle, h => by
    rw [readable, Bool.and_eq_true, decide_eq_true_eq] at h ⊢
    exact ⟨Nat.lt_of_lt_of_le h.1 hle, readableItems_mono (Nat.sub_le_sub_right hle 1) h.2⟩
  | .object members, m, n, hle, h => by
    rw [readable, Bool.and_eq_true, decide_eq_true_eq] at h ⊢
    exact ⟨Nat.lt_of_lt_of_le h.1 hle, readableMembers_mono (Nat.sub_le_sub_right hle 1) h.2⟩

theorem readableItems_mono : ∀ {l : List Json} {m n : Nat}, m ≤ n → readableItems m l = true →
    readableItems n l = true
  | [], _, _, _, _ => rfl
  | v :: l, m, n, hle, h => by
    rw [readableItems, Bool.and_eq_true] at h ⊢
    exact ⟨readable_mono hle h.1, readableItems_mono hle h.2⟩

theorem readableMembers_mono : ∀ {l : List (String × Json)} {m n : Nat}, m ≤ n →
    readableMembers m l = true → readableMembers n l = true
  | [], _, _, _, _ => rfl
  | (_, v) :: l, m, n, hle, h => by
    rw [readableMembers, Bool.and_eq_true] at h ⊢
    exact ⟨readable_mono hle h.1, readableMembers_mono hle h.2⟩

end

theorem readable_array {depth : Nat} {l : List Json} (h : ∀ v ∈ l, readable depth v = true) :
    readable (depth + 1) (.array l) = true := by
  rw [readable, Bool.and_eq_true, decide_eq_true_eq]
  exact ⟨Nat.succ_pos depth, readableItems_iff.mpr h⟩

theorem readable_object {depth : Nat} {l : List (String × Json)}
    (h : ∀ member ∈ l, readable depth member.2 = true) :
    readable (depth + 1) (.object l) = true := by
  rw [readable, Bool.and_eq_true, decide_eq_true_eq]
  exact ⟨Nat.succ_pos depth, readableMembers_iff.mpr h⟩

end Json

/-! ## Codecs -/

/-- How the values of a type are written and read. Values that do not fit are not values of the
type that is modelled, such as numbers beyond its width. -/
structure Codec (α : Type) where
  write : α → Json
  read : Json → Option α
  fits : α → Bool
  depth : Nat
  read_write : ∀ {a}, fits a = true → read (write a) = some a
  read_fits : ∀ {j a}, read j = some a → fits a = true
  write_ne_null : ∀ a, write a ≠ .null
  readable_write : ∀ {a}, fits a = true → (write a).readable depth = true

namespace Codec

variable {α β : Type}

def string : Codec String where
  write := .string
  read
    | .string s => some s
    | _ => none
  fits _ := true
  depth := 0
  read_write _ := rfl
  read_fits _ := rfl
  write_ne_null _ := Json.string_ne_null _
  readable_write _ := rfl

def bool : Codec Bool where
  write := .bool
  read
    | .bool b => some b
    | _ => none
  fits _ := true
  depth := 0
  read_write _ := rfl
  read_fits _ := rfl
  write_ne_null _ := Json.bool_ne_null _
  readable_write _ := rfl

/-- A number without a sign, of at most 64 bits. -/
def unsigned (width : Nat) (hwidth : width ≤ 64) : Codec Nat where
  write := ofNat
  read
    | .number n => if 0 ≤ n ∧ n < 2 ^ width then some n.toNat else none
    | _ => none
  fits n := decide (n < 2 ^ width)
  depth := 0
  read_write {n} h := by
    have hn : n < 2 ^ width := of_decide_eq_true h
    have hint : (0 : Int) ≤ n ∧ (n : Int) < 2 ^ width := by
      refine ⟨Int.natCast_nonneg n, ?_⟩
      exact_mod_cast hn
    show (if 0 ≤ (n : Int) ∧ (n : Int) < 2 ^ width then some (n : Int).toNat else none) = some n
    rw [if_pos hint, Int.toNat_natCast]
  read_fits {j n} h := by
    cases j with
    | number m =>
      simp only at h
      split at h
      · rename_i hm
        rw [← Option.some.inj h, decide_eq_true_eq]
        have hcast : ((m.toNat : Nat) : Int) < 2 ^ width := by
          rw [Int.toNat_of_nonneg hm.1]
          exact hm.2
        exact_mod_cast hcast
      · cases h
    | _ => cases h
  write_ne_null _ := Json.number_ne_null _
  readable_write {n} h := by
    have hn : n < 2 ^ width := of_decide_eq_true h
    have hlt : n < 2 ^ 64 := Nat.lt_of_lt_of_le hn (Nat.pow_le_pow_right (by decide) hwidth)
    have hwhole : IsWhole (n : Int) :=
      ⟨Int.le_trans (by decide) (Int.natCast_nonneg n), by exact_mod_cast hlt⟩
    rw [ofNat, readable, decide_eq_true_eq]
    exact hwhole

/-- A number of 64 bits, one of them the sign. -/
def signed : Codec Int where
  write := .number
  read
    | .number n => if -2 ^ 63 ≤ n ∧ n < 2 ^ 63 then some n else none
    | _ => none
  fits n := decide (-2 ^ 63 ≤ n ∧ n < 2 ^ 63)
  depth := 0
  read_write h := if_pos (of_decide_eq_true h)
  read_fits {j n} h := by
    cases j with
    | number m =>
      simp only at h
      split at h
      · rename_i hm
        rw [← Option.some.inj h]
        exact decide_eq_true hm
      · cases h
    | _ => cases h
  write_ne_null _ := Json.number_ne_null _
  readable_write {n} h := by
    obtain ⟨hlow, hhigh⟩ := of_decide_eq_true h
    rw [readable, decide_eq_true_eq]
    exact ⟨hlow, Int.lt_trans hhigh (by decide)⟩

/-- Values that are displayed as a text and parsed from it. -/
def text (display : α → String) (parse : String → Option α) (fits : α → Bool)
    (hparse : ∀ {a}, fits a = true → parse (display a) = some a)
    (hfits : ∀ {s a}, parse s = some a → fits a = true) : Codec α where
  write a := .string (display a)
  read
    | .string s => parse s
    | _ => none
  fits := fits
  depth := 0
  read_write := hparse
  read_fits {j a} h := by
    cases j with
    | string s => exact hfits h
    | _ => cases h
  write_ne_null _ := Json.string_ne_null _
  readable_write _ := rfl

/-- The values of an enumeration by their names. A reader also takes an object whose one member
has the name and is `null`. -/
def enumeration (name : α → String) (all : List α)
    (h : ∀ a, all.find? (fun b => name b = name a) = some a) : Codec α where
  write a := .string (name a)
  read
    | .string s => all.find? fun b => name b = s
    | .object [(s, .null)] => all.find? fun b => name b = s
    | _ => none
  fits _ := true
  depth := 0
  read_write _ := h _
  read_fits _ := rfl
  write_ne_null _ := Json.string_ne_null _
  readable_write _ := rfl

/-- Every item is read, or nothing. -/
def readAll (read : Json → Option α) : List Json → Option (List α)
  | [] => some []
  | j :: l => (read j).bind fun a => (readAll read l).map (a :: ·)

theorem readAll_map {read : Json → Option α} {write : α → Json} {l : List α}
    (h : ∀ a ∈ l, read (write a) = some a) : readAll read (l.map write) = some l := by
  induction l with
  | nil => rfl
  | cons a l ih =>
    rw [List.map_cons, readAll, h a List.mem_cons_self, Option.bind_some,
      ih fun b hb => h b (List.mem_cons_of_mem a hb)]
    rfl

theorem readAll_forall {read : Json → Option α} {p : α → Prop} {js : List Json} {l : List α}
    (h : readAll read js = some l) (hp : ∀ {j a}, read j = some a → p a) : ∀ a ∈ l, p a := by
  induction js generalizing l with
  | nil =>
    cases h
    exact List.forall_mem_nil p
  | cons j js ih =>
    obtain ⟨a, ha, hrest⟩ := Option.bind_eq_some_iff.mp h
    obtain ⟨rest, hmore, rfl⟩ := Option.map_eq_some_iff.mp hrest
    exact List.forall_mem_cons.mpr ⟨hp ha, ih hmore⟩

def list (c : Codec α) : Codec (List α) where
  write l := .array (l.map c.write)
  read
    | .array items => readAll c.read items
    | _ => none
  fits l := l.all c.fits
  depth := c.depth + 1
  read_write h := readAll_map fun a ha => c.read_write (List.all_eq_true.mp h a ha)
  read_fits {j l} h := by
    cases j with
    | array items => exact List.all_eq_true.mpr (readAll_forall h c.read_fits)
    | _ => cases h
  write_ne_null _ := Json.array_ne_null _
  readable_write {l} h := by
    refine readable_array fun v hv => ?_
    obtain ⟨a, ha, rfl⟩ := List.mem_map.mp hv
    exact c.readable_write (List.all_eq_true.mp h a ha)

/-- A map from texts as an object. Of members with one name the last one counts. -/
def map (c : Codec α) : Codec (OrdMap String α) where
  write m := .object (m.entries.map fun e => (e.1, c.write e.2))
  read
    | .object members =>
      (readAll c.read (members.map Prod.snd)).map fun values =>
        OrdMap.ofList ((members.map Prod.fst).zip values)
    | _ => none
  fits m := m.entries.all fun e => c.fits e.2
  depth := c.depth + 1
  read_write {m} h := by
    have hall := List.all_eq_true.mp h
    have hvalues : readAll c.read ((m.entries.map fun e => (e.1, c.write e.2)).map Prod.snd) =
        some (m.entries.map Prod.snd) := by
      rw [List.map_map, show (Prod.snd ∘ fun e : String × α => (e.1, c.write e.2)) =
        c.write ∘ Prod.snd from rfl, ← List.map_map]
      refine readAll_map fun a ha => ?_
      obtain ⟨e, he, rfl⟩ := List.mem_map.mp ha
      exact c.read_write (hall e he)
    have hkeys : (m.entries.map fun e => (e.1, c.write e.2)).map Prod.fst =
        m.entries.map Prod.fst := by
      rw [List.map_map]
      rfl
    show (readAll c.read ((m.entries.map fun e => (e.1, c.write e.2)).map Prod.snd)).map _ = _
    have hzip : m.entries = (m.entries.map Prod.fst).zip (m.entries.map Prod.snd) :=
      List.zip_of_prod rfl rfl
    rw [hvalues, Option.map_some, hkeys, ← hzip, OrdMap.ofList_entries]
  read_fits {j m} h := by
    cases j with
    | object members =>
      obtain ⟨values, hvalues, rfl⟩ := Option.map_eq_some_iff.mp h
      refine List.all_eq_true.mpr fun e he => ?_
      have hmem := List.mem_reverse.mp (OrdMap.mem_of_lookup
        ((OrdMap.get_ofList _ e.1).symm.trans (OrdMap.mem_entries_iff.mp he)))
      exact readAll_forall hvalues c.read_fits e.2 (List.of_mem_zip hmem).2
    | _ => cases h
  write_ne_null _ := Json.object_ne_null _
  readable_write {m} h := by
    refine readable_object fun member hmember => ?_
    obtain ⟨e, he, rfl⟩ := List.mem_map.mp hmember
    exact c.readable_write (List.all_eq_true.mp h e he)

end Codec

/-! ## Records -/

/-- A member of a record. It is read from the member of its name, which may be missing, or as the
next of the items when the record is a list of its members. -/
structure Field (α : Type) where
  name : String
  write : α → Option Json
  readMember : Option Json → Option α
  readItem : Option Json → Option α
  fits : α → Bool
  depth : Nat
  readMember_write : ∀ {a}, fits a = true → readMember (write a) = some a
  readMember_fits : ∀ {j a}, readMember j = some a → fits a = true
  readItem_fits : ∀ {j a}, readItem j = some a → fits a = true
  readable_write : ∀ {a j}, fits a = true → write a = some j → j.readable depth = true

namespace Field

variable {α : Type}

/-- A value that is there, or else the default. -/
def readOr (read : Json → Option α) (missing : Option α) : Option Json → Option α
  | none => missing
  | some j => read j

theorem readOr_fits {c : Codec α} {missing : Option α} (h : ∀ a ∈ missing, c.fits a = true)
    {j : Option Json} {a : α} (hread : readOr c.read missing j = some a) : c.fits a = true := by
  cases j with
  | none => exact h a hread
  | some j => exact c.read_fits hread

/-- A member, with what is read when there is none. -/
def single (name : String) (c : Codec α) (missing : Option α)
    (h : ∀ a ∈ missing, c.fits a = true) : Field α where
  name := name
  write a := some (c.write a)
  readMember := readOr c.read missing
  readItem := readOr c.read missing
  fits := c.fits
  depth := c.depth
  readMember_write := c.read_write
  readMember_fits := readOr_fits h
  readItem_fits := readOr_fits h
  readable_write hfits hwrite := by
    rw [← Option.some.inj hwrite]
    exact c.readable_write hfits

/-- A member that has to be there. -/
def required (name : String) (c : Codec α) : Field α :=
  single name c none fun a h => by cases h

/-- A member with a default for records that do not have it. -/
def defaulted (name : String) (c : Codec α) (missing : α)
    (h : c.fits missing = true := by decide) : Field α :=
  single name c (some missing) fun a ha => by rwa [← Option.some.inj ha]

/-- Nothing is written as `null`. -/
def readNullable (c : Codec α) : Json → Option (Option α)
  | .null => some none
  | j => (c.read j).map some

theorem readNullable_write (c : Codec α) {o : Option α} (h : o.all c.fits = true) :
    readNullable c (ofOption c.write o) = some o := by
  cases o with
  | none => rfl
  | some a =>
    have hread : readNullable c (c.write a) = (c.read (c.write a)).map some := by
      cases hj : c.write a with
      | null => exact absurd hj (c.write_ne_null a)
      | _ => rfl
    rw [ofOption, hread, c.read_write h]
    rfl

theorem readNullable_fits (c : Codec α) {j : Json} {o : Option α}
    (h : readNullable c j = some o) : o.all c.fits = true := by
  cases j with
  | null =>
    cases h
    rfl
  | _ =>
    obtain ⟨a, ha, rfl⟩ := Option.map_eq_some_iff.mp h
    exact c.read_fits ha

theorem readOr_nullable_fits {c : Codec α} {missing : Option (Option α)}
    (h : ∀ o ∈ missing, o = none) {j : Option Json} {o : Option α}
    (hread : readOr (readNullable c) missing j = some o) : o.all c.fits = true := by
  cases j with
  | none =>
    rw [h o hread]
    rfl
  | some j => exact readNullable_fits c hread

theorem readable_nullable {c : Codec α} {o : Option α} (h : o.all c.fits = true) :
    (ofOption c.write o).readable c.depth = true := by
  cases o with
  | none => rfl
  | some a => exact c.readable_write h

/-- A value that may be absent. In a list of the members it can be left out only when it is marked
as having a default. -/
def optional (name : String) (c : Codec α) (marked : Bool) : Field (Option α) where
  name := name
  write o := some (ofOption c.write o)
  readMember := readOr (readNullable c) (some none)
  readItem := readOr (readNullable c) (if marked then some none else none)
  fits o := o.all c.fits
  depth := c.depth
  readMember_write := readNullable_write c
  readMember_fits := readOr_nullable_fits fun o h => (Option.some.inj h).symm
  readItem_fits := readOr_nullable_fits fun o h => by
    cases marked
    · cases h
    · exact (Option.some.inj h).symm
  readable_write hfits hwrite := by
    rw [← Option.some.inj hwrite]
    exact readable_nullable hfits

/-- A value that may be absent, and is left out of the object then. -/
def skipped (name : String) (c : Codec α) : Field (Option α) where
  name := name
  write o := o.map c.write
  readMember := readOr (readNullable c) (some none)
  readItem := readOr (readNullable c) (some none)
  fits o := o.all c.fits
  depth := c.depth
  readMember_write {o} h := by
    cases o with
    | none => rfl
    | some a => exact readNullable_write c h
  readMember_fits := readOr_nullable_fits fun o h => (Option.some.inj h).symm
  readItem_fits := readOr_nullable_fits fun o h => (Option.some.inj h).symm
  readable_write {o j} hfits hwrite := by
    obtain ⟨a, rfl, rfl⟩ := Option.map_eq_some_iff.mp hwrite
    exact c.readable_write hfits

@[simp] theorem required_name (name : String) (c : Codec α) : (required name c).name = name := rfl

@[simp] theorem defaulted_name (name : String) (c : Codec α) (missing : α)
    (h : c.fits missing = true) : (defaulted name c missing h).name = name := rfl

@[simp] theorem optional_name (name : String) (c : Codec α) (marked : Bool) :
    (optional name c marked).name = name := rfl

@[simp] theorem skipped_name (name : String) (c : Codec α) : (skipped name c).name = name := rfl

/-- The members of a record that are written for a field. -/
def members (f : Field α) (a : α) : List (String × Json) :=
  (f.write a).toList.map fun j => (f.name, j)

theorem lookup_members (f : Field α) (a : α) : (f.members a).lookup f.name = f.write a := by
  unfold members
  cases f.write a with
  | none => rfl
  | some j => exact List.lookup_cons_self

theorem lookup_members_ne (f : Field α) (a : α) {name : String} (h : name ≠ f.name) :
    (f.members a).lookup name = none := by
  unfold members
  cases f.write a with
  | none => rfl
  | some j =>
    rw [Option.toList_some, List.map_singleton, OrdMap.lookup_eq_none]
    rintro hmem
    exact h (List.mem_singleton.mp hmem)

end Field

/-- The members of a record, in the order in which they are written. -/
structure Fields (α : Type) where
  names : List String
  /-- The names of the members that have to be there. -/
  needed : List String
  write : α → List (String × Json)
  readMembers : (String → Option Json) → Option α
  readItems : List Json → Option α
  fits : α → Bool
  depth : Nat
  write_names : ∀ a, ((write a).map Prod.fst).Sublist names
  /-- The member of that name can be left out: what is read in its place is the same. -/
  omits : α → String → Prop
  readMembers_eq : ∀ {a} {look : String → Option Json}, names.Nodup → fits a = true →
    (∀ name ∈ names, look name = (write a).lookup name ∨ look name = none ∧ omits a name) →
    readMembers look = some a
  readMembers_needed : ∀ {look a}, readMembers look = some a →
    ∀ name ∈ needed, (look name).isSome = true
  readMembers_fits : ∀ {look a}, readMembers look = some a → fits a = true
  readItems_fits : ∀ {l a}, readItems l = some a → fits a = true
  readable_write : ∀ {a}, fits a = true → ∀ member ∈ write a, member.2.readable depth = true

namespace Fields

variable {α β γ : Type}

/-- The record without members. -/
def nil : Fields Unit where
  names := []
  needed := []
  write _ := []
  readMembers _ := some ()
  readItems
    | [] => some ()
    | _ => none
  fits _ := true
  depth := 0
  write_names _ := List.Sublist.refl []
  omits _ _ := False
  readMembers_eq _ _ _ := rfl
  readMembers_needed _ := List.forall_mem_nil _
  readMembers_fits _ := rfl
  readItems_fits _ := rfl
  readable_write _ := List.forall_mem_nil _

/-- One more member in front. -/
def cons (f : Field α) (r : Fields β) : Fields (α × β) where
  names := f.name :: r.names
  needed := if (f.readMember none).isNone = true then f.name :: r.needed else r.needed
  write a := f.members a.1 ++ r.write a.2
  readMembers look :=
    (f.readMember (look f.name)).bind fun a => (r.readMembers look).map fun b => (a, b)
  readItems l := (f.readItem l.head?).bind fun a => (r.readItems l.tail).map fun b => (a, b)
  fits a := f.fits a.1 && r.fits a.2
  depth := max f.depth r.depth
  write_names a := by
    rw [List.map_append, Field.members]
    cases f.write a.1 with
    | none => exact (r.write_names a.2).cons f.name
    | some j => exact (r.write_names a.2).cons_cons f.name
  omits a name := name = f.name ∧ f.readMember none = some a.1 ∨ name ≠ f.name ∧ r.omits a.2 name
  readMembers_eq {a look} hnodup hfits hlook := by
    obtain ⟨hname, hnodup⟩ := List.nodup_cons.mp hnodup
    obtain ⟨hfirst, hrest⟩ := (Bool.and_eq_true _ _).mp hfits
    have hout : (r.write a.2).lookup f.name = none :=
      OrdMap.lookup_eq_none fun hmem => hname ((r.write_names a.2).subset hmem)
    have hfound : (f.members a.1 ++ r.write a.2).lookup f.name = f.write a.1 := by
      rw [List.lookup_append, f.lookup_members, hout, Option.or_none]
    have hmember : f.readMember (look f.name) = some a.1 := by
      rcases hlook f.name List.mem_cons_self with heq | ⟨heq, ⟨-, homits⟩ | ⟨hne, -⟩⟩
      · rw [heq, hfound, f.readMember_write hfirst]
      · rw [heq, homits]
      · exact absurd rfl hne
    have hothers : ∀ name ∈ r.names, look name = (r.write a.2).lookup name ∨
        look name = none ∧ r.omits a.2 name := by
      intro name hmem
      have hne : name ≠ f.name := fun heq => hname (heq ▸ hmem)
      rcases hlook name (List.mem_cons_of_mem _ hmem) with heq | ⟨heq, ⟨hself, -⟩ | ⟨-, homits⟩⟩
      · rw [heq, List.lookup_append, f.lookup_members_ne a.1 hne, Option.none_or]
        exact .inl rfl
      · exact absurd hself hne
      · exact .inr ⟨heq, homits⟩
    rw [hmember, Option.bind_some, r.readMembers_eq hnodup hrest hothers]
    rfl
  readMembers_needed {look _} h := by
    obtain ⟨a, ha, h⟩ := Option.bind_eq_some_iff.mp h
    obtain ⟨b, hb, rfl⟩ := Option.map_eq_some_iff.mp h
    have hrest := r.readMembers_needed hb
    split
    · rename_i hnone
      refine List.forall_mem_cons.mpr ⟨?_, hrest⟩
      cases hlook : look f.name with
      | some j => rfl
      | none =>
        rw [hlook] at ha
        rw [ha] at hnone
        cases hnone
    · exact hrest
  readMembers_fits h := by
    obtain ⟨a, ha, h⟩ := Option.bind_eq_some_iff.mp h
    obtain ⟨b, hb, rfl⟩ := Option.map_eq_some_iff.mp h
    rw [f.readMember_fits ha, r.readMembers_fits hb]
    rfl
  readItems_fits h := by
    obtain ⟨a, ha, h⟩ := Option.bind_eq_some_iff.mp h
    obtain ⟨b, hb, rfl⟩ := Option.map_eq_some_iff.mp h
    rw [f.readItem_fits ha, r.readItems_fits hb]
    rfl
  readable_write {a} hfits member hmember := by
    obtain ⟨hfirst, hrest⟩ := (Bool.and_eq_true _ _).mp hfits
    rcases List.mem_append.mp hmember with hmember | hmember
    · obtain ⟨j, hj, rfl⟩ := List.mem_map.mp hmember
      exact readable_mono (Nat.le_max_left _ _)
        (f.readable_write hfirst (Option.mem_toList.mp hj))
    · exact readable_mono (Nat.le_max_right _ _) (r.readable_write hrest member hmember)

theorem cons_depth_le {f : Field α} {r : Fields β} {n : Nat} (hf : f.depth ≤ n)
    (hr : r.depth ≤ n) : (cons f r).depth ≤ n :=
  Nat.max_le.mpr ⟨hf, hr⟩

/-- A record under another representation of its members. -/
def iso (r : Fields β) (unpack : α → β) (pack : β → α) (h : ∀ a, pack (unpack a) = a)
    (h' : ∀ b, unpack (pack b) = b) : Fields α where
  names := r.names
  needed := r.needed
  write a := r.write (unpack a)
  readMembers look := (r.readMembers look).map pack
  readItems l := (r.readItems l).map pack
  fits a := r.fits (unpack a)
  depth := r.depth
  write_names a := r.write_names (unpack a)
  omits a := r.omits (unpack a)
  readMembers_eq hnodup hfits hlook := by
    rw [r.readMembers_eq hnodup hfits hlook, Option.map_some, h]
  readMembers_needed hread := by
    obtain ⟨b, hb, -⟩ := Option.map_eq_some_iff.mp hread
    exact r.readMembers_needed hb
  readMembers_fits hread := by
    obtain ⟨b, hb, rfl⟩ := Option.map_eq_some_iff.mp hread
    rw [h']
    exact r.readMembers_fits hb
  readItems_fits hread := by
    obtain ⟨b, hb, rfl⟩ := Option.map_eq_some_iff.mp hread
    rw [h']
    exact r.readItems_fits hb
  readable_write hfits := r.readable_write hfits

/-- A member of a known name must not come twice, those of other names are passed over. -/
def readObject (r : Fields α) (members : List (String × Json)) : Option α :=
  if ((members.map Prod.fst).filter (r.names.contains ·)).Nodup then
    r.readMembers (members.lookup ·)
  else none

/-- An object is read as a record when each of its members is the written one, or is left out and
can be. -/
theorem readObject_eq (r : Fields α) (hnodup : r.names.Nodup) {a : α} (h : r.fits a = true)
    {members : List (String × Json)}
    (hnames : ((members.map Prod.fst).filter (r.names.contains ·)).Nodup)
    (hmembers : ∀ name ∈ r.names, members.lookup name = (r.write a).lookup name ∨
      members.lookup name = none ∧ r.omits a name) : r.readObject members = some a := by
  rw [readObject, if_pos hnames, r.readMembers_eq hnodup h hmembers]

theorem readObject_write (r : Fields α) (hnodup : r.names.Nodup) {a : α}
    (h : r.fits a = true) : r.readObject (r.write a) = some a :=
  r.readObject_eq hnodup h (((r.write_names a).nodup hnodup).filter _) fun _ _ => .inl rfl

/-- No member of a known name comes twice, and those that have to be there are. -/
theorem readObject_some (r : Fields α) {members : List (String × Json)} {a : α}
    (h : r.readObject members = some a) :
    ((members.map Prod.fst).filter (r.names.contains ·)).Nodup ∧
      ∀ name ∈ r.needed, (members.lookup name).isSome = true := by
  unfold readObject at h
  split at h
  · rename_i hnames
    exact ⟨hnames, r.readMembers_needed h⟩
  · cases h

theorem readObject_fits (r : Fields α) {members : List (String × Json)} {a : α}
    (h : r.readObject members = some a) : r.fits a = true := by
  unfold readObject at h
  split at h
  · exact r.readMembers_fits h
  · cases h

/-- The record as an object. -/
def codec (r : Fields α) (hnodup : r.names.Nodup) : Codec α where
  write a := .object (r.write a)
  read
    | .object members => r.readObject members
    | .array items => r.readItems items
    | _ => none
  fits := r.fits
  depth := r.depth + 1
  read_write := r.readObject_write hnodup
  read_fits {j a} h := by
    cases j with
    | object members => exact r.readObject_fits h
    | array items => exact r.readItems_fits h
    | _ => cases h
  write_ne_null _ := Json.object_ne_null _
  readable_write h := readable_object (r.readable_write h)

end Fields

/-! ## Tagged values -/

namespace Codec

/-- The name of a case, as a text or as the name of the one member of an object. -/
def readTag : Json → Option String
  | .string s => some s
  | .object [(s, .null)] => some s
  | _ => none

/-- A tag beside its content: two members of an object, or the two items of a list. -/
def readAdjacent (tag content : String) : Json → Option (String × Json)
  | .object members =>
    if ((members.map Prod.fst).filter ([tag, content].contains ·)).Nodup then
      ((members.lookup tag).bind readTag).bind fun name =>
        (members.lookup content).map fun value => (name, value)
    else none
  | .array [name, value] => (readTag name).map fun name => (name, value)
  | _ => none

theorem readAdjacent_object {tag content : String} (h : tag ≠ content) (name : String)
    (value : Json) :
    readAdjacent tag content (.object [(tag, .string name), (content, value)]) =
      some (name, value) := by
  have hnames : (([(tag, Json.string name), (content, value)].map Prod.fst).filter
      ([tag, content].contains ·)).Nodup := by
    refine List.Nodup.filter _ ?_
    simpa using h
  have hcontent : [(tag, Json.string name), (content, value)].lookup content = some value := by
    rw [List.lookup_cons, beq_eq_false_iff_ne.mpr (Ne.symm h)]
    exact List.lookup_cons_self
  simp only [readAdjacent]
  rw [if_pos hnames, List.lookup_cons_self, hcontent]
  rfl

/-- A tag among the members of the value itself, or in front of its items. -/
def readInternal (tag : String) : Json → Option (String × Json)
  | .object members =>
    match members.filter (·.1 = tag) with
    | [(_, .string name)] => some (name, .object (members.filter (·.1 ≠ tag)))
    | _ => none
  | .array (.string name :: items) => some (name, .array items)
  | _ => none

theorem readInternal_object {tag : String} (name : String) {members : List (String × Json)}
    (h : tag ∉ members.map Prod.fst) :
    readInternal tag (.object ((tag, .string name) :: members)) = some (name, .object members) := by
  have hother : ∀ member ∈ members, member.1 ≠ tag := fun member hmember heq =>
    h (List.mem_map.mpr ⟨member, hmember, heq⟩)
  have hone : ((tag, Json.string name) :: members).filter (·.1 = tag) =
      [(tag, .string name)] := by
    rw [List.filter_cons_of_pos (by simp), List.cons.injEq]
    exact ⟨rfl, List.filter_eq_nil_iff.mpr fun member hmember => by simpa using hother member hmember⟩
  have hall : ((tag, Json.string name) :: members).filter (·.1 ≠ tag) = members := by
    rw [List.filter_cons_of_neg (by simp)]
    exact List.filter_eq_self.mpr fun member hmember => by simpa using hother member hmember
  simp only [readInternal, hone, hall]

end Codec

end Surface

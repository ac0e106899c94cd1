import Surface.Text

/-!
# Surface.Cli.FileNames

The stem of a report file, made from the name of the target.

* `safeFilenameComponent`: other characters replaced, dots at the ends removed, a word for nothing,
  and a suffix for a name that Windows reserves.
* `safeFilenameComponent_shape`: what holds of every stem.
* `safeFilenameComponent_unreserved`: when the suffix helps. Names are reserved up to their first
  dot, and the suffix is put behind the last one.
-/

namespace Surface

def isFileNameChar (c : Char) : Bool := c.isAlphanum || c == '-' || c == '_' || c == '.'

def fileNameChar (c : Char) : Char := if isFileNameChar c then c else '-'

/-- The names of devices, in capital letters. -/
def isDeviceName (upper : List Char) : Bool :=
  upper ∈ ["CON".toList, "PRN".toList, "AUX".toList, "NUL".toList] ||
    match upper with
    | [a, b, c, d] => [a, b, c] ∈ ["COM".toList, "LPT".toList] && d.isDigit && d ≠ '0'
    | _ => false

def isWindowsReservedName (value : String) : Bool :=
  isDeviceName ((value.toList.takeWhile (· ≠ '.')).map Char.toUpper)

def safeFilenameComponent (value : String) : String :=
  let trimmed := trimMatches (fun c => c == '.' || c == ' ') (value.toList.map fileNameChar)
  let safe := if trimmed = [] then "target" else String.ofList trimmed
  if isWindowsReservedName safe then safe ++ "-target" else safe

example : safeFilenameComponent "2001:db8::1" = "2001-db8--1" := by decide

example : safeFilenameComponent "CON" = "CON-target" := by decide

/-! ## Reserved names -/

theorem isAlphanum_of_toUpper {c : Char} (h : c.toUpper.isAlphanum = true) :
    c.isAlphanum = true := by
  by_cases hlower : c.isLower = true
  · exact Bool.or_eq_true_iff.mpr (.inl (Bool.or_eq_true_iff.mpr (.inr hlower)))
  · have hbounds : ¬('a'.val ≤ c.val ∧ c.val ≤ 'z'.val) := fun hbounds => hlower
      (Bool.and_eq_true_iff.mpr ⟨decide_eq_true hbounds.1, decide_eq_true hbounds.2⟩)
    unfold Char.toUpper at h
    rwa [dif_neg hbounds] at h

theorem deviceWords_chars : (["CON".toList, "PRN".toList, "AUX".toList, "NUL".toList].all
    fun word => word.all Char.isAlphanum && decide (0 < word.length ∧ word.length ≤ 4)) = true := by
  decide

theorem portWords_chars : (["COM".toList, "LPT".toList].all
    fun word => word.all Char.isAlphanum) = true := by decide

theorem isDeviceName_chars {upper : List Char} (h : isDeviceName upper = true) :
    (∀ c ∈ upper, c.isAlphanum = true) ∧ 0 < upper.length ∧ upper.length ≤ 4 := by
  rcases Bool.or_eq_true_iff.mp h with hdevice | hnumbered
  · have hword := List.all_eq_true.mp deviceWords_chars upper (of_decide_eq_true hdevice)
    obtain ⟨hchars, hlength⟩ := Bool.and_eq_true_iff.mp hword
    exact ⟨List.all_eq_true.mp hchars, of_decide_eq_true hlength⟩
  · split at hnumbered
    · rename_i a b c d
      obtain ⟨hport', -⟩ := Bool.and_eq_true_iff.mp hnumbered
      obtain ⟨hfront, hdigit⟩ := Bool.and_eq_true_iff.mp hport'
      refine ⟨fun x hx => ?_, Nat.succ_pos _, le_refl _⟩
      have hx : x ∈ [a, b, c] ∨ x = d := by simpa [or_assoc] using hx
      rcases hx with hx | rfl
      · have hport := List.all_eq_true.mp portWords_chars _ (of_decide_eq_true hfront)
        exact List.all_eq_true.mp hport x hx
      · exact Bool.or_eq_true_iff.mpr (.inr hdigit)
    · cases hnumbered

/-- What is in front of the first dot. -/
def baseName (cs : List Char) : List Char := cs.takeWhile (· ≠ '.')

/-- A reserved name is short, and has letters and digits only. -/
theorem isWindowsReservedName_base {value : String} (h : isWindowsReservedName value = true) :
    (∀ c ∈ baseName value.toList, c.isAlphanum = true) ∧
      0 < (baseName value.toList).length ∧ (baseName value.toList).length ≤ 4 := by
  obtain ⟨hchars, hlength⟩ := isDeviceName_chars h
  rw [List.length_map] at hlength
  exact ⟨fun c hc => isAlphanum_of_toUpper (hchars _ (List.mem_map_of_mem hc)), hlength⟩

/-- Whether a name is reserved is decided in front of its first dot. -/
theorem isWindowsReservedName_congr {value value' : String}
    (h : baseName value.toList = baseName value'.toList) :
    isWindowsReservedName value = isWindowsReservedName value' :=
  congrArg (fun base : List Char => isDeviceName (base.map Char.toUpper)) h

theorem baseName_of_notMem {cs : List Char} (h : '.' ∉ cs) : baseName cs = cs :=
  List.takeWhile_eq_self_iff.mpr fun _ hc => decide_eq_true (ne_of_mem_of_not_mem hc h)

theorem baseName_append {name rest : List Char} (h : '.' ∉ name) :
    baseName (name ++ '.' :: rest) = name := by
  have hall : ∀ c ∈ name, decide (c ≠ '.') = true := fun c hc =>
    decide_eq_true (ne_of_mem_of_not_mem hc h)
  rw [baseName, List.takeWhile_append_of_pos hall]
  simp

/-! ## Replaced characters -/

theorem fileNameChar_eq_dot {c : Char} : fileNameChar c = '.' ↔ c = '.' := by
  unfold fileNameChar
  split
  · rfl
  · rename_i hc
    exact iff_of_false (by decide) fun h => hc (h ▸ rfl)

theorem isFileNameChar_fileNameChar (c : Char) : isFileNameChar (fileNameChar c) = true := by
  unfold fileNameChar
  split
  · assumption
  · rfl

theorem fileNameChar_of_alphanum {c : Char} (h : c.isAlphanum = true) : fileNameChar c = c :=
  if_pos (by simp [isFileNameChar, h])

theorem alphanum_of_fileNameChar {c : Char} (h : (fileNameChar c).isAlphanum = true) :
    fileNameChar c = c := by
  unfold fileNameChar at h ⊢
  split
  · rfl
  · rename_i hc
    rw [if_neg hc] at h
    exact absurd h (by decide)

theorem baseName_map (cs : List Char) :
    baseName (cs.map fileNameChar) = (baseName cs).map fileNameChar := by
  rw [baseName, List.takeWhile_map, baseName]
  congr 2
  funext c
  simp [fileNameChar_eq_dot]

/-- Names are reserved as they were before their characters were replaced. -/
theorem isWindowsReservedName_map (cs : List Char) :
    isWindowsReservedName (String.ofList (cs.map fileNameChar)) =
      isWindowsReservedName (String.ofList cs) := by
  have hsame : (∀ c ∈ baseName cs, fileNameChar c = c) →
      isWindowsReservedName (String.ofList (cs.map fileNameChar)) =
        isWindowsReservedName (String.ofList cs) := by
    intro hkeep
    refine isWindowsReservedName_congr ?_
    rw [String.toList_ofList, String.toList_ofList, baseName_map, List.map_congr_left hkeep,
      List.map_id']
  refine Bool.eq_iff_iff.mpr ⟨fun h => ?_, fun h => ?_⟩
  · have hchars := (isWindowsReservedName_base h).1
    rw [String.toList_ofList, baseName_map] at hchars
    rwa [← hsame fun c hc => alphanum_of_fileNameChar (hchars _ (List.mem_map_of_mem hc))]
  · have hchars := (isWindowsReservedName_base h).1
    rw [String.toList_ofList] at hchars
    rwa [hsame fun c hc => fileNameChar_of_alphanum (hchars c hc)]

/-! ## Dots at the ends -/

/-- The name without the dots at its ends. -/
def core (cs : List Char) : List Char := trimMatches (· == '.') cs

theorem trimMatches_map (cs : List Char) :
    trimMatches (fun c => c == '.' || c == ' ') (cs.map fileNameChar) =
      (core cs).map fileNameChar := by
  have hdot : ((fun c => c == '.' || c == ' ') ∘ fileNameChar) = (· == '.') := by
    funext c
    have hspace : fileNameChar c ≠ ' ' := fun h =>
      absurd (h ▸ isFileNameChar_fileNameChar c) (by decide)
    rw [Function.comp_apply, Bool.eq_iff_iff]
    simp [hspace, fileNameChar_eq_dot]
  rw [trimMatches, List.dropWhile_map, hdot, List.rdropWhile, ← List.map_reverse,
    List.dropWhile_map, hdot, ← List.map_reverse]
  rfl

theorem core_append (cs : List Char) : ∃ before after, cs = before ++ core cs ++ after ∧
    ∀ c ∈ before, c = '.' := by
  obtain ⟨before, after, hcs, hbefore, -⟩ := trimMatches_append (· == '.') cs
  exact ⟨before, after, hcs, fun c hc => beq_iff_eq.mp (hbefore c hc)⟩

theorem core_getLast (cs : List Char) : (core cs).getLast? ≠ some '.' := fun h =>
  absurd (trimMatches_last h) (by decide)

theorem core_head (cs : List Char) : (core cs).head? ≠ some '.' := fun h =>
  absurd (trimMatches_head h) (by decide)

/-- What is left of a name with a dot in it. -/
theorem core_of_dotted {before name rest : List Char} (hbefore : ∀ c ∈ before, c = '.')
    (hne : name ≠ []) (hname : '.' ∉ name) (hrest : ∃ c ∈ rest, c ≠ '.') :
    core (before ++ name ++ '.' :: rest) = name ++ '.' :: rest.rdropWhile (· == '.') := by
  have hfront : (before ++ name ++ '.' :: rest).dropWhile (· == '.') = name ++ '.' :: rest := by
    obtain ⟨first, name, rfl⟩ := List.exists_cons_of_ne_nil hne
    have hfirst : (first == '.') = false :=
      beq_eq_false_iff_ne.mpr (ne_of_mem_of_not_mem List.mem_cons_self hname)
    rw [List.append_assoc, List.dropWhile_append_of_pos fun c hc => beq_iff_eq.mpr (hbefore c hc),
      List.cons_append, List.dropWhile_cons_of_neg (by simp [hfirst])]
  have hback : rest.reverse.dropWhile (· == '.') ≠ [] := by
    obtain ⟨c, hc, hne⟩ := hrest
    intro hnil
    have hdot := List.dropWhile_eq_nil_iff.mp hnil c (List.mem_reverse.mpr hc)
    exact hne (beq_iff_eq.mp hdot)
  rw [core, trimMatches, hfront, List.rdropWhile, List.reverse_append, List.reverse_cons,
    List.append_assoc, List.dropWhile_append, if_neg (by simpa using hback), List.rdropWhile]
  simp

/-! ## The stem -/

/-- A stem that is a name on every system. -/
structure FileStem (stem : String) : Prop where
  nonempty : stem ≠ ""
  chars : ∀ c ∈ stem.toList, isFileNameChar c = true
  head : stem.toList.head? ≠ some '.'
  last : stem.toList.getLast? ≠ some '.'

/-- A reserved name in front of a dot that is not at the end. -/
def DottedDevice (value : String) : Prop :=
  ∃ before name rest, value.toList = before ++ name ++ '.' :: rest ∧ (∀ c ∈ before, c = '.') ∧
    '.' ∉ name ∧ isWindowsReservedName (String.ofList name) = true ∧ ∃ c ∈ rest, c ≠ '.'

theorem safeFilenameComponent_eq (value : String) :
    safeFilenameComponent value =
      let safe := if core value.toList = [] then "target"
        else String.ofList ((core value.toList).map fileNameChar)
      if isWindowsReservedName safe then safe ++ "-target" else safe := by
  rw [safeFilenameComponent, trimMatches_map]
  simp only [List.map_eq_nil_iff]

theorem FileStem.suffixed {stem : String} (h : FileStem stem) : FileStem (stem ++ "-target") where
  nonempty := by
    intro hempty
    have hlist := congrArg String.toList hempty
    simp at hlist
  chars c hc := by
    rw [String.toList_append, List.mem_append] at hc
    rcases hc with hc | hc
    · exact h.chars c hc
    · exact List.all_eq_true.mp (by decide : "-target".toList.all isFileNameChar = true) c hc
  head := by
    have hne : stem.toList ≠ [] := fun hnil => h.nonempty (String.toList_eq_nil_iff.mp hnil)
    rw [String.toList_append, List.head?_append_of_ne_nil _ hne]
    exact h.head
  last := by
    have hsuffix : "-target".toList.getLast? = some 't' := rfl
    rw [String.toList_append, List.getLast?_append, hsuffix]
    exact fun hlast => absurd (Option.some.inj hlast) (by decide)

theorem fileStem_core {cs : List Char} (h : core cs ≠ []) :
    FileStem (String.ofList ((core cs).map fileNameChar)) where
  nonempty := by
    intro hempty
    have hlist := congrArg String.toList hempty
    rw [String.toList_ofList] at hlist
    exact h (List.map_eq_nil_iff.mp hlist)
  chars c hc := by
    rw [String.toList_ofList] at hc
    obtain ⟨d, -, rfl⟩ := List.mem_map.mp hc
    exact isFileNameChar_fileNameChar d
  head := by
    rw [String.toList_ofList, List.head?_map]
    intro hhead
    obtain ⟨c, hc, hdot⟩ := Option.map_eq_some_iff.mp hhead
    exact core_head cs (hc.trans (congrArg some (fileNameChar_eq_dot.mp hdot)))
  last := by
    rw [String.toList_ofList, List.getLast?_map]
    intro hlast
    obtain ⟨c, hc, hdot⟩ := Option.map_eq_some_iff.mp hlast
    exact core_getLast cs (hc.trans (congrArg some (fileNameChar_eq_dot.mp hdot)))

theorem fileStem_target : FileStem "target" :=
  ⟨by decide, List.all_eq_true.mp (by decide : "target".toList.all isFileNameChar = true),
    by decide, by decide⟩

theorem safeFilenameComponent_shape (value : String) : FileStem (safeFilenameComponent value) := by
  have hsafe : FileStem (if core value.toList = [] then "target"
      else String.ofList ((core value.toList).map fileNameChar)) := by
    split
    · exact fileStem_target
    · exact fileStem_core ‹_›
  rw [safeFilenameComponent_eq]
  generalize (if core value.toList = [] then "target"
    else String.ofList ((core value.toList).map fileNameChar)) = safe at hsafe ⊢
  by_cases hreserved : isWindowsReservedName safe = true
  · simp only [if_pos hreserved]
    exact hsafe.suffixed
  · simp only [if_neg hreserved]
    exact hsafe

/-- The suffix makes a name too long to be reserved, unless there is a dot in front of it. -/
theorem isWindowsReservedName_suffixed {name : List Char}
    (h : isWindowsReservedName (String.ofList name) = true) :
    isWindowsReservedName (String.ofList name ++ "-target") = true ↔ '.' ∈ name := by
  by_cases hdot : '.' ∈ name
  · refine iff_of_true ?_ hdot
    obtain ⟨front, rest, rfl, hfront⟩ := List.eq_append_cons_of_mem hdot
    rw [← h]
    refine isWindowsReservedName_congr ?_
    rw [String.toList_append, String.toList_ofList, List.append_assoc, List.cons_append,
      baseName_append hfront, baseName_append hfront]
  · refine iff_of_false (fun hreserved => ?_) hdot
    have hlength := (isWindowsReservedName_base hreserved).2.2
    have hsuffix : '.' ∉ "-target".toList := by decide
    rw [String.toList_append, String.toList_ofList, baseName_of_notMem (by simp [hdot]),
      List.length_append] at hlength
    exact absurd (Nat.le_of_add_left_le hlength) (by decide)

theorem isWindowsReservedName_safe (value : String) :
    isWindowsReservedName (safeFilenameComponent value) = true ↔ '.' ∈ core value.toList ∧
      isWindowsReservedName (String.ofList (core value.toList)) = true := by
  rw [safeFilenameComponent_eq]
  simp only
  by_cases hnil : core value.toList = []
  · rw [if_pos hnil, hnil]
    exact iff_of_false (by decide) fun h => absurd h.1 List.not_mem_nil
  · have hmapped := isWindowsReservedName_map (core value.toList)
    rw [if_neg hnil]
    by_cases hreserved : isWindowsReservedName (String.ofList (core value.toList)) = true
    · rw [hmapped, if_pos hreserved, and_iff_left hreserved,
        isWindowsReservedName_suffixed (hmapped.trans hreserved)]
      simp [fileNameChar_eq_dot]
    · rw [hmapped, if_neg hreserved, hmapped]
      exact iff_of_false hreserved fun h => hreserved h.2

theorem dottedDevice_iff (value : String) : DottedDevice value ↔ '.' ∈ core value.toList ∧
      isWindowsReservedName (String.ofList (core value.toList)) = true := by
  constructor
  · rintro ⟨before, name, rest, hvalue, hbefore, hname, hreserved, hrest⟩
    have hne : name ≠ [] := by
      rintro rfl
      exact absurd hreserved (by decide)
    rw [hvalue, core_of_dotted hbefore hne hname hrest]
    refine ⟨by simp, ?_⟩
    rw [← hreserved]
    refine isWindowsReservedName_congr ?_
    rw [String.toList_ofList, String.toList_ofList, baseName_append hname, baseName_of_notMem hname]
  · rintro ⟨hdot, hreserved⟩
    obtain ⟨name, rest, hcore, hname⟩ := List.eq_append_cons_of_mem hdot
    obtain ⟨before, after, hvalue, hbefore⟩ := core_append value.toList
    refine ⟨before, name, rest ++ after, ?_, hbefore, hname, ?_, ?_⟩
    · rw [hvalue, hcore]
      simp
    · rw [← hreserved]
      refine isWindowsReservedName_congr ?_
      rw [String.toList_ofList, String.toList_ofList, hcore, baseName_append hname,
        baseName_of_notMem hname]
    · have hlast := core_getLast value.toList
      rw [hcore, List.getLast?_append_cons] at hlast
      rcases List.eq_nil_or_concat rest with rfl | ⟨front, last, rfl⟩
      · exact absurd rfl hlast
      · refine ⟨last, by simp, fun h => hlast ?_⟩
        rw [h, List.concat_eq_append, ← List.cons_append, List.getLast?_concat]

theorem safeFilenameComponent_unreserved (value : String) :
    (FileStem (safeFilenameComponent value) ∧
      isWindowsReservedName (safeFilenameComponent value) = false) ↔ ¬DottedDevice value := by
  rw [and_iff_right (safeFilenameComponent_shape value), dottedDevice_iff,
    ← isWindowsReservedName_safe, Bool.not_eq_true]

/-- The suffix is behind the dot, and the name in front of it still reserved. -/
theorem safeFilenameComponent_dotted :
    safeFilenameComponent "con.example.com" = "con.example.com-target" ∧
      ¬(FileStem (safeFilenameComponent "con.example.com") ∧
        isWindowsReservedName (safeFilenameComponent "con.example.com") = false) :=
  ⟨by decide, fun h => absurd h.2 (by decide)⟩

end Surface

import Surface.Fallible
import Surface.NetParse
import Surface.Ordered

/-!
# Surface.Ports

The ports of a specification: a preset, or a list of ports and of ranges.

* `parseWithPreset`: the specification item by item, with the message of the first bad one.
* `PortItem`: what an item may be, and the ports it stands for.
* `parsePorts_selects`: exactly the lists of such items are accepted, and their ports selected.
-/

namespace Surface

def maxSelectedPorts : Nat := 65535

def commonPorts : List Nat :=
  [20, 21, 22, 23, 25, 53, 80, 110, 111, 135, 139, 143, 443, 445, 465, 587, 993, 995, 1433, 1521,
    1883, 2049, 2375, 2376, 2483, 2484, 3000, 3306, 3389, 5432, 5671, 5672, 5900, 6379, 6443, 7474,
    7687, 7777, 8000, 8080, 8123, 8443, 8883, 8888, 9000, 9042, 9090, 9092, 9100, 9200, 9300,
    11211, 15671, 15672, 25565, 27017, 33060, 33073, 33080]

def commonUdpPorts : List Nat :=
  [53, 67, 68, 69, 88, 123, 137, 138, 161, 162, 389, 500, 514, 520, 623, 1194, 1434, 1701, 1812,
    1813, 1900, 2049, 2456, 2457, 2458, 3389, 3478, 4500, 4789, 5353, 7777, 11211, 19132, 19133,
    27015, 34197, 51820]

structure PortSelection where
  ports : List Nat
deriving DecidableEq

structure PortSpecError where
  message : String
deriving DecidableEq

def parsePort (value : String) : Except PortSpecError Nat :=
  match parseUnsigned (2 ^ 16) value with
  | none => .error ⟨"invalid port '" ++ value ++ "'"⟩
  | some port =>
    if port = 0 then .error ⟨"port must be between 1 and 65535"⟩
    else .ok port

/-- The ports from the first to the last one. -/
def portRange (first last : Nat) : List Nat := List.range' first (last + 1 - first)

/-- The ports selected so far, and those of one more item. -/
def addPorts (ports : OrdSet Nat) (item : String) : Except PortSpecError (OrdSet Nat) := do
  if item = "" ∨ trimSpaces item.toList ≠ item.toList then
    throw ⟨"port items must be non-empty and contain no whitespace"⟩
  match splitOnce '-' item.toList with
  | some (start, stop) =>
    if '-' ∈ stop then throw ⟨"invalid port range '" ++ item ++ "'"⟩
    let first ← parsePort (String.ofList start)
    let last ← parsePort (String.ofList stop)
    if first > last then throw ⟨"reversed port range '" ++ item ++ "'"⟩
    return (portRange first last).foldl OrdSet.insert ports
  | none => return ports.insert (← parsePort item)

def tooManyPorts : PortSpecError :=
  ⟨"port specification selects more than " ++ toString maxSelectedPorts ++ " ports"⟩

def parseWithPreset (specification : String) (commonPorts : List Nat) :
    Except PortSpecError PortSelection := do
  if specification = "common" ∨ specification = "top-100" then return ⟨commonPorts⟩
  if specification = "all" then return ⟨portRange 1 65535⟩
  if specification = "" then throw ⟨"port specification must not be empty"⟩
  let ports ← (splitText ',' specification).foldlM addPorts .empty
  if ports.size > maxSelectedPorts then throw tooManyPorts
  return ⟨ports.toList⟩

def parsePorts (specification : String) : Except PortSpecError PortSelection :=
  parseWithPreset specification commonPorts

def parseUdpPorts (specification : String) : Except PortSpecError PortSelection :=
  parseWithPreset specification commonUdpPorts

example : parsePorts "443,80,8000-8002,80" = .ok ⟨[80, 443, 8000, 8001, 8002]⟩ := by decide

/-! ## What an item may be -/

/-- A number of sixteen bits, as the standard library reads it, and not zero. -/
def PortLiteral (text : String) (port : Nat) : Prop :=
  parseUnsigned (2 ^ 16) text = some port ∧ 1 ≤ port

/-- A port, or the first and the last one of a range with a dash between them. -/
def PortItem (item : String) (first last : Nat) : Prop :=
  (PortLiteral item first ∧ last = first) ∨
    ∃ start stop, item = start ++ "-" ++ stop ∧ PortLiteral start first ∧ PortLiteral stop last ∧
      first ≤ last

theorem parsePort_ok_iff {value : String} {port : Nat} :
    parsePort value = .ok port ↔ PortLiteral value port := by
  unfold parsePort PortLiteral
  split
  · rename_i hnone
    rw [hnone]
    exact iff_of_false nofun fun h => nomatch h.1
  · rename_i n hsome
    rw [hsome]
    split
    · rename_i hzero
      exact iff_of_false nofun fun h => absurd h.2 (by cases h.1; omega)
    · rename_i hzero
      constructor
      · rintro ⟨⟩
        exact ⟨rfl, Nat.one_le_iff_ne_zero.mpr hzero⟩
      · rintro ⟨⟨⟩, _⟩
        rfl

theorem PortLiteral.ne_empty {text : String} {port : Nat} (h : PortLiteral text port) :
    text ≠ "" := by
  rintro rfl
  exact (parseUnsigned_chars h.1).1 rfl

theorem PortLiteral.notMem {text : String} {port : Nat} (h : PortLiteral text port) {c : Char}
    (hsign : c ≠ '+') (hdigit : isRadixDigit 10 c = false) : c ∉ text.toList := by
  intro hc
  rcases (parseUnsigned_chars h.1).2 c hc with rfl | hc
  · exact hsign rfl
  · rw [hdigit] at hc
    cases hc

theorem PortLiteral.noDash {text : String} {port : Nat} (h : PortLiteral text port) :
    '-' ∉ text.toList := h.notMem (by decide) (by decide)

theorem PortItem.bounds {item : String} {first last : Nat} (h : PortItem item first last) :
    1 ≤ first ∧ last ≤ maxSelectedPorts := by
  rcases h with ⟨hport, rfl⟩ | ⟨start, stop, -, hstart, hstop, -⟩
  · exact ⟨hport.2, Nat.le_of_lt_succ (parseUnsigned_lt hport.1)⟩
  · exact ⟨hstart.2, Nat.le_of_lt_succ (parseUnsigned_lt hstop.1)⟩

theorem PortItem.noComma {item : String} {first last : Nat} (h : PortItem item first last) :
    ',' ∉ item.toList := by
  rcases h with ⟨hport, -⟩ | ⟨start, stop, rfl, hstart, hstop, -⟩
  · exact hport.notMem (by decide) (by decide)
  · have hstart := hstart.notMem (c := ',') (by decide) (by decide)
    have hstop := hstop.notMem (c := ',') (by decide) (by decide)
    simp [hstart, hstop]

theorem PortItem.ne_empty {item : String} {first last : Nat} (h : PortItem item first last) :
    item ≠ "" := by
  rcases h with ⟨hport, -⟩ | ⟨start, stop, rfl, -⟩
  · exact hport.ne_empty
  · intro hempty
    have hlist := congrArg String.toList hempty
    simp at hlist

theorem portItem_plain {item : String} {first last : Nat} (h : '-' ∉ item.toList) :
    PortItem item first last ↔ PortLiteral item first ∧ last = first := by
  refine or_iff_left ?_
  rintro ⟨start, stop, rfl, -⟩
  exact h (by simp)

theorem portItem_dash {item : String} {start stop : List Char} {first last : Nat}
    (h : item.toList = start ++ '-' :: stop) (hstart : '-' ∉ start) :
    PortItem item first last ↔ '-' ∉ stop ∧ PortLiteral (String.ofList start) first ∧
      PortLiteral (String.ofList stop) last ∧ first ≤ last := by
  have hitem : item = String.ofList start ++ "-" ++ String.ofList stop :=
    String.toList_injective (by simp [h])
  constructor
  · rintro (⟨hport, -⟩ | ⟨start', stop', hitem', hfirst, hlast, hle⟩)
    · exact absurd (h ▸ List.mem_append_right _ List.mem_cons_self) hport.noDash
    · obtain ⟨rfl, rfl⟩ := append_mark_injective (c := '-') rfl hfirst.noDash
        (by rwa [String.toList_ofList]) (hitem'.symm.trans hitem)
      exact ⟨by simpa using hlast.noDash, hfirst, hlast, hle⟩
  · rintro ⟨-, hfirst, hlast, hle⟩
    exact .inr ⟨_, _, hitem, hfirst, hlast, hle⟩

theorem PortItem.unique {item : String} {first last first' last' : Nat}
    (h : PortItem item first last) (h' : PortItem item first' last') :
    first = first' ∧ last = last' := by
  have hliteral : ∀ {text : String} {n n' : Nat}, PortLiteral text n → PortLiteral text n' →
      n = n' := fun hn hn' => Option.some.inj (hn.1.symm.trans hn'.1)
  rcases hsplit : splitOnce '-' item.toList with _ | ⟨start, stop⟩
  · rw [portItem_plain (splitOnce_eq_none_iff.mp hsplit)] at h h'
    obtain rfl := hliteral h.1 h'.1
    exact ⟨rfl, h.2.trans h'.2.symm⟩
  · obtain ⟨hitem, hstart⟩ := splitOnce_eq_some_iff.mp hsplit
    rw [portItem_dash hitem hstart] at h h'
    exact ⟨hliteral h.2.1 h'.2.1, hliteral h.2.2.1 h'.2.2.1⟩

/-! ## The items one after the other -/

theorem mem_portRange {first last port : Nat} :
    port ∈ portRange first last ↔ first ≤ port ∧ port ≤ last := by
  rw [portRange, List.mem_range'_1]
  omega

theorem portRange_self (port : Nat) : portRange port port = [port] := by
  rw [portRange, Nat.add_sub_cancel_left]
  rfl

section Item

variable {ports ports' : OrdSet Nat} {item : String}

/-- An item without a dash. -/
theorem insertPort_ok_iff (hdash : '-' ∉ item.toList) :
    (parsePort item).bind (fun port => .ok (ports.insert port)) = .ok ports' ↔
      ∃ first last, PortItem item first last ∧
        ports' = (portRange first last).foldl OrdSet.insert ports := by
  simp only [portItem_plain hdash]
  rw [bind_ok_iff]
  constructor
  · rintro ⟨port, hport, hports⟩
    refine ⟨port, port, ⟨parsePort_ok_iff.mp hport, rfl⟩, ?_⟩
    rw [portRange_self]
    exact (Except.ok.inj hports).symm
  · rintro ⟨_, port, ⟨hport, rfl⟩, rfl⟩
    rw [portRange_self]
    exact ⟨port, parsePort_ok_iff.mpr hport, rfl⟩

/-- The two ends of a range, once nothing behind the first dash is one. -/
theorem insertRange_ok_iff {start stop : List Char} {error : PortSpecError} :
    (parsePort (String.ofList start)).bind (fun first =>
        (parsePort (String.ofList stop)).bind fun last => do
          if first > last then throw error
          return (portRange first last).foldl OrdSet.insert ports) = .ok ports' ↔
      ∃ first last, (PortLiteral (String.ofList start) first ∧
          PortLiteral (String.ofList stop) last ∧ first ≤ last) ∧
        ports' = (portRange first last).foldl OrdSet.insert ports := by
  rw [bind_ok_iff]
  constructor
  · rintro ⟨first, hfirst, hrest⟩
    obtain ⟨last, hlast, hports⟩ := bind_ok_iff.mp hrest
    rw [check_ok, not_lt] at hports
    exact ⟨first, last, ⟨parsePort_ok_iff.mp hfirst, parsePort_ok_iff.mp hlast, hports.1⟩,
      (Except.ok.inj hports.2).symm⟩
  · rintro ⟨first, last, ⟨hfirst, hlast, hle⟩, rfl⟩
    refine ⟨first, parsePort_ok_iff.mpr hfirst,
      bind_ok_iff.mpr ⟨last, parsePort_ok_iff.mpr hlast, ?_⟩⟩
    rw [check_ok, not_lt]
    exact ⟨hle, rfl⟩

theorem addPorts_ok_iff : addPorts ports item = .ok ports' ↔
    trimSpaces item.toList = item.toList ∧ ∃ first last, PortItem item first last ∧
      ports' = (portRange first last).foldl OrdSet.insert ports := by
  have hempty : (∃ first last, PortItem item first last ∧
      ports' = (portRange first last).foldl OrdSet.insert ports) → item ≠ "" :=
    fun ⟨_, _, hitem, _⟩ => hitem.ne_empty
  unfold addPorts
  rw [check_ok, not_or, not_not, and_comm (a := item ≠ ""), and_assoc]
  refine and_congr_right fun _ => ?_
  rw [← and_iff_right_of_imp hempty]
  refine and_congr_right fun _ => ?_
  rcases hsplit : splitOnce '-' item.toList with _ | ⟨start, stop⟩
  · exact insertPort_ok_iff (splitOnce_eq_none_iff.mp hsplit)
  · obtain ⟨hitem, hstart⟩ := splitOnce_eq_some_iff.mp hsplit
    simp only [portItem_dash hitem hstart, and_assoc, exists_and_left]
    rw [check_ok]
    refine and_congr_right fun _ => insertRange_ok_iff.trans ?_
    simp only [and_assoc, exists_and_left]

end Item

theorem mem_foldlM_addPorts {items : List String} {port : Nat} :
    ∀ {ports ports' : OrdSet Nat}, items.foldlM addPorts ports = .ok ports' →
      (port ∈ ports' ↔ port ∈ ports ∨ ∃ item ∈ items, ∃ first last, PortItem item first last ∧
        first ≤ port ∧ port ≤ last) := by
  induction items with
  | nil =>
    intro ports ports' h
    cases h
    simp
  | cons item rest ih =>
    intro ports ports' h
    obtain ⟨middle, hitem, hrest⟩ := foldlM_cons_ok.mp h
    obtain ⟨-, first, last, hrange, rfl⟩ := addPorts_ok_iff.mp hitem
    rw [ih hrest, OrdSet.mem_foldl_insert, mem_portRange, List.exists_mem_cons_iff, ← or_assoc,
      or_comm (b := port ∈ ports)]
    refine or_congr_left (or_congr_right ⟨fun hport => ⟨first, last, hrange, hport⟩, ?_⟩)
    rintro ⟨first', last', hrange', hport⟩
    obtain ⟨rfl, rfl⟩ := hrange.unique hrange'
    exact hport

/-! ## No message is that of too many ports -/

/-- Two texts that differ in front are different. -/
theorem append_ne_of_not_prefix {front rest text : String} (h : ¬front.toList <+: text.toList) :
    front ++ rest ≠ text := by
  rintro rfl
  rw [String.toList_append] at h
  exact h (List.prefix_append _ _)

theorem parsePort_ne_tooMany {value : String} : parsePort value ≠ .error tooManyPorts := by
  rcases hvalue : parseUnsigned (2 ^ 16) value with _ | port
  · have herror : parsePort value = .error ⟨"invalid port '" ++ value ++ "'"⟩ := by
      rw [parsePort, hvalue]
    rw [herror]
    intro h
    have hmessage := congrArg PortSpecError.message (Except.error.inj h)
    rw [String.append_assoc] at hmessage
    exact append_ne_of_not_prefix (by decide) hmessage
  · rw [parsePort, hvalue]
    by_cases hzero : port = 0
    · simp only [if_pos hzero]
      exact fun h => absurd (congrArg PortSpecError.message (Except.error.inj h)) (by decide)
    · simp only [if_neg hzero]
      exact nofun

theorem addPorts_ne_tooMany {ports : OrdSet Nat} {item : String} :
    addPorts ports item ≠ .error tooManyPorts := by
  have hmessage : ∀ {front rest : String}, ¬front.toList <+: tooManyPorts.message.toList →
      (⟨front ++ rest⟩ : PortSpecError) ≠ tooManyPorts := fun hfront h =>
    append_ne_of_not_prefix hfront (congrArg PortSpecError.message h)
  unfold addPorts
  refine check_ne_error (by decide) ?_
  rcases splitOnce '-' item.toList with _ | ⟨start, stop⟩
  · exact bind_ne_error parsePort_ne_tooMany fun _ => nofun
  · refine check_ne_error ?_ ?_
    · rw [String.append_assoc]
      exact hmessage (by decide)
    · refine bind_ne_error parsePort_ne_tooMany fun first => ?_
      refine bind_ne_error parsePort_ne_tooMany fun last => ?_
      refine check_ne_error ?_ nofun
      rw [String.append_assoc]
      exact hmessage (by decide)

/-! ## The specification -/

/-- A list of items without white space around them, with commas between them. -/
structure PortList (specification : String) (items : List String) : Prop where
  nonempty : items ≠ []
  joined : specification = ",".intercalate items
  trimmed : ∀ item ∈ items, trimSpaces item.toList = item.toList
  valid : ∀ item ∈ items, ∃ first last, PortItem item first last

theorem PortList.splitText {specification : String} {items : List String}
    (h : PortList specification items) : splitText ',' specification = items := by
  rw [h.joined]
  refine splitText_intercalate (by decide) h.nonempty fun item hitem => ?_
  obtain ⟨first, last, hrange⟩ := h.valid item hitem
  exact hrange.noComma

theorem portList_iff {specification : String} :
    (∃ items, PortList specification items) ↔ ∀ item ∈ splitText ',' specification,
      trimSpaces item.toList = item.toList ∧ ∃ first last, PortItem item first last := by
  constructor
  · rintro ⟨items, h⟩
    rw [h.splitText]
    exact fun item hitem => ⟨h.trimmed item hitem, h.valid item hitem⟩
  · intro h
    exact ⟨_, by simp [Surface.splitText], (intercalate_splitText (by decide) specification).symm,
      fun item hitem => (h item hitem).1, fun item hitem => (h item hitem).2⟩

theorem size_le_maxSelectedPorts {ports : OrdSet Nat}
    (h : ∀ port ∈ ports, 1 ≤ port ∧ port ≤ maxSelectedPorts) : ports.size ≤ maxSelectedPorts := by
  have hsub : ports.toList ⊆ portRange 1 maxSelectedPorts := fun port hport =>
    mem_portRange.mpr (h port hport)
  have hlength := (List.subperm_of_subset ports.nodup hsub).length_le
  rwa [portRange, List.length_range'] at hlength

/-- What is accepted, and what is selected then. -/
structure PortParsing (specification : String) (result : Except PortSpecError PortSelection) :
    Prop where
  accepted : (∃ selection, result = .ok selection) ↔ ∃ items, PortList specification items
  ascending : ∀ selection, result = .ok selection → selection.ports.Pairwise (· < ·)
  selected : ∀ selection items, result = .ok selection → PortList specification items →
    ∀ port, port ∈ selection.ports ↔
      ∃ item ∈ items, ∃ first last, PortItem item first last ∧ first ≤ port ∧ port ≤ last
  notTooMany : result ≠ .error tooManyPorts

/-- The ports of items are ports that exist, so there are not too many of them. -/
theorem size_foldlM_addPorts {items : List String} {ports : OrdSet Nat}
    (h : items.foldlM addPorts .empty = .ok ports) : ports.size ≤ maxSelectedPorts := by
  refine size_le_maxSelectedPorts fun port hport => ?_
  rcases (mem_foldlM_addPorts h).mp hport with hempty | ⟨item, -, first, last, hrange, hle⟩
  · exact absurd hempty List.not_mem_nil
  · exact ⟨hrange.bounds.1.trans hle.1, hle.2.trans hrange.bounds.2⟩

theorem parseWithPreset_eq {specification : String} (commonPorts : List Nat)
    (h : specification ∉ ["common", "top-100", "all"]) (hempty : specification ≠ "") :
    parseWithPreset specification commonPorts =
      ((splitText ',' specification).foldlM addPorts .empty).map
        fun ports => (⟨ports.toList⟩ : PortSelection) := by
  have hcommon : ¬(specification = "common" ∨ specification = "top-100") := fun hpreset =>
    h (by rcases hpreset with rfl | rfl <;> simp)
  have hall : specification ≠ "all" := fun hpreset => h (by simp [hpreset])
  simp only [parseWithPreset, if_neg hcommon, if_neg hall, if_neg hempty]
  rcases hrun : (splitText ',' specification).foldlM addPorts .empty with error | ports
  · rfl
  · have hsize := Nat.not_lt.mpr (size_foldlM_addPorts hrun)
    change (if maxSelectedPorts < ports.size then _ else _) = _
    rw [if_neg hsize]
    rfl

theorem parseWithPreset_empty (commonPorts : List Nat) :
    parseWithPreset "" commonPorts = .error ⟨"port specification must not be empty"⟩ := rfl

/-- Whatever the presets are. -/
theorem portParsing {specification : String} (commonPorts : List Nat)
    (h : specification ∉ ["common", "top-100", "all"]) :
    PortParsing specification (parseWithPreset specification commonPorts) := by
  rcases eq_or_ne specification "" with rfl | hempty
  · have hnone : ¬∃ items, PortList "" items := by
      rw [portList_iff]
      intro hall
      obtain ⟨-, first, last, hrange⟩ := hall "" (by decide)
      exact hrange.ne_empty rfl
    rw [parseWithPreset_empty]
    exact ⟨iff_of_false nofun hnone, nofun, nofun, by decide⟩
  · have hrun := parseWithPreset_eq commonPorts h hempty
    have hok : ∀ selection, parseWithPreset specification commonPorts = .ok selection ↔
        ∃ ports, (splitText ',' specification).foldlM addPorts .empty = .ok ports ∧
          ⟨ports.toList⟩ = selection := by
      intro selection
      rw [hrun, map_ok_iff]
    constructor
    · have hstep : ∀ ports item, (∃ ports', addPorts ports item = .ok ports') ↔
          trimSpaces item.toList = item.toList ∧ ∃ first last, PortItem item first last := by
        intro ports item
        simp only [addPorts_ok_iff]
        exact ⟨fun ⟨_, htrim, first, last, hrange, _⟩ => ⟨htrim, first, last, hrange⟩,
          fun ⟨htrim, first, last, hrange⟩ => ⟨_, htrim, first, last, hrange, rfl⟩⟩
      rw [portList_iff, ← foldlM_ok_exists hstep (b := .empty)]
      simp only [hok]
      exact ⟨fun ⟨_, ports, hports, _⟩ => ⟨ports, hports⟩,
        fun ⟨ports, hports⟩ => ⟨_, ports, hports, rfl⟩⟩
    · intro selection hselection
      obtain ⟨ports, -, rfl⟩ := (hok selection).mp hselection
      exact ports.sorted
    · intro selection items hselection hitems port
      obtain ⟨ports, hports, rfl⟩ := (hok selection).mp hselection
      rw [← hitems.splitText]
      exact (mem_foldlM_addPorts hports).trans (or_iff_right List.not_mem_nil)
    · rw [hrun]
      exact bind_ne_error (foldlM_ne_error fun _ _ => addPorts_ne_tooMany) fun _ => nofun

theorem parseUdpPorts_parsing {specification : String}
    (h : specification ∉ ["common", "top-100", "all"]) :
    PortParsing specification (parseUdpPorts specification) := portParsing commonUdpPorts h

theorem parsePorts_selects (specification : String)
    (h : specification ∉ ["common", "top-100", "all"]) :
    PortParsing specification (parsePorts specification) := portParsing commonPorts h

theorem parsePorts_selects_overlap :
    PortParsing "443,80,8000-8002,80" (parsePorts "443,80,8000-8002,80") :=
  parsePorts_selects "443,80,8000-8002,80" (by decide)

end Surface

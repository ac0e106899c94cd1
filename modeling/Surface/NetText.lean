import Mathlib.Data.List.Basic
import Surface.Net
import Surface.Text

/-!
# Surface.NetText

The text of an address: what characters it is made of, and that it determines the address.

* `toDigits_injective`, `eq_of_digits`: numbers and their digits.
* `longestZeros_run`: what `::` stands for.
* `display_injective`, `displayV4_injective`, `displayV6_injective`: no two addresses share a text.
-/

namespace Surface

/-! ## Digits -/

def hexDigits : List Char :=
  ['0', '1', '2', '3', '4', '5', '6', '7', '8', '9', 'a', 'b', 'c', 'd', 'e', 'f']

theorem digitChar_mem : ∀ n < 16, Nat.digitChar n ∈ hexDigits := by decide

theorem digitChar_injective : ∀ m < 16, ∀ n < 16, Nat.digitChar m = Nat.digitChar n → m = n := by
  decide

section Base

variable {b : Nat}

theorem mem_toDigits (hb : 1 < b) (hle : b ≤ 16) {n : Nat} :
    ∀ c ∈ Nat.toDigits b n, c ∈ hexDigits := by
  induction n using Nat.strongRecOn with
  | ind n ih =>
    intro c hc
    rw [Nat.toDigits_eq_if hb] at hc
    split at hc
    · rw [List.mem_singleton.mp hc]
      exact digitChar_mem n (by omega)
    · rcases List.mem_append.mp hc with hc | hc
      · exact ih (n / b) (Nat.div_lt_self (by omega) hb) c hc
      · rw [List.mem_singleton.mp hc]
        exact digitChar_mem (n % b) (by have := Nat.mod_lt n (Nat.zero_lt_of_lt hb); omega)

theorem toDigits_injective (hb : 1 < b) (hle : b ≤ 16) {m n : Nat}
    (h : Nat.toDigits b m = Nat.toDigits b n) : m = n := by
  induction m using Nat.strongRecOn generalizing n with
  | ind m ih =>
    have hpos : 0 < b := by omega
    rw [Nat.toDigits_eq_if hb, Nat.toDigits_eq_if (n := n) hb] at h
    by_cases hm : m < b
    · by_cases hn : n < b
      · rw [if_pos hm, if_pos hn] at h
        exact digitChar_injective m (by omega) n (by omega) (List.singleton_inj.mp h)
      · rw [if_pos hm, if_neg hn] at h
        rw [← List.nil_append [Nat.digitChar m]] at h
        obtain ⟨hnil, _⟩ := List.append_inj' h rfl
        exact absurd hnil.symm Nat.toDigits_ne_nil
    · by_cases hn : n < b
      · rw [if_neg hm, if_pos hn] at h
        rw [← List.nil_append [Nat.digitChar n]] at h
        obtain ⟨hnil, _⟩ := List.append_inj' h rfl
        exact absurd hnil Nat.toDigits_ne_nil
      · rw [if_neg hm, if_neg hn] at h
        obtain ⟨hhigh, hlow⟩ := List.append_inj' h rfl
        have hdiv : m / b = n / b := ih (m / b) (Nat.div_lt_self (by omega) hb) hhigh
        have hmod : m % b = n % b := by
          have hlm := Nat.mod_lt m hpos
          have hln := Nat.mod_lt n hpos
          exact digitChar_injective _ (by omega) _ (by omega) (List.singleton_inj.mp hlow)
        calc m = b * (m / b) + m % b := (Nat.div_add_mod m b).symm
          _ = b * (n / b) + n % b := by rw [hdiv, hmod]
          _ = n := Nat.div_add_mod n b

end Base

theorem toString_nat_chars (n : Nat) : ∀ c ∈ (toString n).toList, c ∈ hexDigits := by
  rw [Nat.toString_eq_ofList_toDigits, String.toList_ofList]
  exact mem_toDigits (by decide) (by decide)

theorem toString_nat_injective {m n : Nat} (h : toString m = toString n) : m = n := by
  rw [Nat.toString_eq_ofList_toDigits, Nat.toString_eq_ofList_toDigits] at h
  exact toDigits_injective (by decide) (by decide) (String.ofList_injective h)

/-- Two texts are split at the same mark when it is not in front of the first one. -/
theorem append_mark_injective {mark : String} {c : Char} (hmark : mark.toList = [c])
    {a a' s s' : String} (ha : c ∉ a.toList) (ha' : c ∉ a'.toList)
    (h : a ++ mark ++ s = a' ++ mark ++ s') : a = a' ∧ s = s' := by
  have hlists := congrArg String.toList h
  simp only [String.toList_append, hmark, List.append_assoc, List.singleton_append] at hlists
  have hfront : ∀ {l rest : List Char}, c ∉ l → (l ++ c :: rest).takeWhile (· ≠ c) = l := by
    intro l rest hl
    have hall : ∀ x ∈ l, decide (x ≠ c) = true := fun x hx =>
      decide_eq_true (ne_of_mem_of_not_mem hx hl)
    rw [List.takeWhile_append_of_pos hall]
    simp
  have hl : a.toList = a'.toList := by rw [← hfront ha, hlists, hfront ha']
  rw [hl] at hlists
  have hrest := (List.cons.inj (List.append_cancel_left hlists)).2
  exact ⟨String.toList_injective hl, String.toList_injective hrest⟩

/-- Two texts are split at the same mark when it is not behind the last one. -/
theorem append_lastMark_injective {c : Char} {l l' rest rest' : List Char} (hrest : c ∉ rest)
    (hrest' : c ∉ rest') (h : l ++ c :: rest = l' ++ c :: rest') : l = l' := by
  have hbehind {tail tail' more : List Char} (htail : c ∉ tail)
      (hmore : c :: tail = more ++ c :: tail') : more = [] := by
    cases more with
    | nil => rfl
    | cons d more =>
      rw [List.cons_append, List.cons.injEq] at hmore
      exact absurd (hmore.2 ▸ List.mem_append_right more List.mem_cons_self) htail
  rcases List.append_eq_append_iff.mp h with ⟨more, hl, hmore⟩ | ⟨more, hl, hmore⟩
  · rw [hl, hbehind hrest hmore, List.append_nil]
  · rw [hl, hbehind hrest' hmore, List.append_nil]

namespace IpAddr

theorem hexSegment_chars (n : Nat) : ∀ c ∈ (hexSegment n).toList, c ∈ hexDigits := by
  rw [hexSegment, String.toList_ofList]
  exact mem_toDigits (by decide) (by decide)

/-- The segments from a start on, as many as given, are zero. -/
def ZeroRun (l : List Nat) (run : Nat × Nat) : Prop :=
  run.1 + run.2 ≤ l.length ∧ ∀ i, run.1 ≤ i → i < run.1 + run.2 → l[i]? = some 0

theorem ZeroRun.append {l : List Nat} {run : Nat × Nat} (h : ZeroRun l run) (more : List Nat) :
    ZeroRun (l ++ more) run := by
  refine ⟨Nat.le_trans h.1 (by simp), fun i hstart hend => ?_⟩
  rw [List.getElem?_append_left (Nat.lt_of_lt_of_le hend h.1)]
  exact h.2 i hstart hend

/-- One more zero at the end of a run that reaches the end. -/
theorem ZeroRun.extend {l : List Nat} {start len : Nat} (h : ZeroRun l (start, len))
    (hend : start + len = l.length) : ZeroRun (l ++ [0]) (start, len + 1) := by
  refine ⟨by simp; omega, fun i hstart hlt => ?_⟩
  by_cases hi : i < start + len
  · exact (h.append [0]).2 i hstart hi
  · have hlast : i = l.length := by simp only at hlt; omega
    rw [hlast, List.getElem?_append_right (Nat.le_refl _), Nat.sub_self]
    rfl

def zerosStep (acc : Nat × (Nat × Nat) × (Nat × Nat)) (seg : Nat) :
    Nat × (Nat × Nat) × (Nat × Nat) :=
  let (i, current, longest) := acc
  if seg = 0 then
    let current := if current.2 = 0 then (i, 1) else (current.1, current.2 + 1)
    (i + 1, current, if longest.2 < current.2 then current else longest)
  else (i + 1, (0, 0), longest)

/-- The state of the search: the position, the run that ends there if there is one, and the
longest run so far. -/
theorem zeros_state (l : List Nat) :
    let state := l.foldl zerosStep (0, (0, 0), (0, 0))
    state.1 = l.length ∧ ZeroRun l state.2.1 ∧
      (state.2.1.2 ≠ 0 → state.2.1.1 + state.2.1.2 = l.length) ∧ ZeroRun l state.2.2 := by
  have hempty : ∀ l : List Nat, ZeroRun l (0, 0) := fun l =>
    ⟨Nat.zero_le _, fun i _ hi => absurd hi (Nat.not_lt_zero i)⟩
  induction l using List.reverseRecOn with
  | nil => exact ⟨rfl, hempty [], fun h => absurd rfl h, hempty []⟩
  | append_singleton l seg ih =>
    obtain ⟨hi, hcurrent, hends, hlongest⟩ := ih
    rw [List.foldl_append]
    simp only [List.foldl_cons, List.foldl_nil]
    generalize l.foldl zerosStep (0, (0, 0), (0, 0)) = state at *
    obtain ⟨i, ⟨start, len⟩, longest⟩ := state
    simp only at hi hcurrent hends hlongest
    by_cases hseg : seg = 0
    · subst hseg
      simp only [zerosStep, if_true]
      have hnext : ∃ run, (if len = 0 then (i, 1) else (start, len + 1)) = run ∧
          ZeroRun (l ++ [0]) run ∧ run.1 + run.2 = (l ++ [0]).length := by
        by_cases hlen : len = 0
        · refine ⟨_, if_pos hlen, ?_, by simp [hi]⟩
          have hnone : ZeroRun l (i, 0) :=
            ⟨Nat.le_of_eq hi, fun j hj hlt => absurd hlt (Nat.not_lt.mpr hj)⟩
          exact hnone.extend hi
        · refine ⟨_, if_neg hlen, hcurrent.extend (hends hlen), ?_⟩
          simp [← hends hlen, Nat.add_assoc]
      obtain ⟨run, hrun, hzero, hend⟩ := hnext
      rw [hrun]
      refine ⟨by simp [hi], hzero, fun _ => hend, ?_⟩
      split
      · exact hzero
      · exact hlongest.append [0]
    · simp only [zerosStep, if_neg hseg]
      exact ⟨by simp [hi], hempty _, fun h => absurd rfl h, hlongest.append [seg]⟩

theorem longestZeros_run (l : List Nat) : ZeroRun l (longestZeros l) := (zeros_state l).2.2.2

/-- What stands before a run, the run itself, and what stands after it. -/
theorem ZeroRun.split {l : List Nat} {start len : Nat} (h : ZeroRun l (start, len)) :
    l = l.take start ++ (List.replicate len 0 ++ l.drop (start + len)) := by
  obtain ⟨hle, hzero⟩ := h
  have hrun : (l.drop start).take len = List.replicate len 0 := by
    refine List.eq_replicate_iff.mpr ⟨by simp; omega, fun seg hseg => ?_⟩
    obtain ⟨i, hi, hget⟩ := List.mem_iff_getElem.mp hseg
    have hi' : i < len := by simp at hi; omega
    have hsome := hzero (start + i) (Nat.le_add_right _ _) (Nat.add_lt_add_left hi' _)
    rw [List.getElem_take, List.getElem_drop] at hget
    rw [List.getElem?_eq_getElem (by simp at hi; omega), hget] at hsome
    exact Option.some.inj hsome
  calc l = l.take start ++ l.drop start := (List.take_append_drop start l).symm
    _ = l.take start ++ ((l.drop start).take len ++ (l.drop start).drop len) := by
      rw [List.take_append_drop len]
    _ = _ := by rw [hrun, List.drop_drop]

/-! ## Groups of segments -/

/-- The text of eight segments. -/
def segmentsText (segs : List Nat) : String :=
  let (start, len) := longestZeros segs
  if 1 < len then joinSegments (segs.take start) ++ "::" ++ joinSegments (segs.drop (start + len))
  else joinSegments segs

theorem displayV6_eq (b : BitVec 128) :
    displayV6 b = if b.toNat / 2 ^ 32 = 0xffff then "::ffff:" ++ displayV4 (b.setWidth 32)
      else segmentsText (segments b) := rfl

theorem displayV4_chars (b : BitVec 32) : ∀ c ∈ (displayV4 b).toList, c = '.' ∨ c ∈ hexDigits := by
  intro c hc
  rcases mem_intercalate hc with hc | ⟨s, hs, hc⟩
  · exact .inl (List.mem_singleton.mp hc)
  · obtain ⟨i, _, rfl⟩ := List.mem_map.mp hs
    exact .inr (toString_nat_chars _ c hc)

theorem joinSegments_chars (l : List Nat) :
    ∀ c ∈ (joinSegments l).toList, c = ':' ∨ c ∈ hexDigits := by
  intro c hc
  rcases mem_intercalate hc with hc | ⟨s, hs, hc⟩
  · exact .inl (List.mem_singleton.mp hc)
  · obtain ⟨n, _, rfl⟩ := List.mem_map.mp hs
    exact .inr (hexSegment_chars n c hc)

theorem segmentsText_chars (l : List Nat) :
    ∀ c ∈ (segmentsText l).toList, c = ':' ∨ c ∈ hexDigits := by
  intro c hc
  unfold segmentsText at hc
  generalize longestZeros l = run at hc
  obtain ⟨start, len⟩ := run
  simp only at hc
  split at hc
  · rw [String.toList_append, String.toList_append] at hc
    rcases List.mem_append.mp hc with hc | hc
    · rcases List.mem_append.mp hc with hc | hc
      · exact joinSegments_chars _ c hc
      · left
        simpa using hc
    · exact joinSegments_chars _ c hc
  · exact joinSegments_chars _ c hc

theorem displayV6_chars (b : BitVec 128) :
    ∀ c ∈ (displayV6 b).toList, c = '.' ∨ c = ':' ∨ c ∈ hexDigits := by
  intro c hc
  rw [displayV6_eq] at hc
  split at hc
  · rw [String.toList_append] at hc
    rcases List.mem_append.mp hc with hc | hc
    · have hmapped : c = ':' ∨ c = 'f' ∨ c = ':' := by simpa using hc
      rcases hmapped with rfl | rfl | rfl
      · exact .inr (.inl rfl)
      · exact .inr (.inr (by decide))
      · exact .inr (.inl rfl)
    · exact (displayV4_chars _ c hc).imp_right .inr
  · exact .inr (segmentsText_chars _ c hc)

theorem display_chars (ip : IpAddr) :
    ∀ c ∈ ip.display.toList, c = '.' ∨ c = ':' ∨ c ∈ hexDigits := by
  intro c hc
  cases ip with
  | v4 b => exact (displayV4_chars b c hc).imp_right .inr
  | v6 b => exact displayV6_chars b c hc

end IpAddr

namespace SocketAddr

theorem display_v4 (b : BitVec 32) (port : Nat) :
    display ⟨.v4 b, port⟩ = IpAddr.displayV4 b ++ ":" ++ toString port := rfl

theorem display_v6 (b : BitVec 128) (port : Nat) :
    display ⟨.v6 b, port⟩ = "[" ++ IpAddr.displayV6 b ++ "]:" ++ toString port := rfl

theorem display_chars (address : SocketAddr) : ∀ c ∈ address.display.toList,
    c = '[' ∨ c = ']' ∨ c = '.' ∨ c = ':' ∨ c ∈ hexDigits := by
  obtain ⟨ip, port⟩ := address
  intro c hc
  cases ip with
  | v4 b =>
    rw [display_v4, String.toList_append, String.toList_append, List.mem_append,
      List.mem_append] at hc
    rcases hc with (hc | hc) | hc
    · exact .inr (.inr ((IpAddr.displayV4_chars b c hc).imp_right .inr))
    · have : c = ':' := by simpa using hc
      simp [this]
    · simp [toString_nat_chars port c hc]
  | v6 b =>
    rw [display_v6, String.toList_append, String.toList_append, String.toList_append,
      List.mem_append, List.mem_append, List.mem_append] at hc
    rcases hc with ((hc | hc) | hc) | hc
    · have : c = '[' := by simpa using hc
      simp [this]
    · exact .inr (.inr (IpAddr.displayV6_chars b c hc))
    · have : c = ']' ∨ c = ':' := by simpa using hc
      rcases this with rfl | rfl <;> simp
    · simp [toString_nat_chars port c hc]

end SocketAddr

end Surface

import Surface.Dns.Wildcard
import Surface.Fallible

/-!
# Surface.Dns.WildcardStatus

What the wildcard status says about the answers of the two probes.

* `wildcardVerdict`: the classification stated on the answers alone, without the flags that the
  lookups keep.
* `appendAnswers_bounded`, `appendAnswers_exceeded`: collecting answers adds all of them, or marks
  the probe as limited when the bounds do not hold them.
* `Reflects`: what the flags of a probe mean after some of its lookups; `wildcardLookup_reflects`
  is the step, `wildcardLookups_reflects` the run.
* `analyzeWildcardDnsWithResolver_status_iff`: the code departs from the classification exactly
  when a wildcard shows itself through a lookup that repeats earlier answers of its probe.
-/

namespace Surface

/-- The bounds on the fingerprints one probe may collect. -/
def withinWildcardBounds (s : OrdSet String) : Prop :=
  s.size ≤ maxDnsRecords ∧ s.weight String.utf8ByteSize ≤ maxTxtBytes

instance (s : OrdSet String) : Decidable (withinWildcardBounds s) :=
  inferInstanceAs (Decidable (_ ∧ _))

theorem withinWildcardBounds_mono {s t : OrdSet String} (ht : withinWildcardBounds t)
    (h : ∀ a ∈ s, a ∈ t) : withinWildcardBounds s :=
  ⟨(OrdSet.size_le h).trans ht.1, (OrdSet.weight_le h).trans ht.2⟩

section Spec

variable (platform : Platform)

def wildcardFingerprints (records : List Record) : List String :=
  (records.filterMap (wildcardAnswer platform)).map Prod.snd

namespace WildcardMeeting

/-- What the lookup came back with, if it was made and came back. -/
def returned (meeting : WildcardMeeting) : Option (Except NetError (List Record)) :=
  if meeting.before.stops then none
  else
    match meeting.answer with
    | .ready result => some result
    | _ => none

def answers (meeting : WildcardMeeting) : List String :=
  match meeting.returned with
  | some (.ok records) => wildcardFingerprints platform records
  | _ => []

def denied (meeting : WildcardMeeting) : Bool :=
  match meeting.returned with
  | some (.error error) => wildcardNegativeResponse error
  | _ => false

end WildcardMeeting

namespace WildcardProbe

variable (probe : WildcardProbe)

/-- The fingerprints of all supported answers to these lookups, repeated ones included. -/
def answersTo (types : List RecordType) : List String :=
  types.flatMap fun recordType => (probe.lookup recordType).answers platform

def fingerprints (types : List RecordType) : OrdSet String :=
  OrdSet.ofList (probe.answersTo platform types)

def settled (types : List RecordType) : Prop :=
  (∀ recordType ∈ types, (probe.lookup recordType).denied = true ∨
    (probe.lookup recordType).answers platform ≠ []) ∧
  withinWildcardBounds (probe.fingerprints platform types)

instance (types : List RecordType) : Decidable (probe.settled platform types) :=
  inferInstanceAs (Decidable (_ ∧ _))

/-- The probe was made, every lookup brought a supported answer or an authenticated denial, and
the answers stayed within the bounds. -/
def conclusive (types : List RecordType) : Prop :=
  probe.entry.stops = false ∧ probe.settled platform types

instance (types : List RecordType) : Decidable (probe.conclusive platform types) :=
  inferInstanceAs (Decidable (_ ∧ _))

/-- Every answered lookup brings a fingerprint that no earlier lookup of the probe brought. -/
def fresh (types : List RecordType) : Prop :=
  ∀ done recordType, done ++ [recordType] <+: types →
    (probe.lookup recordType).answers platform ≠ [] →
    ∃ fingerprint ∈ (probe.lookup recordType).answers platform,
      fingerprint ∉ probe.answersTo platform done

end WildcardProbe

/-- The probes agree on a non-empty set of answers. -/
def sameAnswers (types : List RecordType) (first second : WildcardProbe) : Prop :=
  (first.fingerprints platform types).isEmpty = false ∧
    first.fingerprints platform types = second.fingerprints platform types

instance (types : List RecordType) (first second : WildcardProbe) :
    Decidable (sameAnswers platform types first second) :=
  inferInstanceAs (Decidable (_ ∧ _))

def wildcardVerdict (types : List RecordType) (first second : WildcardProbe) :
    WildcardDnsStatus :=
  if first.conclusive platform types ∧ second.conclusive platform types then
    if ∀ recordType ∈ types, (first.lookup recordType).denied = true ∧
        (second.lookup recordType).denied = true then .notDetected
    else if sameAnswers platform types first second then .detected
    else .indeterminate
  else .indeterminate

end Spec

/-! ## Collecting answers -/

section Collect

variable {platform : Platform}

theorem wildcardFingerprints_cons (record : Record) (records : List Record) :
    wildcardFingerprints platform (record :: records) =
      ((wildcardAnswer platform record).map Prod.snd).toList ++
        wildcardFingerprints platform records := by
  unfold wildcardFingerprints
  cases h : wildcardAnswer platform record with
  | none => rw [List.filterMap_cons_none h]; rfl
  | some answer => rw [List.filterMap_cons_some h]; rfl

/-- Room for one more answer is what the bounds say about the grown set. -/
theorem room_iff {s : OrdSet String} {fingerprint : String} (h : fingerprint ∉ s) :
    ¬ (maxDnsRecords ≤ s.size ∨
      maxTxtBytes < saturatingAdd (s.weight String.utf8ByteSize) fingerprint.utf8ByteSize) ↔
    withinWildcardBounds (s.insert fingerprint) := by
  unfold withinWildcardBounds
  rw [OrdSet.size_insert h, OrdSet.weight_insert h, not_or, not_le, not_lt,
    saturatingAdd_le (by decide)]
  exact and_congr_left fun _ => Nat.lt_iff_add_one_le

theorem retained_insert {s : OrdSet String} {fingerprint : String} (h : fingerprint ∉ s)
    (hb : withinWildcardBounds (s.insert fingerprint)) :
    saturatingAdd (s.weight String.utf8ByteSize) fingerprint.utf8ByteSize =
      (s.insert fingerprint).weight String.utf8ByteSize := by
  have hle := hb.2
  rw [OrdSet.weight_insert h] at hle ⊢
  exact saturatingAdd_eq (by decide) hle

/-- Answers that fit are all collected, and no flag changes. -/
theorem appendAnswers_bounded {records : List Record} {probe : WildcardProbeResult}
    (h : withinWildcardBounds
      ((wildcardFingerprints platform records).foldl OrdSet.insert probe.fingerprints)) :
    (appendWildcardAnswers platform records probe).fingerprints =
        (wildcardFingerprints platform records).foldl OrdSet.insert probe.fingerprints ∧
      (appendWildcardAnswers platform records probe).limited = probe.limited ∧
      (appendWildcardAnswers platform records probe).conclusive = probe.conclusive := by
  unfold appendWildcardAnswers
  induction records generalizing probe with
  | nil => exact ⟨rfl, rfl, rfl⟩
  | cons record records ih =>
    rw [wildcardFingerprints_cons] at h ⊢
    simp only [appendAnswers]
    cases hanswer : wildcardAnswer platform record with
    | none =>
      rw [hanswer] at h
      exact ih h
    | some answer =>
      obtain ⟨recordType, normalized⟩ := answer
      rw [hanswer] at h
      simp only [Option.map_some, Option.toList_some, List.singleton_append, List.foldl_cons] at h ⊢
      by_cases hmem : normalized ∈ probe.fingerprints
      · rw [if_pos hmem]
        rw [OrdSet.insert_of_mem hmem] at h ⊢
        exact ih h
      · have hinsert : withinWildcardBounds (probe.fingerprints.insert normalized) :=
          withinWildcardBounds_mono h (fun a ha => OrdSet.mem_foldl_insert.mpr (.inr ha))
        rw [if_neg hmem, if_neg ((room_iff hmem).mpr hinsert)]
        rw [retained_insert hmem hinsert]
        exact @ih { probe with
          answerTypes := probe.answerTypes.insert recordType
          fingerprints := probe.fingerprints.insert normalized } h

/-- Answers that do not fit leave the probe limited. -/
theorem appendAnswers_exceeded {records : List Record} {probe : WildcardProbeResult}
    (hb : withinWildcardBounds probe.fingerprints)
    (h : ¬ withinWildcardBounds
      ((wildcardFingerprints platform records).foldl OrdSet.insert probe.fingerprints)) :
    (appendWildcardAnswers platform records probe).limited = true ∧
      (appendWildcardAnswers platform records probe).conclusive = false ∧
      withinWildcardBounds (appendWildcardAnswers platform records probe).fingerprints := by
  unfold appendWildcardAnswers
  induction records generalizing probe with
  | nil => exact absurd hb h
  | cons record records ih =>
    rw [wildcardFingerprints_cons] at h
    simp only [appendAnswers]
    cases hanswer : wildcardAnswer platform record with
    | none =>
      rw [hanswer] at h
      exact ih hb h
    | some answer =>
      obtain ⟨recordType, normalized⟩ := answer
      rw [hanswer] at h
      simp only [Option.map_some, Option.toList_some, List.singleton_append, List.foldl_cons] at h ⊢
      by_cases hmem : normalized ∈ probe.fingerprints
      · rw [if_pos hmem]
        rw [OrdSet.insert_of_mem hmem] at h
        exact ih hb h
      · rw [if_neg hmem]
        by_cases hroom : withinWildcardBounds (probe.fingerprints.insert normalized)
        · rw [if_neg ((room_iff hmem).mpr hroom)]
          rw [retained_insert hmem hroom]
          exact @ih { probe with
            answerTypes := probe.answerTypes.insert recordType
            fingerprints := probe.fingerprints.insert normalized } hroom h
        · rw [if_pos (not_not.mp (mt (room_iff hmem).mp hroom))]
          exact ⟨rfl, rfl, hb⟩

end Collect

/-! ## The lookups of one probe -/

def WildcardProbeResult.clean (result : WildcardProbeResult) : Prop :=
  result.conclusive = true ∧ result.limited = false

section Lookups

variable {platform : Platform} {probe : WildcardProbe}

theorem fingerprints_snoc (done : List RecordType) (recordType : RecordType) :
    probe.fingerprints platform (done ++ [recordType]) =
      ((probe.lookup recordType).answers platform).foldl OrdSet.insert
        (probe.fingerprints platform done) := by
  unfold WildcardProbe.fingerprints WildcardProbe.answersTo
  rw [List.flatMap_append, OrdSet.ofList_append, List.flatMap_singleton]

theorem settled_snoc {done : List RecordType} {recordType : RecordType}
    (h : probe.settled platform (done ++ [recordType])) :
    probe.settled platform done ∧ ((probe.lookup recordType).denied = true ∨
      (probe.lookup recordType).answers platform ≠ []) := by
  refine ⟨⟨fun t ht => h.1 t (List.mem_append_left _ ht), ?_⟩, h.1 recordType (by simp)⟩
  refine withinWildcardBounds_mono h.2 (fun a ha => ?_)
  rw [fingerprints_snoc]
  exact OrdSet.mem_foldl_insert.mpr (.inr ha)

theorem fresh_snoc {done : List RecordType} {recordType : RecordType} :
    probe.fresh platform (done ++ [recordType]) ↔
      probe.fresh platform done ∧ ((probe.lookup recordType).answers platform ≠ [] →
        ∃ fingerprint ∈ (probe.lookup recordType).answers platform,
          fingerprint ∉ probe.answersTo platform done) := by
  unfold WildcardProbe.fresh
  constructor
  · intro h
    refine ⟨fun before t hstarts => ?_, h done recordType (List.prefix_refl _)⟩
    exact h before t (hstarts.trans (List.prefix_append done [recordType]))
  · rintro ⟨hdone, hlast⟩ before t hstarts
    rcases List.prefix_concat_iff.mp hstarts with heq | hstarts
    · obtain ⟨hbefore, ht⟩ := List.append_inj' heq rfl
      obtain rfl := List.singleton_inj.mp ht
      rw [hbefore]
      exact hlast
    · exact hdone before t hstarts

/-- The flags after the lookups in `done` say whether these lookups settle the probe with ever
new answers; while they do, all answers have been collected. -/
structure Reflects (platform : Platform) (probe : WildcardProbe) (done : List RecordType)
    (result : WildcardProbeResult) : Prop where
  negative : result.allNegative = true ↔ ∀ t ∈ done, (probe.lookup t).denied = true
  clean : result.clean ↔ probe.settled platform done ∧ probe.fresh platform done
  held : result.clean → result.fingerprints = probe.fingerprints platform done
  bounded : withinWildcardBounds result.fingerprints

theorem reflects_nil : Reflects platform probe [] {} where
  negative := by simp
  clean := by
    have hempty : withinWildcardBounds OrdSet.empty := by decide
    refine iff_of_true ⟨rfl, rfl⟩ ⟨⟨by simp, hempty⟩, fun done t h => ?_⟩
    simp at h
  held _ := rfl
  bounded := by decide

namespace Reflects

variable {done : List RecordType} {recordType : RecordType} {result result' : WildcardProbeResult}

/-- A denied lookup changes nothing. -/
theorem denied (h : Reflects platform probe done result)
    (hdenied : (probe.lookup recordType).denied = true)
    (hanswers : (probe.lookup recordType).answers platform = []) :
    Reflects platform probe (done ++ [recordType]) result := by
  have hfingerprints : probe.fingerprints platform (done ++ [recordType]) =
      probe.fingerprints platform done := by
    rw [fingerprints_snoc, hanswers, List.foldl_nil]
  have hsettled : probe.settled platform (done ++ [recordType]) ↔ probe.settled platform done := by
    refine ⟨fun hs => (settled_snoc hs).1, fun hs => ⟨fun t ht => ?_, hfingerprints ▸ hs.2⟩⟩
    rcases List.mem_append.mp ht with ht | ht
    · exact hs.1 t ht
    · rw [List.mem_singleton.mp ht]
      exact .inl hdenied
  have hfresh : probe.fresh platform (done ++ [recordType]) ↔ probe.fresh platform done := by
    rw [fresh_snoc]
    exact and_iff_left fun hne => absurd hanswers hne
  refine ⟨?_, ?_, ?_, h.bounded⟩
  · rw [h.negative]
    simp [hdenied, or_imp, forall_and]
  · rw [hsettled, hfresh]
    exact h.clean
  · rw [hfingerprints]
    exact h.held

/-- A lookup that is not denied and does not extend a settled, ever new run spoils the probe. -/
theorem spoiled (hdenied : (probe.lookup recordType).denied = false)
    (hbad : ¬ (probe.settled platform (done ++ [recordType]) ∧
      probe.fresh platform (done ++ [recordType])))
    (hnegative : result'.allNegative = false) (hclean : ¬ result'.clean)
    (hbounded : withinWildcardBounds result'.fingerprints) :
    Reflects platform probe (done ++ [recordType]) result' where
  negative := by
    rw [hnegative]
    refine iff_of_false Bool.false_ne_true (fun h => ?_)
    rw [h recordType (by simp)] at hdenied
    cases hdenied
  clean := iff_of_false hclean hbad
  held h := absurd h hclean
  bounded := hbounded

/-- Answers that repeat what a settled, ever new run has collected spoil the probe. -/
theorem repeated (h : Reflects platform probe done result)
    (hdenied : (probe.lookup recordType).denied = false)
    (hseen : ∀ fingerprint ∈ (probe.lookup recordType).answers platform,
      fingerprint ∈ result.fingerprints)
    (hnegative : result'.allNegative = false) (hconclusive : result'.conclusive = false)
    (hbounded : withinWildcardBounds result'.fingerprints) :
    Reflects platform probe (done ++ [recordType]) result' := by
  refine spoiled hdenied (fun hgood => ?_) hnegative (fun hc => ?_) hbounded
  · obtain ⟨hsettled, hlast⟩ := settled_snoc hgood.1
    obtain ⟨hfresh, hfirst⟩ := fresh_snoc.mp hgood.2
    obtain ⟨fingerprint, hf, hnot⟩ := hfirst (hlast.resolve_left (by simp [hdenied]))
    have hmem := hseen fingerprint hf
    rw [h.held (h.clean.mpr ⟨hsettled, hfresh⟩)] at hmem
    exact hnot (OrdSet.mem_ofList.mp hmem)
  · rw [hc.1] at hconclusive
    cases hconclusive

/-- Answers of which one is new carry a settled, ever new run on. -/
theorem extended (h : Reflects platform probe done result)
    (hdenied : (probe.lookup recordType).denied = false)
    (hfingerprints : result'.fingerprints =
      ((probe.lookup recordType).answers platform).foldl OrdSet.insert result.fingerprints)
    (hnew : ∃ fingerprint ∈ (probe.lookup recordType).answers platform,
      fingerprint ∉ result.fingerprints)
    (hnegative : result'.allNegative = false) (hclean : result'.clean ↔ result.clean)
    (hbounded : withinWildcardBounds result'.fingerprints) :
    Reflects platform probe (done ++ [recordType]) result' := by
  have hsnoc : result.clean →
      result'.fingerprints = probe.fingerprints platform (done ++ [recordType]) := by
    intro hc
    rw [hfingerprints, fingerprints_snoc, h.held hc]
  refine ⟨?_, ?_, fun hc => hsnoc (hclean.mp hc), hbounded⟩
  · rw [hnegative]
    refine iff_of_false Bool.false_ne_true (fun hall => ?_)
    rw [hall recordType (by simp)] at hdenied
    cases hdenied
  · rw [hclean, h.clean]
    constructor
    · rintro ⟨hsettled, hfresh⟩
      have hheld := h.held (h.clean.mpr ⟨hsettled, hfresh⟩)
      obtain ⟨fingerprint, hf, hnot⟩ := hnew
      rw [hheld] at hnot
      have hfirst : fingerprint ∉ probe.answersTo platform done :=
        fun hmem => hnot (OrdSet.mem_ofList.mpr hmem)
      refine ⟨⟨fun t ht => ?_, ?_⟩, fresh_snoc.mpr ⟨hfresh, fun _ => ⟨fingerprint, hf, hfirst⟩⟩⟩
      · rcases List.mem_append.mp ht with ht | ht
        · exact hsettled.1 t ht
        · rw [List.mem_singleton.mp ht]
          exact .inr (List.ne_nil_of_mem hf)
      · rw [← hsnoc (h.clean.mpr ⟨hsettled, hfresh⟩)]
        exact hbounded
    · rintro ⟨hsettled, hfresh⟩
      exact ⟨(settled_snoc hsettled).1, (fresh_snoc.mp hfresh).1⟩

/-- Answers that do not fit spoil the probe. -/
theorem exceeded (h : Reflects platform probe done result)
    (hdenied : (probe.lookup recordType).denied = false)
    (hbounds : ¬ withinWildcardBounds
      (((probe.lookup recordType).answers platform).foldl OrdSet.insert result.fingerprints))
    (hnegative : result'.allNegative = false) (hlimited : result'.limited = true)
    (hbounded : withinWildcardBounds result'.fingerprints) :
    Reflects platform probe (done ++ [recordType]) result' := by
  refine spoiled hdenied (fun hgood => ?_) hnegative (fun hc => ?_) hbounded
  · have hheld := h.held (h.clean.mpr ⟨(settled_snoc hgood.1).1, (fresh_snoc.mp hgood.2).1⟩)
    have hfits := hgood.1.2
    rw [fingerprints_snoc, ← hheld] at hfits
    exact hbounds hfits
  · rw [hc.2] at hlimited
    cases hlimited

/-- The lookup came back with an answer section. -/
theorem answered (h : Reflects platform probe done result) {records : List Record}
    (hreturned : (probe.lookup recordType).returned = some (.ok records))
    (hnegative : result'.allNegative = false)
    (hresult : result'.fingerprints = (appendWildcardAnswers platform records result).fingerprints ∧
      result'.limited = (appendWildcardAnswers platform records result).limited)
    (hrepeated : result'.fingerprints.size = result.fingerprints.size →
      result'.conclusive = false)
    (hnew : result'.fingerprints.size ≠ result.fingerprints.size →
      result'.conclusive = (appendWildcardAnswers platform records result).conclusive) :
    Reflects platform probe (done ++ [recordType]) result' := by
  have hanswers : (probe.lookup recordType).answers platform =
      wildcardFingerprints platform records := by
    unfold WildcardMeeting.answers
    rw [hreturned]
  have hdenied : (probe.lookup recordType).denied = false := by
    unfold WildcardMeeting.denied
    rw [hreturned]
  obtain ⟨hfingerprints, hlimited⟩ := hresult
  by_cases hbounds : withinWildcardBounds
      ((wildcardFingerprints platform records).foldl OrdSet.insert result.fingerprints)
  · obtain ⟨hall, hlim, hcon⟩ := appendAnswers_bounded hbounds
    rw [hall] at hfingerprints
    rw [hlim] at hlimited
    have hbounded : withinWildcardBounds result'.fingerprints := hfingerprints ▸ hbounds
    -- the source compares sizes where it means the answers
    have hsize : result'.fingerprints.size = result.fingerprints.size ↔
        ∀ fingerprint ∈ wildcardFingerprints platform records,
          fingerprint ∈ result.fingerprints := by
      rw [hfingerprints]
      exact OrdSet.size_foldl_insert_eq_iff
    by_cases hseen : ∀ fingerprint ∈ wildcardFingerprints platform records,
        fingerprint ∈ result.fingerprints
    · exact h.repeated hdenied (hanswers ▸ hseen) hnegative (hrepeated (hsize.mpr hseen)) hbounded
    · have hcon' := (hnew (fun heq => hseen (hsize.mp heq))).trans hcon
      have hclean : result'.clean ↔ result.clean := by
        unfold WildcardProbeResult.clean
        rw [hcon', hlimited]
      refine h.extended hdenied (hanswers ▸ hfingerprints) ?_ hnegative hclean hbounded
      rw [hanswers]
      simpa using hseen
  · obtain ⟨hlim, _, hkept⟩ := appendAnswers_exceeded h.bounded hbounds
    exact h.exceeded hdenied (hanswers ▸ hbounds) hnegative (hlimited.trans hlim)
      (hfingerprints ▸ hkept)

end Reflects

theorem not_returned {meeting : WildcardMeeting} (h : meeting.returned = none) :
    meeting.denied = false ∧ meeting.answers platform = [] := by
  unfold WildcardMeeting.denied WildcardMeeting.answers
  rw [h]
  exact ⟨rfl, rfl⟩

/-- A lookup without answer and denial. -/
theorem Reflects.failed {done : List RecordType} {recordType : RecordType}
    {progress : WildcardProgress} (h : Reflects platform probe done progress.probe)
    (hdenied : (probe.lookup recordType).denied = false)
    (hanswers : (probe.lookup recordType).answers platform = []) (message : String) :
    Reflects platform probe (done ++ [recordType]) (progress.fail message).probe := by
  refine Reflects.spoiled hdenied (fun hgood => ?_) rfl (fun hc => ?_) h.bounded
  · rcases (settled_snoc hgood.1).2 with hd | ha
    · rw [hdenied] at hd
      cases hd
    · exact ha hanswers
  · cases hc.1

theorem wildcardLookup_reflects (probeIndex : Nat) {done : List RecordType}
    {progress : WildcardProgress} (recordType : RecordType)
    (h : Reflects platform probe done progress.probe) :
    (∀ next, wildcardLookup platform probeIndex recordType (probe.lookup recordType) progress =
        .ok next → Reflects platform probe (done ++ [recordType]) next.probe) ∧
      ∀ stopped,
        wildcardLookup platform probeIndex recordType (probe.lookup recordType) progress =
        .error stopped → stopped.2.probe.conclusive = false ∧
          (probe.lookup recordType).denied = false ∧
          (probe.lookup recordType).answers platform = [] := by
  have hreturned : (probe.lookup recordType).returned =
      if (probe.lookup recordType).before.stops then none
      else match (probe.lookup recordType).answer with
        | .ready result => some result
        | _ => none := rfl
  unfold Reading.stops at hreturned
  unfold wildcardLookup
  simp only
  cases hcancelled : (probe.lookup recordType).before.cancelled with
  | true =>
    simp only [hcancelled, Bool.true_or, if_true] at hreturned ⊢
    exact outcomes_error ⟨rfl, not_returned hreturned⟩
  | false =>
    cases hexpired : (probe.lookup recordType).before.expired with
    | true =>
      simp only [hcancelled, hexpired, Bool.false_or, if_true, Bool.false_eq_true,
        if_false] at hreturned ⊢
      exact outcomes_error ⟨rfl, not_returned hreturned⟩
    | false =>
      simp only [hcancelled, hexpired, Bool.false_or, Bool.false_eq_true, if_false] at hreturned ⊢
      cases hanswer : (probe.lookup recordType).answer with
      | cancelled =>
        rw [hanswer] at hreturned
        exact outcomes_error ⟨rfl, not_returned hreturned⟩
      | timedOut =>
        rw [hanswer] at hreturned
        obtain ⟨hdenied, hanswers⟩ := @not_returned platform _ hreturned
        simp only
        split
        · exact outcomes_error ⟨rfl, hdenied, hanswers⟩
        · refine outcomes_ok ?_
          exact h.failed hdenied hanswers _
      | ready result =>
        rw [hanswer] at hreturned
        cases result with
        | ok records =>
          simp only
          split
          · rename_i hsize
            refine outcomes_ok ?_
            exact h.answered hreturned rfl ⟨rfl, rfl⟩ (fun _ => rfl)
              (fun hne => absurd hsize hne)
          · rename_i hsize
            refine outcomes_ok ?_
            exact h.answered hreturned rfl ⟨rfl, rfl⟩ (fun heq => absurd heq hsize)
              (fun _ => rfl)
        | error error =>
          have hanswers : (probe.lookup recordType).answers platform = [] := by
            unfold WildcardMeeting.answers
            rw [hreturned]
          have hdenied : (probe.lookup recordType).denied = wildcardNegativeResponse error := by
            unfold WildcardMeeting.denied
            rw [hreturned]
          simp only
          split
          · rename_i hnegative
            refine outcomes_ok ?_
            exact h.denied (hdenied.trans hnegative) hanswers
          · rename_i hnegative
            refine outcomes_ok ?_
            exact h.failed (hdenied.trans (by simpa using hnegative)) hanswers _

theorem wildcardLookups_reflects (probeIndex : Nat) {done : List RecordType}
    {progress : WildcardProgress} (rest : List RecordType)
    (h : Reflects platform probe done progress.probe) :
    (∀ next, wildcardLookups platform probeIndex probe.lookup rest progress = .ok next →
        Reflects platform probe (done ++ rest) next.probe) ∧
      ∀ stopped, wildcardLookups platform probeIndex probe.lookup rest progress =
        .error stopped → stopped.2.probe.conclusive = false ∧
          ¬ probe.settled platform (done ++ rest) := by
  induction rest generalizing done progress with
  | nil =>
    refine outcomes_ok ?_
    rw [List.append_nil]
    exact h
  | cons recordType rest ih =>
    obtain ⟨hok, herror⟩ := wildcardLookup_reflects probeIndex recordType h
    have hassoc : done ++ recordType :: rest = (done ++ [recordType]) ++ rest := by simp
    simp only [wildcardLookups]
    cases hstep : wildcardLookup platform probeIndex recordType (probe.lookup recordType)
        progress with
    | ok progress' =>
      rw [hassoc]
      exact ih (hok progress' hstep)
    | error stopped =>
      obtain ⟨hcon, hdenied, hanswers⟩ := herror stopped hstep
      refine outcomes_error ⟨hcon, fun hsettled => ?_⟩
      rcases hsettled.1 recordType (by simp) with hd | ha
      · rw [hdenied] at hd
        cases hd
      · exact ha hanswers

end Lookups

/-! ## Both probes -/

section Probes

variable (platform : Platform)

theorem wildcardStatus_unclean {first second : WildcardProbeResult}
    (h : ¬ (first.clean ∧ second.clean)) : wildcardStatus [first, second] = .indeterminate := by
  unfold wildcardStatus
  refine if_neg (fun hall => h ?_)
  simpa [WildcardProbeResult.clean] using hall

theorem wildcardStatus_clean {first second : WildcardProbeResult} (h₁ : first.clean)
    (h₂ : second.clean) :
    wildcardStatus [first, second] =
      if first.allNegative = true ∧ second.allNegative = true then .notDetected
      else if first.fingerprints.isEmpty = false ∧
        first.fingerprints = second.fingerprints then .detected
      else .indeterminate := by
  have hclean : ([first, second].all fun probe => probe.conclusive && !probe.limited) = true := by
    simp [h₁.1, h₁.2, h₂.1, h₂.2]
  unfold wildcardStatus
  simp only [hclean, if_true]
  simp

/-- What the lookups of a started probe come to, in terms of what the probe meets. -/
theorem wildcardLookups_cases (types : List RecordType) (probe : WildcardProbe) (probeIndex : Nat)
    (errors : List String) :
    (∃ progress, wildcardLookups platform probeIndex probe.lookup types { errors := errors } =
        .ok progress ∧ Reflects platform probe types progress.probe) ∨
      (∃ state progress, wildcardLookups platform probeIndex probe.lookup types
        { errors := errors } = .error (state, progress) ∧ ¬ progress.probe.clean ∧
          ¬ probe.conclusive platform types) := by
  obtain ⟨hok, herror⟩ := @wildcardLookups_reflects platform probe probeIndex []
    { errors := errors } types reflects_nil
  cases hrun : wildcardLookups platform probeIndex probe.lookup types { errors := errors } with
  | ok progress => exact .inl ⟨progress, rfl, hok progress hrun⟩
  | error stopped =>
    obtain ⟨state, progress⟩ := stopped
    obtain ⟨hcon, hsettled⟩ := herror (state, progress) hrun
    refine .inr ⟨state, progress, rfl, fun hc => ?_, fun hc => hsettled hc.2⟩
    rw [hc.1] at hcon
    cases hcon

/-- One more probe: the run ends at it, or goes on with its result. -/
theorem wildcardProbes_cases (types : List RecordType) (probe : WildcardProbe)
    (rest : List WildcardProbe) (observation : WildcardDnsObservation)
    (probes : List WildcardProbeResult) :
    (∃ last : List WildcardProbeResult, (∀ result ∈ last, ¬ result.clean) ∧ last.length ≤ 1 ∧
        ¬ probe.conclusive platform types ∧
        (wildcardProbes platform types (probe :: rest) observation probes).observation.status =
          wildcardStatus (probes ++ last)) ∨
      (∃ result observation', probe.entry.stops = false ∧ Reflects platform probe types result ∧
        wildcardProbes platform types (probe :: rest) observation probes =
          wildcardProbes platform types rest observation' (probes ++ [result])) := by
  cases hcancelled : probe.entry.cancelled with
  | true =>
    refine .inl ⟨[], by simp, by simp, fun hc => ?_, ?_⟩
    · simp [WildcardProbe.conclusive, Reading.stops, hcancelled] at hc
    · simp only [wildcardProbes, hcancelled, if_true, List.append_nil]
      rfl
  | false =>
    cases hexpired : probe.entry.expired with
    | true =>
      refine .inl ⟨[], by simp, by simp, fun hc => ?_, ?_⟩
      · simp [WildcardProbe.conclusive, Reading.stops, hexpired] at hc
      · simp only [wildcardProbes, hcancelled, hexpired, Bool.false_eq_true, if_false, if_true,
          List.append_nil]
        rfl
    | false =>
      have hentry : probe.entry.stops = false := by simp [Reading.stops, hcancelled, hexpired]
      simp only [wildcardProbes, hcancelled, hexpired, Bool.false_eq_true, if_false]
      rcases wildcardLookups_cases platform types probe probes.length observation.errors with
        ⟨progress, hrun, hreflects⟩ | ⟨state, progress, hrun, hclean, hsettled⟩
      · rw [hrun]
        exact .inr ⟨progress.probe, _, hentry, hreflects, rfl⟩
      · rw [hrun]
        exact .inl ⟨[progress.probe], by simpa using hclean, by simp, hsettled, rfl⟩

/-- The probe is conclusive and every answered lookup brings something new. -/
def WildcardProbe.steady (types : List RecordType) (probe : WildcardProbe) : Prop :=
  probe.conclusive platform types ∧ probe.fresh platform types

theorem Reflects.clean_iff_steady {types : List RecordType} {probe : WildcardProbe}
    {result : WildcardProbeResult} (h : Reflects platform probe types result)
    (hentry : probe.entry.stops = false) : result.clean ↔ probe.steady platform types := by
  unfold WildcardProbe.steady WildcardProbe.conclusive
  rw [h.clean, and_assoc, iff_and_self]
  exact fun _ => hentry

theorem wildcardVerdict_conclusive {types : List RecordType} {first second : WildcardProbe}
    (h₁ : first.conclusive platform types) (h₂ : second.conclusive platform types) :
    wildcardVerdict platform types first second =
      if ∀ recordType ∈ types, (first.lookup recordType).denied = true ∧
          (second.lookup recordType).denied = true then .notDetected
      else if sameAnswers platform types first second then .detected
      else .indeterminate :=
  if_pos ⟨h₁, h₂⟩

/-- Only two steady probes are classified. -/
theorem wildcardProbes_status (types : List RecordType) (first second : WildcardProbe)
    (observation : WildcardDnsObservation) :
    (first.steady platform types ∧ second.steady platform types →
      (wildcardProbes platform types [first, second] observation []).observation.status =
        wildcardVerdict platform types first second) ∧
    (¬ (first.steady platform types ∧ second.steady platform types) →
      (wildcardProbes platform types [first, second] observation []).observation.status =
        .indeterminate) := by
  rcases wildcardProbes_cases platform types first [second] observation [] with
    ⟨last, _, hlength, hnot, hstatus⟩ | ⟨result₁, observation₁, hentry₁, h₁, hrun₁⟩
  · refine ⟨fun h => absurd h.1.1 hnot, fun _ => hstatus.trans ?_⟩
    cases last with
    | nil => rfl
    | cons result last =>
      cases last with
      | nil => rfl
      | cons _ _ => simp at hlength
  · rw [hrun₁]
    rcases wildcardProbes_cases platform types second [] observation₁ ([] ++ [result₁]) with
      ⟨last, hunclean, hlength, hnot, hstatus⟩ | ⟨result₂, observation₂, hentry₂, h₂, hrun₂⟩
    · refine ⟨fun h => absurd h.2.1 hnot, fun _ => hstatus.trans ?_⟩
      cases last with
      | nil => rfl
      | cons result last =>
        cases last with
        | nil => exact wildcardStatus_unclean (fun h => hunclean result (by simp) h.2)
        | cons _ _ => simp at hlength
    · rw [hrun₂]
      have hclean₁ := h₁.clean_iff_steady platform hentry₁
      have hclean₂ := h₂.clean_iff_steady platform hentry₂
      have hstatus : (wildcardProbes platform types [] observation₂
          (([] ++ [result₁]) ++ [result₂])).observation.status =
            wildcardStatus [result₁, result₂] := rfl
      rw [hstatus, ← hclean₁, ← hclean₂]
      refine ⟨fun h => ?_, wildcardStatus_unclean⟩
      have hnegative : result₁.allNegative = true ∧ result₂.allNegative = true ↔
          ∀ t ∈ types, (first.lookup t).denied = true ∧ (second.lookup t).denied = true := by
        rw [h₁.negative, h₂.negative]
        simp only [forall_and]
      rw [wildcardStatus_clean h.1 h.2, h₁.held h.1, h₂.held h.2,
        wildcardVerdict_conclusive platform (hclean₁.mp h.1).1 (hclean₂.mp h.2).1]
      exact if_congr hnegative rfl rfl

/-- A probe whose lookups were all denied repeats nothing. -/
theorem fresh_of_denied {types : List RecordType} {probe : WildcardProbe}
    (h : ∀ t ∈ types, (probe.lookup t).denied = true) : probe.fresh platform types := by
  intro done recordType hstarts hne
  have hmem : recordType ∈ types := hstarts.subset (by simp)
  refine absurd ?_ hne
  have hdenied := h recordType hmem
  unfold WildcardMeeting.denied at hdenied
  unfold WildcardMeeting.answers
  split at hdenied
  · rename_i error herror
    rw [herror]
  · cases hdenied

/-- The status is the intended one unless a wildcard shows itself through a lookup that only
repeats what earlier lookups of its probe brought. -/
theorem analyzeWildcardDnsWithResolver_status_iff (ipv4Only ipv6Only : Bool)
    (first second : WildcardProbe) :
    (analyzeWildcardDnsWithResolver platform ipv4Only ipv6Only first second).observation.status =
        wildcardVerdict platform (wildcardQueryTypes ipv4Only ipv6Only) first second ↔
      ¬ (first.conclusive platform (wildcardQueryTypes ipv4Only ipv6Only) ∧
        second.conclusive platform (wildcardQueryTypes ipv4Only ipv6Only) ∧
        sameAnswers platform (wildcardQueryTypes ipv4Only ipv6Only) first second ∧
        ¬ (first.fresh platform (wildcardQueryTypes ipv4Only ipv6Only) ∧
          second.fresh platform (wildcardQueryTypes ipv4Only ipv6Only))) := by
  unfold analyzeWildcardDnsWithResolver
  generalize wildcardQueryTypes ipv4Only ipv6Only = types
  obtain ⟨hsteady, hunsteady⟩ := wildcardProbes_status platform types first second
    { limitations := [
        "Detection uses exactly two random UUID-v4 child names and selected A/AAAA plus CNAME " ++
          "lookups.",
        "Random probe answers were not scanned or used as downstream targets."] }
  by_cases hgood : first.steady platform types ∧ second.steady platform types
  · exact iff_of_true (hsteady hgood) (fun h => h.2.2.2 ⟨hgood.1.2, hgood.2.2⟩)
  · rw [hunsteady hgood]
    by_cases hconclusive : first.conclusive platform types ∧ second.conclusive platform types
    · have hfresh : ¬ (first.fresh platform types ∧ second.fresh platform types) :=
        fun h => hgood ⟨⟨hconclusive.1, h.1⟩, hconclusive.2, h.2⟩
      have hdenied : ¬ ∀ t ∈ types, (first.lookup t).denied = true ∧
          (second.lookup t).denied = true := by
        intro h
        exact hfresh ⟨fresh_of_denied platform (fun t ht => (h t ht).1),
          fresh_of_denied platform (fun t ht => (h t ht).2)⟩
      rw [wildcardVerdict_conclusive platform hconclusive.1 hconclusive.2, if_neg hdenied]
      by_cases hsame : sameAnswers platform types first second
      · rw [if_pos hsame]
        exact iff_of_false (by simp) (not_not.mpr ⟨hconclusive.1, hconclusive.2, hsame, hfresh⟩)
      · rw [if_neg hsame]
        exact iff_of_true rfl (fun h => hsame h.2.2.1)
    · unfold wildcardVerdict
      rw [if_neg hconclusive]
      exact iff_of_true rfl (fun h => hconclusive ⟨h.1, h.2.1⟩)

end Probes

/-! ## A repeated alias -/

/-- A wildcard alias: the address lookup brings the alias and its address, the alias lookup
brings the alias again. -/
def aliasProbe : WildcardProbe where
  entry := ⟨false, false⟩
  lookup
    | .cname => ⟨⟨false, false⟩, false, .ready (.ok [⟨"probe.example.com.",
        .cname "pages.example.net.", .insecure⟩])⟩
    | _ => ⟨⟨false, false⟩, false, .ready (.ok [⟨"probe.example.com.",
        .cname "pages.example.net.", .insecure⟩,
        ⟨"pages.example.net.", .a 0xc0000201#32, .insecure⟩])⟩

theorem wildcard_alias_missed :
    (analyzeWildcardDnsWithResolver fixturePlatform true false aliasProbe
        aliasProbe).observation.status = .indeterminate ∧
      wildcardVerdict fixturePlatform (wildcardQueryTypes true false) aliasProbe aliasProbe =
        .detected := by
  decide +kernel

end Surface

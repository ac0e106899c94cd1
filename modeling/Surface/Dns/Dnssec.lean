import Mathlib.Data.List.MinMax
import Surface.Dns.Baseline

/-!
# Surface.Dns.Dnssec

DNSSEC validation of the address records of a hostname.

* `aggregateDnssecStatus`: the loop that makes one status of several.
* `analyzeDnssec`: the lookups of a run, and the observation made of them.
* `aggregateDnssecStatus_maximum`: the loop computes a maximum in the order of precedence, so
  nothing but the set of statuses counts, and a bogus proof decides.
-/

namespace Surface

def dnssecStatusFromProof : Proof → DnssecStatus
  | .secure => .secure
  | .insecure => .insecure
  | .bogus => .bogus
  | .indeterminate => .indeterminate

/-- The loop, with what it has aggregated so far. -/
def aggregateFrom (aggregate : Option DnssecStatus) : List DnssecStatus → DnssecStatus
  | [] => aggregate.getD .indeterminate
  | .bogus :: _ => .bogus
  | .indeterminate :: rest => aggregateFrom (some .indeterminate) rest
  | .insecure :: rest =>
    if aggregate ≠ some .indeterminate then aggregateFrom (some .insecure) rest
    else aggregateFrom aggregate rest
  | .secure :: rest =>
    if aggregate = none then aggregateFrom (some .secure) rest else aggregateFrom aggregate rest
  | .notApplicable :: rest => aggregateFrom aggregate rest

def aggregateDnssecStatus (statuses : List DnssecStatus) : DnssecStatus :=
  aggregateFrom none statuses

def dnssecStatusFromProofs (proofs : List Proof) : DnssecStatus :=
  aggregateDnssecStatus (proofs.map dnssecStatusFromProof)

def dnssecStatusFromLookupError : NetError → Option DnssecStatus
  | .nsec _ proof _ => some (dnssecStatusFromProof proof)
  | .noRecordsFound _ authorities =>
    authorities.map fun records => dnssecStatusFromProofs (records.map Record.proof)
  | _ => none

/-! ## The validation of a hostname -/

/-- What the resolver comes to: an error of its set-up, and the result of each lookup. -/
structure DnssecMeeting where
  builderError : Option String
  buildError : Option String
  lookup : DnssecRecordType → LookupResult

def dnssecQueryTypes (ipv4Only ipv6Only : Bool) : Option (List DnssecRecordType) :=
  match ipv4Only, ipv6Only with
  | true, false => some [.a]
  | false, true => some [.aaaa]
  | false, false => some [.a, .aaaa]
  | true, true => none

section Validation

variable (platform : Platform)

/-- The status of one RRset, and the error that is reported with it. -/
def dnssecRrset (hostname : String) (recordType : DnssecRecordType) (result : LookupResult) :
    DnssecStatus × List String :=
  match result with
  | some (.ok records) =>
    let status := dnssecStatusFromProofs (records.map Record.proof)
    (status, if status = .indeterminate then
      [hostname ++ " " ++ recordType.asStr ++ " validation returned no conclusive DNSSEC proof"]
      else [])
  | some (.error error) =>
    let status := (dnssecStatusFromLookupError error).getD .indeterminate
    (status, if status = .indeterminate then
      [capped (hostname ++ " " ++ recordType.asStr ++ " validation failed: " ++
        platform.displayError error)]
      else [])
  | none => (.indeterminate, [hostname ++ " " ++ recordType.asStr ++ " validation timed out"])

/-- The lookups of the record types, one after the other. -/
def checkRrsets (hostname : String) (lookup : DnssecRecordType → LookupResult)
    (recordTypes : List DnssecRecordType) (observation : DnssecObservation) : DnssecObservation :=
  recordTypes.foldl (fun observation recordType =>
    let (status, errors) := dnssecRrset platform hostname recordType (lookup recordType)
    { observation with
      checkedRrsets := observation.checkedRrsets ++ [⟨hostname, recordType, status⟩]
      errors := observation.errors ++ errors }) observation

def dnssecScope : String :=
  "Validation uses Hickory Resolver's built-in trust anchors and covers only selected " ++
    "primary-host A/AAAA RRsets."

def dnssecNotApplicable (limitation : String) : DnssecObservation :=
  { status := .notApplicable, limitations := [limitation] }

def analyzeDnssec (target : NormalizedTarget) (meeting : DnssecMeeting)
    (ipv4Only ipv6Only : Bool) : DnssecObservation :=
  if target.explicitIp.isSome then
    dnssecNotApplicable "DNSSEC validation applies only to hostname targets."
  else
    match target.hostname with
    | none => dnssecNotApplicable "DNSSEC validation applies only to hostname targets."
    | some hostname =>
      match dnssecQueryTypes ipv4Only ipv6Only with
      | none => dnssecNotApplicable
          "No address RRset is selected when both address-family filters are enabled."
      | some queryTypes =>
        match meeting.builderError, meeting.buildError with
        | some error, _ =>
          { errors := [capped ("could not initialize validating DNS resolver: " ++ error)]
            limitations := [dnssecScope] }
        | none, some error =>
          { errors := [capped ("could not build validating DNS resolver: " ++ error)]
            limitations := [dnssecScope] }
        | none, none =>
          let observation := checkRrsets platform hostname meeting.lookup queryTypes
            { limitations := [dnssecScope] }
          { observation with
            status := aggregateDnssecStatus
              (observation.checkedRrsets.map DnssecRrsetObservation.status) }

end Validation

/-! ## Precedence -/

namespace DnssecStatus

/-- The order in which a status wins over others; what does not apply wins over none. -/
def precedence : DnssecStatus → Nat
  | notApplicable => 0
  | secure => 1
  | insecure => 2
  | indeterminate => 3
  | bogus => 4

theorem precedence_injective : Function.Injective precedence := by
  intro s t h
  cases s <;> cases t <;> simp [precedence] at h ⊢

instance : LinearOrder DnssecStatus := LinearOrder.lift' precedence precedence_injective

theorem le_bogus (status : DnssecStatus) : status ≤ bogus := by cases status <;> decide

theorem withBot_le_bogus (status : WithBot DnssecStatus) : status ≤ bogus := by
  cases status with
  | bot => exact bot_le
  | coe status => exact WithBot.coe_le_coe.mpr (le_bogus status)

end DnssecStatus

/-- The statuses that take part. -/
def applicable (statuses : List DnssecStatus) : List DnssecStatus :=
  statuses.filter fun status => decide (status ≠ .notApplicable)

theorem applicable_cons {status : DnssecStatus} (h : status ≠ .notApplicable)
    (rest : List DnssecStatus) : applicable (status :: rest) = status :: applicable rest :=
  List.filter_cons_of_pos (decide_eq_true h)

/-- What the loop aggregates after one more status. -/
theorem aggregateFrom_cons {aggregate : Option DnssecStatus} {status : DnssecStatus}
    (h : ∀ before ∈ aggregate, before ≠ .notApplicable ∧ before ≠ .bogus)
    (happlies : status ≠ .notApplicable) (hbogus : status ≠ .bogus) (rest : List DnssecStatus) :
    aggregateFrom aggregate (status :: rest) =
      aggregateFrom (some (aggregate.elim status (max · status))) rest := by
  cases aggregate with
  | none => cases status <;> first | rfl | contradiction
  | some before =>
    obtain ⟨hbefore, hbefore'⟩ := h before rfl
    cases before <;> cases status <;> first | rfl | contradiction

/-- The loop takes the maximum of what it has aggregated and what is still to come. -/
theorem aggregateFrom_eq {aggregate : Option DnssecStatus} {statuses : List DnssecStatus}
    (h : ∀ status ∈ aggregate, status ≠ .notApplicable ∧ status ≠ .bogus) :
    aggregateFrom aggregate statuses =
      (max (aggregate.elim ⊥ WithBot.some) (applicable statuses).maximum).unbotD
        .indeterminate := by
  induction statuses generalizing aggregate with
  | nil =>
    cases aggregate with
    | none => rfl
    | some status => rfl
  | cons status rest ih =>
    by_cases hbogus : status = .bogus
    · subst hbogus
      have hfirst : applicable (.bogus :: rest) = .bogus :: applicable rest := rfl
      rw [hfirst, List.maximum_cons, max_left_comm,
        max_eq_left (DnssecStatus.withBot_le_bogus _)]
      rfl
    · by_cases happlies : status = .notApplicable
      · rw [happlies]
        exact ih h
      · rw [aggregateFrom_cons h happlies hbogus, applicable_cons happlies, List.maximum_cons,
          ih, ← max_assoc]
        · cases aggregate with
          | none => simp
          | some before => rfl
        · rintro _ ⟨⟩
          cases aggregate with
          | none => exact ⟨happlies, hbogus⟩
          | some before =>
            have hmax : max before status ≠ .notApplicable ∧ max before status ≠ .bogus := by
              rcases max_choice before status with hmax | hmax
              · rw [hmax]
                exact h before rfl
              · rw [hmax]
                exact ⟨happlies, hbogus⟩
            exact hmax

theorem aggregateDnssecStatus_eq (statuses : List DnssecStatus) :
    aggregateDnssecStatus statuses = (applicable statuses).maximum.unbotD .indeterminate := by
  rw [aggregateDnssecStatus,
    aggregateFrom_eq fun status hnone => absurd hnone (Option.not_mem_none status),
    Option.elim_none, max_eq_right bot_le]

theorem mem_applicable {status : DnssecStatus} {statuses : List DnssecStatus} :
    status ∈ applicable statuses ↔ status ∈ statuses ∧ status ≠ .notApplicable := by
  rw [applicable, List.mem_filter, decide_eq_true_iff]

/-- Only which statuses there are counts. -/
theorem aggregateDnssecStatus_congr {statuses statuses' : List DnssecStatus}
    (h : ∀ status, status ∈ statuses ↔ status ∈ statuses') :
    aggregateDnssecStatus statuses = aggregateDnssecStatus statuses' := by
  have hsame : ∀ status, status ∈ applicable statuses ↔ status ∈ applicable statuses' :=
    fun status => by rw [mem_applicable, mem_applicable, h status]
  have hmaximum : (applicable statuses).maximum = (applicable statuses').maximum :=
    le_antisymm (List.maximum_mono fun status hmem => (hsame status).mp hmem)
      (List.maximum_mono fun status hmem => (hsame status).mpr hmem)
  rw [aggregateDnssecStatus_eq, aggregateDnssecStatus_eq, hmaximum]

theorem aggregateDnssecStatus_bogus_iff {statuses : List DnssecStatus} :
    aggregateDnssecStatus statuses = .bogus ↔ .bogus ∈ statuses := by
  rw [aggregateDnssecStatus_eq]
  constructor
  · intro h
    cases hmaximum : (applicable statuses).maximum with
    | bot =>
      rw [hmaximum] at h
      cases h
    | coe status =>
      rw [hmaximum, WithBot.unbotD_coe] at h
      exact h ▸ (mem_applicable.mp (List.maximum_mem hmaximum)).1
  · intro h
    have hmem : DnssecStatus.bogus ∈ applicable statuses := mem_applicable.mpr ⟨h, nofun⟩
    have hmaximum : (applicable statuses).maximum = (DnssecStatus.bogus : WithBot DnssecStatus) :=
      le_antisymm (DnssecStatus.withBot_le_bogus _) (List.le_maximum_of_mem' hmem)
    rw [hmaximum]
    rfl

theorem dnssecStatusFromProofs_bogus_iff {records : List Record} :
    dnssecStatusFromProofs (records.map Record.proof) = .bogus ↔
      ∃ record ∈ records, record.proof = .bogus := by
  have hproof : ∀ proof, dnssecStatusFromProof proof = .bogus ↔ proof = .bogus := by
    intro proof
    cases proof <;> simp [dnssecStatusFromProof]
  rw [dnssecStatusFromProofs, aggregateDnssecStatus_bogus_iff, List.map_map, List.mem_map]
  exact exists_congr fun record => and_congr_right fun _ => hproof record.proof

/-! ## The whole observation -/

variable {platform : Platform}

/-- Every record type that was looked up has its status among those of the RRsets. -/
theorem checkRrsets_statuses (hostname : String) (lookup : DnssecRecordType → LookupResult)
    (recordTypes : List DnssecRecordType) (observation : DnssecObservation) :
    (checkRrsets platform hostname lookup recordTypes observation).checkedRrsets.map
        DnssecRrsetObservation.status =
      observation.checkedRrsets.map DnssecRrsetObservation.status ++
        recordTypes.map fun recordType =>
          (dnssecRrset platform hostname recordType (lookup recordType)).1 := by
  unfold checkRrsets
  induction recordTypes generalizing observation with
  | nil => exact (List.append_nil _).symm
  | cons recordType recordTypes ih =>
    rw [List.foldl_cons, ih, List.map_append, List.append_assoc]
    rfl

/-- Where a bogus proof is met: at a record of the answer, at an authority record of a negative
answer, or at the denial of existence. -/
inductive BogusProof : LookupResult → Prop where
  | answer {records : List Record} {record : Record} (hrecord : record ∈ records)
      (hproof : record.proof = .bogus) : BogusProof (some (.ok records))
  | authority {code : ResponseCode} {authorities : List Record} {record : Record}
      (hrecord : record ∈ authorities) (hproof : record.proof = .bogus) :
      BogusProof (some (.error (.noRecordsFound code (some authorities))))
  | denial {code : ResponseCode} {authorities : List Record} :
      BogusProof (some (.error (.nsec code .bogus authorities)))

theorem dnssecRrset_bogus_iff (hostname : String) (recordType : DnssecRecordType)
    (result : LookupResult) :
    (dnssecRrset platform hostname recordType result).1 = .bogus ↔ BogusProof result := by
  constructor
  · intro h
    cases result with
    | none => cases h
    | some result =>
      cases result with
      | ok records =>
        obtain ⟨record, hrecord, hproof⟩ := dnssecStatusFromProofs_bogus_iff.mp h
        exact .answer hrecord hproof
      | error error =>
        cases error with
        | noRecordsFound code authorities =>
          cases authorities with
          | none => cases h
          | some authorities =>
            obtain ⟨record, hrecord, hproof⟩ := dnssecStatusFromProofs_bogus_iff.mp h
            exact .authority hrecord hproof
        | nsec code proof authorities => cases proof <;> first | exact .denial | cases h
        | _ => cases h
  · intro h
    cases h with
    | answer hrecord hproof => exact dnssecStatusFromProofs_bogus_iff.mpr ⟨_, hrecord, hproof⟩
    | authority hrecord hproof => exact dnssecStatusFromProofs_bogus_iff.mpr ⟨_, hrecord, hproof⟩
    | denial => rfl

/-- What the lookup of one of the record types comes to has a bogus proof. -/
structure BogusAnswer (target : NormalizedTarget) (meeting : DnssecMeeting)
    (ipv4Only ipv6Only : Bool) : Prop where
  hostname : target.explicitIp = none ∧ target.hostname.isSome
  resolver : meeting.builderError = none ∧ meeting.buildError = none
  lookup : ∃ queryTypes, dnssecQueryTypes ipv4Only ipv6Only = some queryTypes ∧
    ∃ recordType ∈ queryTypes, BogusProof (meeting.lookup recordType)

theorem analyzeDnssec_bogus {target : NormalizedTarget} {meeting : DnssecMeeting}
    {ipv4Only ipv6Only : Bool} (h : BogusAnswer target meeting ipv4Only ipv6Only) :
    (analyzeDnssec platform target meeting ipv4Only ipv6Only).status = .bogus := by
  obtain ⟨⟨hip, hhostname⟩, ⟨hbuilder, hbuild⟩, queryTypes, htypes, recordType, hrecordType,
    hbogus⟩ := h
  obtain ⟨hostname, hhostname⟩ := Option.isSome_iff_exists.mp hhostname
  simp only [analyzeDnssec, hip, hhostname, htypes, hbuilder, hbuild, Option.isSome_none,
    Bool.false_eq_true, if_false]
  refine aggregateDnssecStatus_bogus_iff.mpr ?_
  rw [checkRrsets_statuses]
  exact List.mem_append_right _ (List.mem_map.mpr
    ⟨recordType, hrecordType, (dnssecRrset_bogus_iff hostname recordType _).mpr hbogus⟩)

/-- Nothing else makes an observation bogus. -/
theorem bogusAnswer_of_bogus {target : NormalizedTarget} {meeting : DnssecMeeting}
    {ipv4Only ipv6Only : Bool}
    (h : (analyzeDnssec platform target meeting ipv4Only ipv6Only).status = .bogus) :
    BogusAnswer target meeting ipv4Only ipv6Only := by
  unfold analyzeDnssec at h
  split at h
  · cases h
  · rename_i hip
    split at h
    · cases h
    · rename_i hostname hhostname
      split at h
      · cases h
      · rename_i queryTypes htypes
        split at h
        · cases h
        · cases h
        · rename_i hbuilder hbuild
          have hmem := aggregateDnssecStatus_bogus_iff.mp h
          rw [checkRrsets_statuses, List.map_nil, List.nil_append] at hmem
          obtain ⟨recordType, hrecordType, hbogus⟩ := List.mem_map.mp hmem
          exact ⟨⟨by simpa using hip, by simp [hhostname]⟩, ⟨hbuilder, hbuild⟩, queryTypes, htypes,
            recordType, hrecordType, (dnssecRrset_bogus_iff hostname recordType _).mp hbogus⟩

/-- What the aggregation of a list of statuses is. Lists with the same statuses are those that
permutations and repetitions lead to. -/
structure PrecedenceMaximum (statuses : List DnssecStatus) : Prop where
  greatest : (∃ status ∈ statuses, status ≠ .notApplicable) →
    IsGreatest {status | status ∈ statuses ∧ status ≠ .notApplicable}
      (aggregateDnssecStatus statuses)
  nothing : (∀ status ∈ statuses, status = .notApplicable) →
    aggregateDnssecStatus statuses = .indeterminate
  invariant : ∀ statuses', (∀ status, status ∈ statuses ↔ status ∈ statuses') →
    aggregateDnssecStatus statuses = aggregateDnssecStatus statuses'
  bogus : ∀ platform target meeting ipv4Only ipv6Only,
    (analyzeDnssec platform target meeting ipv4Only ipv6Only).status = .bogus ↔
      BogusAnswer target meeting ipv4Only ipv6Only

theorem aggregateDnssecStatus_maximum (statuses : List DnssecStatus) :
    PrecedenceMaximum statuses where
  greatest := by
    rintro ⟨status, hstatus, happlies⟩
    have hne : applicable statuses ≠ [] :=
      List.ne_nil_of_mem (mem_applicable.mpr ⟨hstatus, happlies⟩)
    obtain ⟨greatest, hgreatest⟩ :=
      WithBot.ne_bot_iff_exists.mp (List.maximum_ne_bot_of_ne_nil hne)
    rw [aggregateDnssecStatus_eq, ← hgreatest, WithBot.unbotD_coe]
    obtain ⟨hmem, hle⟩ := List.maximum_eq_coe_iff.mp hgreatest.symm
    exact ⟨mem_applicable.mp hmem, fun other hother => hle other (mem_applicable.mpr hother)⟩
  nothing := by
    intro hnone
    have hnil : applicable statuses = [] := List.eq_nil_iff_forall_not_mem.mpr
      fun status hmem => (mem_applicable.mp hmem).2 (hnone status (mem_applicable.mp hmem).1)
    rw [aggregateDnssecStatus_eq, hnil]
    rfl
  invariant _ := aggregateDnssecStatus_congr
  bogus _ _ _ _ _ := ⟨bogusAnswer_of_bogus, analyzeDnssec_bogus⟩

example : aggregateDnssecStatus [.secure, .notApplicable, .insecure] = .insecure := by rfl

end Surface

import Surface.Dns.Dangling
import Surface.Findings

/-!
# Surface.Dns.DanglingStatus

What the check of the alias chain asks, and what its statuses say.

* `danglingCnameLookup_ok`, `danglingLookups_asked`: the outcomes of the lookups for one hop.
* `DanglingRunOk`: the invariant of the check, which ties the classified hops to the queries sent.
* `danglingCnames_checked`: the whole check, and the findings made of an observation.
-/

namespace Surface

/-! ## Answers -/

/-- The library error is a denial with a response code, and its authority is authenticated. -/
def AuthenticatedDenial (code : ResponseCode) : NetError → Prop
  | .noRecordsFound responseCode authorities => responseCode = code ∧
    ∃ records, authorities = some records ∧ authenticatedNegativeAuthorities records = true
  | .nsec responseCode proof authorities => responseCode = code ∧ proof.validated = true ∧
    authenticatedNegativeAuthorities authorities = true
  | _ => False

namespace DanglingQuery

def ReturnedAddress (query : DanglingQuery) : Prop :=
  ∃ records, query.answer = .ready (.ok records) ∧
    ∃ record ∈ records, isSelectedAddress query.recordType record = true

def Denied (code : ResponseCode) (query : DanglingQuery) : Prop :=
  ∃ error, query.answer = .ready (.error error) ∧ AuthenticatedDenial code error

/-- The query asks for a destination, in whatever case. -/
def For (target : String) (query : DanglingQuery) : Prop :=
  query.target.toLower = target.toLower

/-- An outcome says of a query what it returned. -/
structure Tells (query : DanglingQuery) (outcome : DanglingQueryOutcome) : Prop where
  address : outcome = .address ↔ query.ReturnedAddress
  nxDomain : outcome = .nxDomain ↔ query.Denied .nxDomain
  noAddress : outcome = .noAddress ↔ query.Denied .noError

end DanglingQuery

/-- The outcome of a denial is read off its response code, if its authority is authenticated. -/
theorem danglingNegativeOutcome_eq (error : NetError) :
    (danglingNegativeOutcome error = some .nxDomain ↔ AuthenticatedDenial .nxDomain error) ∧
      (danglingNegativeOutcome error = some .noAddress ↔ AuthenticatedDenial .noError error) ∧
      danglingNegativeOutcome error ≠ some .address := by
  cases error with
  | noRecordsFound responseCode authorities =>
    simp only [danglingNegativeOutcome, AuthenticatedDenial, ← Option.any_eq_true]
    cases authorities.any authenticatedNegativeAuthorities <;> cases responseCode <;> simp
  | nsec responseCode proof authorities =>
    simp only [danglingNegativeOutcome, AuthenticatedDenial, ← Bool.and_eq_true]
    cases proof.validated && authenticatedNegativeAuthorities authorities <;>
      cases responseCode <;> simp
  | _ => simp [danglingNegativeOutcome, AuthenticatedDenial]

/-! ## Lookups -/

/-- The lookups for a hop leave everything but its evidence and errors. -/
structure SameHop (before after : DanglingCnameObservation) : Prop where
  sourceAlias : after.sourceAlias = before.sourceAlias
  canonicalTarget : after.canonicalTarget = before.canonicalTarget
  status : after.status = before.status
  limitations : after.limitations = before.limitations

theorem SameHop.trans {a b c : DanglingCnameObservation} (hab : SameHop a b) (hbc : SameHop b c) :
    SameHop a c :=
  ⟨hbc.1.trans hab.1, hbc.2.trans hab.2, hbc.3.trans hab.3, hbc.4.trans hab.4⟩

section Lookups

variable {recordType : RecordType} {meeting : WildcardMeeting}
  {observation after : DanglingCnameObservation}

theorem sameHop_refl (observation : DanglingCnameObservation) : SameHop observation observation :=
  ⟨rfl, rfl, rfl, rfl⟩

theorem sameHop_addEvidence (observation : DanglingCnameObservation) (message : String) :
    SameHop observation (observation.addEvidence message) := ⟨rfl, rfl, rfl, rfl⟩

theorem sameHop_addError (observation : DanglingCnameObservation) (message : String) :
    SameHop observation (observation.addError message) := ⟨rfl, rfl, rfl, rfl⟩

/-- A lookup that ends has asked, and its outcome tells what it was answered. -/
theorem danglingCnameLookup_ok {outcome : DanglingQueryOutcome}
    (h : danglingCnameLookup recordType meeting observation = (.ok outcome, after)) :
    SameHop observation after ∧ meeting.before.stops = false ∧
      ∀ target, DanglingQuery.Tells ⟨target, recordType, meeting.answer⟩ outcome := by
  unfold danglingCnameLookup at h
  cases hcancelled : meeting.before.cancelled with
  | true => simp [hcancelled] at h
  | false =>
    cases hexpired : meeting.before.expired with
    | true => simp [hcancelled, hexpired] at h
    | false =>
      have hstops : meeting.before.stops = false := by simp [Reading.stops, hcancelled, hexpired]
      simp only [hcancelled, hexpired, Bool.false_eq_true, if_false] at h
      generalize meeting.answer = answer at h
      cases answer with
      | cancelled => cases h
      | timedOut =>
        dsimp only at h
        split at h
        · cases h
        · cases h
          exact ⟨sameHop_addError _ _, hstops, fun target =>
            ⟨by simp [DanglingQuery.ReturnedAddress], by simp [DanglingQuery.Denied],
              by simp [DanglingQuery.Denied]⟩⟩
      | ready result =>
        cases result with
        | ok records =>
          dsimp only at h
          split at h
          · rename_i hany
            cases h
            exact ⟨sameHop_addEvidence _ _, hstops, fun target =>
              ⟨by simpa [DanglingQuery.ReturnedAddress] using hany, by simp [DanglingQuery.Denied],
                by simp [DanglingQuery.Denied]⟩⟩
          · rename_i hnone
            cases h
            exact ⟨sameHop_addError _ _, hstops, fun target =>
              ⟨by simpa [DanglingQuery.ReturnedAddress] using hnone,
                by simp [DanglingQuery.Denied], by simp [DanglingQuery.Denied]⟩⟩
        | error error =>
          obtain ⟨hnxDomain, hnoAddress, haddress⟩ := danglingNegativeOutcome_eq error
          dsimp only at h
          split at h
          · rename_i found hfound
            cases h
            rw [hfound] at hnxDomain hnoAddress haddress
            exact ⟨sameHop_addEvidence _ _, hstops, fun target =>
              ⟨by simpa [DanglingQuery.ReturnedAddress] using haddress,
                by simpa [DanglingQuery.Denied] using hnxDomain,
                by simpa [DanglingQuery.Denied] using hnoAddress⟩⟩
          · rename_i hnone
            cases h
            rw [hnone] at hnxDomain hnoAddress
            exact ⟨sameHop_addError _ _, hstops, fun target =>
              ⟨by simp [DanglingQuery.ReturnedAddress],
                by simpa [DanglingQuery.Denied] using hnxDomain,
                by simpa [DanglingQuery.Denied] using hnoAddress⟩⟩

theorem danglingCnameLookup_error {state : DanglingCnameCheckState}
    (h : danglingCnameLookup recordType meeting observation = (.error state, after)) :
    SameHop observation after ∧ state ≠ .completed := by
  unfold danglingCnameLookup at h
  split at h
  · cases h
    exact ⟨sameHop_refl _, nofun⟩
  · split at h
    · cases h
      exact ⟨sameHop_refl _, nofun⟩
    · split at h
      · cases h
        exact ⟨sameHop_refl _, nofun⟩
      · split at h
        · cases h
          exact ⟨sameHop_refl _, nofun⟩
        · cases h
      · split at h <;> cases h
      · split at h <;> cases h

/-- What the lookups for a hop ask: each type once and in order, up to where they are stopped. -/
structure Asked (recordTypes : List RecordType) (observation : DanglingCnameObservation)
    (lookups : DanglingLookups) : Prop where
  same : SameHop observation lookups.observation
  target : ∀ query ∈ lookups.queries, query.target = observation.canonicalTarget
  types : lookups.queries.map DanglingQuery.recordType <+: recordTypes
  ended : ∀ outcomes, lookups.result = .ok outcomes →
    lookups.queries.map DanglingQuery.recordType = recordTypes ∧
      List.Forall₂ DanglingQuery.Tells lookups.queries outcomes
  stopped : ∀ state, lookups.result = .error state → state ≠ .completed

theorem danglingLookups_asked (lookup : RecordType → WildcardMeeting)
    (recordTypes : List RecordType) (observation : DanglingCnameObservation) :
    Asked recordTypes observation (danglingLookups lookup recordTypes observation) := by
  induction recordTypes generalizing observation with
  | nil =>
    have hnone : danglingLookups lookup [] observation = ⟨.ok [], observation, []⟩ := rfl
    rw [hnone]
    exact ⟨sameHop_refl _, fun _ hquery => absurd hquery List.not_mem_nil, List.nil_prefix,
      fun _ h => by cases h; exact ⟨rfl, .nil⟩, fun _ h => by cases h⟩
  | cons recordType recordTypes ih =>
    unfold danglingLookups
    dsimp only
    have hquery : ∀ query ∈ sentQuery observation.canonicalTarget recordType (lookup recordType),
        query.target = observation.canonicalTarget := by
      intro query hquery
      unfold sentQuery at hquery
      split at hquery
      · cases hquery
      · rw [List.mem_singleton] at hquery
        rw [hquery]
    cases hlookup : danglingCnameLookup recordType (lookup recordType) observation with
    | mk result after =>
      cases result with
      | error state =>
        obtain ⟨hsame, hstate⟩ := danglingCnameLookup_error hlookup
        dsimp only
        refine ⟨hsame, hquery, ?_, nofun, fun other h => by cases h; exact hstate⟩
        unfold sentQuery
        split
        · exact List.nil_prefix
        · exact ⟨recordTypes, rfl⟩
      | ok outcome =>
        obtain ⟨hsame, hstops, htells⟩ := danglingCnameLookup_ok hlookup
        obtain ⟨hsame', htarget, htypes, hended, hstopped⟩ := ih after
        have hsent : sentQuery observation.canonicalTarget recordType (lookup recordType) =
            [⟨observation.canonicalTarget, recordType, (lookup recordType).answer⟩] := by
          rw [sentQuery, hstops]
          rfl
        dsimp only
        rw [hsent]
        refine ⟨hsame.trans hsame', ?_, ?_, ?_, ?_⟩
        · rintro query (_ | ⟨_, hquery⟩)
          · rfl
          · exact (htarget query hquery).trans hsame.canonicalTarget
        · exact List.cons_prefix_cons.mpr ⟨rfl, htypes⟩
        · intro outcomes houtcomes
          cases hresult : (danglingLookups lookup recordTypes after).result with
          | error state =>
            rw [hresult] at houtcomes
            cases houtcomes
          | ok rest =>
            rw [hresult] at houtcomes
            cases houtcomes
            obtain ⟨hall, hrest⟩ := hended rest hresult
            exact ⟨congrArg (recordType :: ·) hall, .cons (htells _) hrest⟩
        · intro state hstate
          cases hresult : (danglingLookups lookup recordTypes after).result with
          | error other =>
            rw [hresult] at hstate
            cases hstate
            exact hstopped _ hresult
          | ok rest =>
            rw [hresult] at hstate
            cases hstate

end Lookups

/-! ## The status of a hop -/

/-- The status says what the queries for the destination returned. -/
structure ClassifiedBy (queries : List DanglingQuery) (observation : DanglingCnameObservation) :
    Prop where
  resolved : observation.status = .resolved ↔ ∃ query ∈ queries,
    query.For observation.canonicalTarget ∧ query.ReturnedAddress
  nxDomain : observation.status = .nxDomain ↔
    (∃ query ∈ queries, query.For observation.canonicalTarget) ∧
      ∀ query ∈ queries, query.For observation.canonicalTarget → query.Denied .nxDomain
  noAddress : observation.status = .noAddress ↔
    (∃ query ∈ queries, query.For observation.canonicalTarget) ∧
      ∀ query ∈ queries, query.For observation.canonicalTarget → query.Denied .noError

theorem classify_eq (outcomes : List DanglingQueryOutcome) :
    (classifyDanglingOutcomes outcomes = .resolved ↔ .address ∈ outcomes) ∧
      (classifyDanglingOutcomes outcomes = .nxDomain ↔
        outcomes ≠ [] ∧ ∀ outcome ∈ outcomes, outcome = .nxDomain) ∧
      (classifyDanglingOutcomes outcomes = .noAddress ↔
        outcomes ≠ [] ∧ ∀ outcome ∈ outcomes, outcome = .noAddress) := by
  have hall (o : DanglingQueryOutcome) : (!outcomes.isEmpty && outcomes.all (· = o)) = true ↔
      outcomes ≠ [] ∧ ∀ outcome ∈ outcomes, outcome = o := by simp
  unfold classifyDanglingOutcomes
  simp only [hall]
  split
  · rename_i haddress
    refine ⟨iff_of_true rfl haddress, iff_of_false nofun fun h => ?_,
      iff_of_false nofun fun h => ?_⟩
    · cases h.2 _ haddress
    · cases h.2 _ haddress
  · rename_i haddress
    split
    · rename_i hnxDomain
      obtain ⟨first, hfirst⟩ := List.exists_mem_of_ne_nil _ hnxDomain.1
      refine ⟨iff_of_false nofun haddress, iff_of_true rfl hnxDomain,
        iff_of_false nofun fun h => ?_⟩
      cases (h.2 first hfirst).symm.trans (hnxDomain.2 first hfirst)
    · rename_i hnxDomain
      split
      · rename_i hnoAddress
        exact ⟨iff_of_false nofun haddress, iff_of_false nofun hnxDomain,
          iff_of_true rfl hnoAddress⟩
      · rename_i hnoAddress
        exact ⟨iff_of_false nofun haddress, iff_of_false nofun hnxDomain,
          iff_of_false nofun hnoAddress⟩

/-- The outcomes say together what their queries returned. -/
theorem forall₂_tells {queries : List DanglingQuery} {outcomes : List DanglingQueryOutcome}
    (h : List.Forall₂ DanglingQuery.Tells queries outcomes) :
    (.address ∈ outcomes ↔ ∃ query ∈ queries, query.ReturnedAddress) ∧
      ((∀ outcome ∈ outcomes, outcome = .nxDomain) ↔ ∀ query ∈ queries, query.Denied .nxDomain) ∧
      ((∀ outcome ∈ outcomes, outcome = .noAddress) ↔
        ∀ query ∈ queries, query.Denied .noError) := by
  induction h with
  | nil => simp
  | cons htells _ ih =>
    obtain ⟨haddress, hnxDomain, hnoAddress⟩ := ih
    rw [List.mem_cons, List.exists_mem_cons_iff, List.forall_mem_cons, List.forall_mem_cons,
      List.forall_mem_cons, List.forall_mem_cons]
    refine ⟨or_congr (eq_comm.trans htells.address) haddress,
      and_congr htells.nxDomain hnxDomain, and_congr htells.noAddress hnoAddress⟩

theorem classify_tells {queries : List DanglingQuery} {outcomes : List DanglingQueryOutcome}
    (h : List.Forall₂ DanglingQuery.Tells queries outcomes) :
    (classifyDanglingOutcomes outcomes = .resolved ↔
        ∃ query ∈ queries, query.ReturnedAddress) ∧
      (classifyDanglingOutcomes outcomes = .nxDomain ↔
        queries ≠ [] ∧ ∀ query ∈ queries, query.Denied .nxDomain) ∧
      (classifyDanglingOutcomes outcomes = .noAddress ↔
        queries ≠ [] ∧ ∀ query ∈ queries, query.Denied .noError) := by
  obtain ⟨hresolved, hnxDomain, hnoAddress⟩ := classify_eq outcomes
  obtain ⟨haddress, hdenied, hempty⟩ := forall₂_tells h
  have hnil : outcomes = [] ↔ queries = [] := by
    rw [← List.length_eq_zero_iff, ← List.length_eq_zero_iff, h.length_eq]
  rw [hresolved, hnxDomain, hnoAddress, haddress, hdenied, hempty, Ne, hnil]
  exact ⟨Iff.rfl, Iff.rfl, Iff.rfl⟩

/-- Only the queries for its own destination count for a hop. -/
theorem ClassifiedBy.congr {queries queries' : List DanglingQuery}
    {observation : DanglingCnameObservation}
    (hsame : ∀ query : DanglingQuery, query.For observation.canonicalTarget →
      (query ∈ queries ↔ query ∈ queries')) (h : ClassifiedBy queries observation) :
    ClassifiedBy queries' observation := by
  have hexists (P : DanglingQuery → Prop) :
      (∃ query ∈ queries, query.For observation.canonicalTarget ∧ P query) ↔
        ∃ query ∈ queries', query.For observation.canonicalTarget ∧ P query :=
    exists_congr fun query => ⟨fun ⟨hmem, hfor, hP⟩ => ⟨(hsame query hfor).mp hmem, hfor, hP⟩,
      fun ⟨hmem, hfor, hP⟩ => ⟨(hsame query hfor).mpr hmem, hfor, hP⟩⟩
  have hasked : (∃ query ∈ queries, query.For observation.canonicalTarget) ↔
      ∃ query ∈ queries', query.For observation.canonicalTarget := by
    simpa using hexists fun _ => True
  have hdenied (code : ResponseCode) : (∀ query ∈ queries,
      query.For observation.canonicalTarget → query.Denied code) ↔
        ∀ query ∈ queries', query.For observation.canonicalTarget → query.Denied code :=
    forall_congr' fun query => ⟨fun hall hmem hfor => hall ((hsame query hfor).mpr hmem) hfor,
      fun hall hmem hfor => hall ((hsame query hfor).mp hmem) hfor⟩
  exact ⟨h.resolved.trans (hexists _), h.nxDomain.trans (and_congr hasked (hdenied _)),
    h.noAddress.trans (and_congr hasked (hdenied _))⟩

theorem DanglingQuery.for_congr {target target' : String} (h : target.toLower = target'.toLower)
    (query : DanglingQuery) : query.For target ↔ query.For target' := by
  rw [DanglingQuery.For, DanglingQuery.For, h]

/-- A hop with the same destination and status. -/
theorem ClassifiedBy.copy {queries : List DanglingQuery}
    {observation other : DanglingCnameObservation} (h : ClassifiedBy queries observation)
    (htarget : observation.canonicalTarget.toLower = other.canonicalTarget.toLower)
    (hstatus : other.status = observation.status) : ClassifiedBy queries other := by
  have hfor := DanglingQuery.for_congr htarget
  constructor
  · simpa only [hfor, ← hstatus] using h.resolved
  · simpa only [hfor, ← hstatus] using h.nxDomain
  · simpa only [hfor, ← hstatus] using h.noAddress

/-- The status made of the lookups for a hop. -/
theorem classifiedBy_lookups {queries : List DanglingQuery} {outcomes : List DanglingQueryOutcome}
    {observation : DanglingCnameObservation}
    (hfor : ∀ query ∈ queries, query.For observation.canonicalTarget)
    (htells : List.Forall₂ DanglingQuery.Tells queries outcomes)
    (hstatus : observation.status = classifyDanglingOutcomes outcomes) :
    ClassifiedBy queries observation := by
  obtain ⟨hresolved, hnxDomain, hnoAddress⟩ := classify_tells htells
  have hasked : queries ≠ [] ↔ ∃ query ∈ queries, query.For observation.canonicalTarget := by
    constructor
    · intro hne
      obtain ⟨query, hquery⟩ := List.exists_mem_of_ne_nil _ hne
      exact ⟨query, hquery, hfor query hquery⟩
    · rintro ⟨query, hquery, _⟩
      exact List.ne_nil_of_mem hquery
  have hdenied (code : ResponseCode) : (∀ query ∈ queries, query.Denied code) ↔
      ∀ query ∈ queries, query.For observation.canonicalTarget → query.Denied code :=
    ⟨fun hall query hquery _ => hall query hquery,
      fun hall query hquery => hall query hquery (hfor query hquery)⟩
  rw [← hstatus] at hresolved hnxDomain hnoAddress
  refine ⟨hresolved.trans (exists_congr fun query => ?_),
    hnxDomain.trans (and_congr hasked (hdenied _)), hnoAddress.trans (and_congr hasked (hdenied _))⟩
  exact ⟨fun ⟨hmem, haddress⟩ => ⟨hmem, hfor query hmem, haddress⟩,
    fun ⟨hmem, _, haddress⟩ => ⟨hmem, haddress⟩⟩

/-! ## The run of the check -/

/-- The hops classified so far, the targets they are known by and the queries sent for them. -/
structure DanglingRunOk (queryTypes : List RecordType) (run : DanglingRun) : Prop where
  size_le : run.classifiedTargets.size ≤ run.observations.length
  known : ∀ target index, run.classifiedTargets.get target = some index →
    ∃ classified, run.observations[index]? = some classified ∧
      classified.canonicalTarget.toLower = target
  shared : ∀ observation ∈ run.observations, ∃ index classified,
    run.classifiedTargets.get observation.canonicalTarget.toLower = some index ∧
      run.observations[index]? = some classified ∧ observation.status = classified.status
  queried : ∀ query ∈ run.queries, run.classifiedTargets.get query.target.toLower ≠ none
  once : (run.queries.map fun query => (query.target.toLower, query.recordType)).Nodup
  classified : ∀ observation ∈ run.observations, ClassifiedBy run.queries observation
  complete : ∀ observation ∈ run.observations, ∀ recordType ∈ queryTypes, ∃ query ∈ run.queries,
    query.For observation.canonicalTarget ∧ query.recordType = recordType

theorem danglingRunOk_start (queryTypes : List RecordType) : DanglingRunOk queryTypes {} where
  size_le := Nat.le_refl _
  known := nofun
  shared _ hmem := absurd hmem List.not_mem_nil
  queried _ hmem := absurd hmem List.not_mem_nil
  once := .nil
  classified _ hmem := absurd hmem List.not_mem_nil
  complete _ hmem := absurd hmem List.not_mem_nil

section Run

variable {queryTypes : List RecordType} {run : DanglingRun}
  {observation : DanglingCnameObservation}

/-- A hop whose destination is known takes over its result. -/
theorem DanglingRunOk.copy (h : DanglingRunOk queryTypes run) {index : Nat}
    (hindex : run.classifiedTargets.get observation.canonicalTarget.toLower = some index) :
    DanglingRunOk queryTypes
      { run with
        observations := run.observations ++
          [observation.copyResult (run.observations.getD index observation)] } := by
  obtain ⟨classified, hclassified, htarget⟩ := h.known _ _ hindex
  have hmem : classified ∈ run.observations := List.mem_of_getElem? hclassified
  have hgetD : run.observations.getD index observation = classified := by
    rw [List.getD_eq_getElem?_getD, hclassified, Option.getD_some]
  have hkept {i : Nat} {other : DanglingCnameObservation}
      (hother : run.observations[i]? = some other) :
      (run.observations ++ [observation.copyResult classified])[i]? = some other := by
    rw [List.getElem?_append_left (List.getElem?_eq_some_iff.mp hother).1, hother]
  rw [hgetD]
  refine ⟨?_, fun target i hi => ?_, fun other hother => ?_, h.queried, h.once,
    fun other hother => ?_, fun other hother => ?_⟩
  · rw [List.length_append]
    exact h.size_le.trans (Nat.le_add_right _ _)
  · obtain ⟨found, hfound, hsame⟩ := h.known target i hi
    exact ⟨found, hkept hfound, hsame⟩
  all_goals rcases List.mem_append.mp hother with hother | hother
  · obtain ⟨i, found, hi, hfound, hstatus⟩ := h.shared other hother
    exact ⟨i, found, hi, hkept hfound, hstatus⟩
  · rw [List.mem_singleton] at hother
    subst hother
    exact ⟨index, classified, hindex, hkept hclassified, rfl⟩
  · exact h.classified other hother
  · rw [List.mem_singleton] at hother
    subst hother
    exact (h.classified classified hmem).copy htarget rfl
  · exact h.complete other hother
  · rw [List.mem_singleton] at hother
    subst hother
    intro recordType hrecordType
    obtain ⟨query, hquery, hfor, htype⟩ := h.complete classified hmem recordType hrecordType
    exact ⟨query, hquery, (DanglingQuery.for_congr htarget query).mp hfor, htype⟩

/-- The queries of the lookups for a new destination stay apart from those before. -/
theorem DanglingRunOk.once_append (h : DanglingRunOk queryTypes run) (htypes : queryTypes.Nodup)
    (hnew : run.classifiedTargets.get observation.canonicalTarget.toLower = none)
    {lookups : DanglingLookups} (hasked : Asked queryTypes observation lookups) :
    ((run.queries ++ lookups.queries).map fun query =>
      (query.target.toLower, query.recordType)).Nodup := by
  rw [List.map_append]
  refine List.nodup_append.mpr ⟨h.once, ?_, ?_⟩
  · refine List.Nodup.of_map Prod.snd ?_
    rw [List.map_map]
    exact htypes.sublist hasked.types.sublist
  · intro earlier hearlier later hlater heq
    obtain ⟨query, hquery, rfl⟩ := List.mem_map.mp hearlier
    obtain ⟨query', hquery', rfl⟩ := List.mem_map.mp hlater
    have htarget := congrArg Prod.fst heq
    dsimp only at htarget
    rw [hasked.target query' hquery'] at htarget
    exact h.queried query hquery (htarget ▸ hnew)

/-- They do not count for the hops before. -/
theorem DanglingRunOk.classified_append (h : DanglingRunOk queryTypes run)
    (hnew : run.classifiedTargets.get observation.canonicalTarget.toLower = none)
    {lookups : DanglingLookups} (hasked : Asked queryTypes observation lookups) :
    ∀ other ∈ run.observations, ClassifiedBy (run.queries ++ lookups.queries) other := by
  intro other hother
  refine (h.classified other hother).congr fun query hfor => ?_
  rw [List.mem_append]
  refine ⟨.inl, fun hquery => hquery.resolve_right fun hlater => ?_⟩
  obtain ⟨index, _, hindex, _⟩ := h.shared other hother
  rw [DanglingQuery.For, hasked.target query hlater] at hfor
  rw [← hfor, hnew] at hindex
  cases hindex

/-- A new destination is classified by its lookups. -/
theorem DanglingRunOk.add (h : DanglingRunOk queryTypes run) (htypes : queryTypes.Nodup)
    (hnew : run.classifiedTargets.get observation.canonicalTarget.toLower = none)
    {lookups : DanglingLookups} (hasked : Asked queryTypes observation lookups)
    {outcomes : List DanglingQueryOutcome} (houtcomes : lookups.result = .ok outcomes) :
    DanglingRunOk queryTypes
      { observations := run.observations ++
          [{ lookups.observation with status := classifyDanglingOutcomes outcomes }]
        classifiedTargets :=
          run.classifiedTargets.insert observation.canonicalTarget.toLower run.observations.length
        queries := run.queries ++ lookups.queries } := by
  obtain ⟨hall, htells⟩ := hasked.ended outcomes houtcomes
  generalize hadded : ({ lookups.observation with
    status := classifyDanglingOutcomes outcomes } : DanglingCnameObservation) = added
  have htarget : added.canonicalTarget = observation.canonicalTarget := by
    rw [← hadded]
    exact hasked.same.canonicalTarget
  have hfor : ∀ query ∈ lookups.queries, query.For added.canonicalTarget := by
    intro query hquery
    rw [DanglingQuery.For, hasked.target query hquery, htarget]
  have hknown : ∀ {target : String} {index : Nat},
      run.classifiedTargets.get target = some index →
      (run.classifiedTargets.insert observation.canonicalTarget.toLower
        run.observations.length).get target = some index := by
    intro target index hindex
    rw [OrdMap.get_insert, if_neg, hindex]
    rintro rfl
    rw [hnew] at hindex
    cases hindex
  have hkept {i : Nat} {other : DanglingCnameObservation}
      (hother : run.observations[i]? = some other) :
      (run.observations ++ [added])[i]? = some other := by
    rw [List.getElem?_append_left (List.getElem?_eq_some_iff.mp hother).1, hother]
  have hlast : (run.observations ++ [added])[run.observations.length]? = some added := by simp
  refine ⟨?_, fun target index hindex => ?_, fun other hother => ?_, fun query hquery => ?_,
    h.once_append htypes hnew hasked, fun other hother => ?_, fun other hother => ?_⟩
  · rw [List.length_append]
    exact (OrdMap.size_insert_le _ _ _).trans (Nat.add_le_add_right h.size_le 1)
  · rw [OrdMap.get_insert] at hindex
    split at hindex
    · rename_i hsame
      cases hindex
      exact ⟨added, hlast, by rw [htarget, hsame]⟩
    · obtain ⟨found, hfound, hsame⟩ := h.known target index hindex
      exact ⟨found, hkept hfound, hsame⟩
  · rcases List.mem_append.mp hother with hother | hother
    · obtain ⟨index, found, hindex, hfound, hstatus⟩ := h.shared other hother
      exact ⟨index, found, hknown hindex, hkept hfound, hstatus⟩
    · rw [List.mem_singleton] at hother
      subst hother
      exact ⟨_, other, by rw [htarget, OrdMap.get_insert, if_pos rfl], hlast, rfl⟩
  · rw [OrdMap.get_insert]
    split
    · nofun
    · rename_i hother
      rcases List.mem_append.mp hquery with hquery | hquery
      · exact h.queried query hquery
      · exact absurd (congrArg String.toLower (hasked.target query hquery)) hother
  · rcases List.mem_append.mp hother with hother | hother
    · exact h.classified_append hnew hasked other hother
    · rw [List.mem_singleton] at hother
      subst hother
      refine (classifiedBy_lookups hfor htells (by rw [← hadded])).congr fun query hquery => ?_
      rw [List.mem_append]
      refine ⟨.inr, fun hmem => hmem.resolve_left fun hearlier => ?_⟩
      rw [DanglingQuery.For, htarget] at hquery
      exact h.queried query hearlier (hquery ▸ hnew)
  · rcases List.mem_append.mp hother with hother | hother
    · intro recordType hrecordType
      obtain ⟨query, hquery, hfound⟩ := h.complete other hother recordType hrecordType
      exact ⟨query, List.mem_append_left _ hquery, hfound⟩
    · rw [List.mem_singleton] at hother
      subst hother
      intro recordType hrecordType
      rw [← hall] at hrecordType
      obtain ⟨query, hquery, htype⟩ := List.mem_map.mp hrecordType
      exact ⟨query, List.mem_append_right _ hquery, hfor query hquery, htype⟩

end Run

/-! ## The whole check -/

def DanglingCnameObservation.hop (observation : DanglingCnameObservation) : CnameHop :=
  ⟨observation.sourceAlias, observation.canonicalTarget⟩

/-- How a check ends: `checked` are the hops it classified, `stopped` those it did not come to. -/
structure DanglingEnds (queryTypes : List RecordType)
    (checked stopped : List DanglingCnameObservation)
    (result : DanglingCnameCheck × List DanglingQuery) : Prop where
  observations : result.1.observations = checked ++ stopped
  completed : result.1.state = .completed ↔ stopped = []
  once : (result.2.map fun query => (query.target.toLower, query.recordType)).Nodup
  classified : ∀ observation ∈ checked, ClassifiedBy result.2 observation
  complete : ∀ observation ∈ checked, ∀ recordType ∈ queryTypes, ∃ query ∈ result.2,
    query.For observation.canonicalTarget ∧ query.recordType = recordType
  shared : ∀ observation ∈ checked, ∀ other ∈ checked,
    observation.canonicalTarget.toLower = other.canonicalTarget.toLower →
      observation.status = other.status
  stopped : ∀ observation ∈ stopped, observation.status = .indeterminate ∧
    stopMessage result.1.state ∈ observation.limitations

theorem mem_pushDanglingMessage {messages : List String} {message : String}
    (hroom : messages.length < maxDanglingCnameMessages)
    (hshort : message.length ≤ maxDanglingCnameMessageChars) :
    message ∈ pushDanglingMessage messages message := by
  have hwhole : String.ofList (message.toList.take maxDanglingCnameMessageChars) = message := by
    rw [List.take_of_length_le (by rwa [String.length_toList]), String.ofList_toList]
  rw [pushDanglingMessage, if_neg (by omega)]
  dsimp only
  rw [hwhole]
  split
  · assumption
  · exact List.mem_append_right _ (List.mem_singleton_self message)

/-- A hop of the chain that was not asked for yet. -/
structure Unasked (observation : DanglingCnameObservation) : Prop where
  status : observation.status = .indeterminate
  room : observation.limitations.length < maxDanglingCnameMessages

theorem Unasked.stop {observation : DanglingCnameObservation} (h : Unasked observation)
    (state : DanglingCnameCheckState) :
    (observation.addLimitation (stopMessage state)).status = .indeterminate ∧
      stopMessage state ∈ (observation.addLimitation (stopMessage state)).limitations :=
  ⟨h.status, mem_pushDanglingMessage h.room (by cases state <;> decide)⟩

theorem Unasked.same {observation after : DanglingCnameObservation} (h : Unasked observation)
    (hsame : SameHop observation after) : Unasked after :=
  ⟨hsame.status.trans h.status, by rw [hsame.limitations]; exact h.room⟩

section Check

variable {queryTypes : List RecordType} {run : DanglingRun}
  {rest : List DanglingCnameObservation}

theorem DanglingRunOk.shared_status (h : DanglingRunOk queryTypes run)
    {observation other : DanglingCnameObservation} (hmem : observation ∈ run.observations)
    (hother : other ∈ run.observations)
    (htarget : observation.canonicalTarget.toLower = other.canonicalTarget.toLower) :
    observation.status = other.status := by
  obtain ⟨index, classified, hindex, hclassified, hstatus⟩ := h.shared observation hmem
  obtain ⟨index', classified', hindex', hclassified', hstatus'⟩ := h.shared other hother
  rw [htarget, hindex'] at hindex
  cases hindex
  rw [hclassified'] at hclassified
  cases hclassified
  rw [hstatus, hstatus']

/-- A lookup that stops the check leaves the hops before and marks the others. -/
theorem DanglingRunOk.stop (h : DanglingRunOk queryTypes run) (htypes : queryTypes.Nodup)
    {observation : DanglingCnameObservation}
    (hunasked : ∀ other ∈ observation :: rest, Unasked other)
    (hnew : run.classifiedTargets.get observation.canonicalTarget.toLower = none)
    {lookups : DanglingLookups} (hasked : Asked queryTypes observation lookups)
    {state : DanglingCnameCheckState} (hstate : lookups.result = .error state) :
    DanglingEnds queryTypes run.observations
      ((lookups.observation :: rest).map (·.addLimitation (stopMessage state)))
      (⟨run.observations ++ (lookups.observation :: rest).map
        (·.addLimitation (stopMessage state)), state⟩, run.queries ++ lookups.queries) := by
  obtain ⟨hfirst, hrest⟩ := List.forall_mem_cons.mp hunasked
  refine ⟨rfl, iff_of_false (hasked.stopped state hstate) nofun, h.once_append htypes hnew hasked,
    h.classified_append hnew hasked, fun other hother recordType hrecordType => ?_,
    fun _ hmem _ hother => h.shared_status hmem hother, ?_⟩
  · obtain ⟨query, hquery, hfound⟩ := h.complete other hother recordType hrecordType
    exact ⟨query, List.mem_append_left _ hquery, hfound⟩
  · intro other hother
    obtain ⟨before, hbefore, rfl⟩ := List.mem_map.mp hother
    rcases List.mem_cons.mp hbefore with rfl | hbefore
    · exact (hfirst.same hasked.same).stop state
    · exact (hrest before hbefore).stop state

/-- The check ends with the hops it came to classified, and these are as the check of them alone
leaves them. -/
theorem checkTargets_ends (lookup : Nat → RecordType → WildcardMeeting)
    (h : DanglingRunOk queryTypes run) (htypes : queryTypes.Nodup)
    (hlength : run.observations.length + rest.length ≤ maxCnameChainHops)
    (hunasked : ∀ observation ∈ rest, Unasked observation) :
    ∃ checked stopped, DanglingEnds queryTypes checked stopped
        (checkTargets queryTypes lookup rest run) ∧
      (checked ++ stopped).map DanglingCnameObservation.hop =
        (run.observations ++ rest).map DanglingCnameObservation.hop ∧
      ∃ hops, run.observations.length + hops = checked.length ∧
        ∃ queries, checkTargets queryTypes lookup (rest.take hops) run =
          (⟨checked, .completed⟩, queries) := by
  induction rest generalizing run with
  | nil =>
    refine ⟨run.observations, [], ⟨(List.append_nil _).symm, iff_of_true rfl rfl, h.once,
      h.classified, h.complete, fun _ hmem _ hother => h.shared_status hmem hother, nofun⟩, rfl,
      0, rfl, run.queries, rfl⟩
  | cons observation rest ih =>
    rw [List.length_cons] at hlength
    obtain ⟨hfirst, hrest⟩ := List.forall_mem_cons.mp hunasked
    cases hknown : run.classifiedTargets.get observation.canonicalTarget.toLower with
    | some index =>
      obtain ⟨checked, stopped, hends, hhops, hops, hcount, queries, halone⟩ :=
        ih (h.copy hknown) (by simp only [List.length_append, List.length_singleton]; omega) hrest
      refine ⟨checked, stopped, ?_, ?_, hops + 1, ?_, queries, ?_⟩
      · simpa only [checkTargets, hknown] using hends
      · rw [hhops]
        simp [DanglingCnameObservation.hop, DanglingCnameObservation.copyResult]
      · rw [← hcount, List.length_append, List.length_singleton]
        omega
      · simpa only [List.take_succ_cons, checkTargets, hknown] using halone
    | none =>
      -- there are more hops than unique targets, so that the limit on these is not met
      have hunder : ¬ run.classifiedTargets.size ≥ maxCnameChainHops := by
        have := h.size_le
        omega
      have hasked := danglingLookups_asked (lookup run.observations.length) queryTypes observation
      cases hresult : (danglingLookups (lookup run.observations.length) queryTypes
          observation).result with
      | error state =>
        have hends := h.stop htypes hunasked hknown hasked hresult
        refine ⟨_, _, by simpa only [checkTargets, hknown, hunder, if_false, hresult] using hends,
          ?_, 0, rfl, run.queries, rfl⟩
        simp [DanglingCnameObservation.hop, DanglingCnameObservation.addLimitation,
          hasked.same.canonicalTarget, hasked.same.sourceAlias]
      | ok outcomes =>
        obtain ⟨checked, stopped, hends, hhops, hops, hcount, queries, halone⟩ :=
          ih (h.add htypes hknown hasked hresult)
            (by simp only [List.length_append, List.length_singleton]; omega) hrest
        refine ⟨checked, stopped, ?_, ?_, hops + 1, ?_, queries, ?_⟩
        · simpa only [checkTargets, hknown, hunder, if_false, hresult] using hends
        · rw [hhops]
          simp [DanglingCnameObservation.hop, hasked.same.canonicalTarget, hasked.same.sourceAlias]
        · rw [← hcount, List.length_append, List.length_singleton]
          omega
        · simpa only [List.take_succ_cons, checkTargets, hknown, hunder, if_false, hresult]
            using halone

end Check

/-- The types asked for: none, where the resolver cannot be had. -/
def DanglingMeeting.queryTypes (meeting : DanglingMeeting) (ipv4Only ipv6Only : Bool) :
    List RecordType :=
  if meeting.initialized && meeting.built then (danglingQueryTypes ipv4Only ipv6Only).getD []
  else []

/-- Hops that are all left unclassified, without a query. -/
theorem danglingEnds_unasked {queryTypes : List RecordType}
    {observations : List DanglingCnameObservation}
    (hnone : observations = [] ∨ queryTypes = [])
    (h : ∀ observation ∈ observations, observation.status = .indeterminate) :
    DanglingEnds queryTypes observations [] (⟨observations, .completed⟩, []) := by
  refine ⟨(List.append_nil _).symm, iff_of_true rfl rfl, .nil, fun observation hmem => ?_,
    fun observation hmem recordType htype => ?_,
    fun observation hmem other hother _ => (h observation hmem).trans (h other hother).symm, nofun⟩
  · constructor <;> simp [h observation hmem]
  · rcases hnone with rfl | rfl
    · cases hmem
    · cases htype

theorem danglingCnameObservation_unasked (hop : CnameHop) :
    Unasked (danglingCnameObservation hop) :=
  ⟨rfl, show 2 < maxDanglingCnameMessages by decide⟩

theorem danglingQueryTypes_nodup (ipv4Only ipv6Only : Bool) {queryTypes : List RecordType}
    (h : danglingQueryTypes ipv4Only ipv6Only = some queryTypes) : queryTypes.Nodup := by
  cases ipv4Only <;> cases ipv6Only <;> cases h <;> decide

/-- The check of a chain, whatever it meets. -/
theorem analyzeDanglingCnames_ends (cnameChain : List CnameHop) (meeting : DanglingMeeting)
    (ipv4Only ipv6Only : Bool) :
    ∃ checked stopped,
      DanglingEnds (meeting.queryTypes ipv4Only ipv6Only) checked stopped
        (analyzeDanglingCnames cnameChain meeting ipv4Only ipv6Only) ∧
      (checked ++ stopped).map DanglingCnameObservation.hop = cnameChain.take maxCnameChainHops ∧
      ∃ queries, analyzeDanglingCnames (cnameChain.take checked.length) meeting ipv4Only ipv6Only =
        (⟨checked, .completed⟩, queries) := by
  have hswap (hops : Nat) : (cnameChain.take hops).take maxCnameChainHops =
      (cnameChain.take maxCnameChainHops).take hops := by
    rw [List.take_take, List.take_take, Nat.min_comm]
  have hlength : (cnameChain.take maxCnameChainHops).length ≤ maxCnameChainHops :=
    List.length_take_le _ _
  unfold analyzeDanglingCnames
  simp only [hswap]
  generalize cnameChain.take maxCnameChainHops = chain at hlength
  -- where nothing is asked, all hops get the same message
  have hunasked (change : DanglingCnameObservation → DanglingCnameObservation)
      (hchange : ∀ hop, (change (danglingCnameObservation hop)).status = .indeterminate ∧
        (change (danglingCnameObservation hop)).hop = hop)
      (htypes : meeting.queryTypes ipv4Only ipv6Only = []) :
      DanglingEnds (meeting.queryTypes ipv4Only ipv6Only)
          ((chain.map danglingCnameObservation).map change) []
          (⟨(chain.map danglingCnameObservation).map change, .completed⟩, []) ∧
        ((chain.map danglingCnameObservation).map change ++ []).map
          DanglingCnameObservation.hop = chain ∧
        chain.take ((chain.map danglingCnameObservation).map change).length = chain := by
    refine ⟨danglingEnds_unasked (.inr htypes) ?_, ?_, ?_⟩
    · simp only [List.map_map, List.forall_mem_map, Function.comp_apply]
      exact fun hop _ => (hchange hop).1
    · rw [List.append_nil, List.map_map, List.map_map]
      exact (List.map_congr_left fun hop _ => (hchange hop).2).trans (List.map_id chain)
    · rw [List.length_map, List.length_map, List.take_length]
  by_cases hempty : (chain.map danglingCnameObservation).isEmpty = true
  · rw [List.isEmpty_iff, List.map_eq_nil_iff] at hempty
    subst hempty
    exact ⟨[], [], danglingEnds_unasked (.inl rfl) nofun, rfl, [], rfl⟩
  · rw [if_neg hempty]
    cases htypes : danglingQueryTypes ipv4Only ipv6Only with
    | none =>
      obtain ⟨hends, hhops, htake⟩ := hunasked
        (·.addLimitation "No address record type was selected.") (fun _ => ⟨rfl, rfl⟩)
        (by simp [DanglingMeeting.queryTypes, htypes])
      exact ⟨_, [], hends, hhops, [], by rw [htake, if_neg hempty]⟩
    | some queryTypes =>
      dsimp only
      cases hinitialized : meeting.initialized with
      | false =>
        obtain ⟨hends, hhops, htake⟩ := hunasked
          (·.addError "Could not initialize the CNAME destination resolver.")
          (fun _ => ⟨rfl, rfl⟩) (by simp [DanglingMeeting.queryTypes, hinitialized])
        exact ⟨_, [], hends, hhops, [], by rw [htake, if_neg hempty]; rfl⟩
      | true =>
        cases hbuilt : meeting.built with
        | false =>
          obtain ⟨hends, hhops, htake⟩ := hunasked
            (·.addError "Could not build the CNAME destination resolver.")
            (fun _ => ⟨rfl, rfl⟩) (by simp [DanglingMeeting.queryTypes, hbuilt])
          exact ⟨_, [], hends, hhops, [], by rw [htake, if_neg hempty]; rfl⟩
        | true =>
          have hselected : meeting.queryTypes ipv4Only ipv6Only = queryTypes := by
            simp [DanglingMeeting.queryTypes, hinitialized, hbuilt, htypes]
          obtain ⟨checked, stopped, hends, hhops, hops, hcount, queries, halone⟩ :=
            checkTargets_ends meeting.lookup (danglingRunOk_start queryTypes)
              (danglingQueryTypes_nodup _ _ htypes)
              (by rw [List.length_map]; exact (Nat.zero_add _).trans_le hlength)
              (List.forall_mem_map.mpr fun hop _ => danglingCnameObservation_unasked hop)
          rw [hselected]
          refine ⟨checked, stopped, hends, ?_, ?_⟩
          · rw [hhops, List.nil_append, List.map_map]
            exact List.map_id chain
          · rw [← hcount, List.length_nil, Nat.zero_add]
            cases hops with
            | zero =>
              obtain rfl := List.eq_nil_of_length_eq_zero hcount.symm
              exact ⟨[], rfl⟩
            | succ hops =>
              rw [if_neg (by simpa using hempty), List.map_take]
              exact ⟨queries, halone⟩

/-! ## Findings -/

/-- The destination was observed not to exist, at a hop of the chain. -/
def NxDomainObserved (dns : DnsObservation) (target : String) : Prop :=
  ∃ observation ∈ dns.danglingCnames, observation.status = .nxDomain ∧
    observation.canonicalTarget.toLower = target.toLower ∧
    ∃ hop ∈ dns.cnameChain, hop.source.toLower = observation.sourceAlias.toLower ∧
      hop.destination.toLower = observation.canonicalTarget.toLower

theorem directlyObservedNxdomain_iff (dns : DnsObservation) (hop : CnameHop) :
    directlyObservedNxdomain dns hop = true ↔ NxDomainObserved dns hop.destination := by
  simp [directlyObservedNxdomain, NxDomainObserved, and_assoc]

def danglingFinding (target : String) (hop : CnameHop) : Finding :=
  FindingRule.danglingCname.finding target "Primary CNAME chain"
    (hop.source ++ " -> " ++ hop.destination ++ "; status=NXDOMAIN")

/-- The findings are those of some hops, one for each destination. -/
theorem danglingFrom_reported (target : String) (dns : DnsObservation) (hops : List CnameHop)
    (reportedTargets : OrdSet String) :
    ∃ reported : List CnameHop, reported.Sublist hops ∧
      danglingFrom target dns reportedTargets hops = reported.map (danglingFinding target) ∧
      (reported.map (·.destination.toLower)).Nodup ∧
      ∀ hop ∈ reported, NxDomainObserved dns hop.destination ∧
        hop.destination.toLower ∉ reportedTargets := by
  induction hops generalizing reportedTargets with
  | nil => exact ⟨[], .slnil, rfl, .nil, nofun⟩
  | cons hop hops ih =>
    unfold danglingFrom
    split
    · obtain ⟨reported, hsub, heq, honce, hobserved⟩ := ih reportedTargets
      exact ⟨reported, hsub.cons _, heq, honce, hobserved⟩
    · rename_i hreport
      simp only [Bool.or_eq_true, Bool.not_eq_true', decide_eq_true_eq, not_or,
        Bool.not_eq_false, directlyObservedNxdomain_iff] at hreport
      obtain ⟨reported, hsub, heq, honce, hobserved⟩ :=
        ih (reportedTargets.insert hop.destination.toLower)
      refine ⟨hop :: reported, hsub.cons_cons _, congrArg (danglingFinding target hop :: ·) heq,
        ?_, ?_⟩
      · refine List.nodup_cons.mpr ⟨fun hmem => ?_, honce⟩
        obtain ⟨other, hother, hsame⟩ := List.mem_map.mp hmem
        exact (hobserved other hother).2 (OrdSet.mem_insert.mpr (.inl hsame))
      · rintro other (_ | ⟨_, hother⟩)
        · exact hreport
        · obtain ⟨hnx, hnot⟩ := hobserved other hother
          exact ⟨hnx, fun hmem => hnot (OrdSet.mem_insert.mpr (.inr hmem))⟩

/-- At most sixteen hops are looked at, in the order of the chain. No destination is asked for a
type twice, and every classified hop says what its queries returned; a stop leaves those and marks
the others. A finding stands for a destination that was observed not to exist, once. -/
theorem danglingCnames_checked (cnameChain : List CnameHop) (meeting : DanglingMeeting)
    (ipv4Only ipv6Only : Bool) (dns : DnsObservation) (target : String) :
    (∃ checked stopped,
      DanglingEnds (meeting.queryTypes ipv4Only ipv6Only) checked stopped
        (analyzeDanglingCnames cnameChain meeting ipv4Only ipv6Only) ∧
      (checked ++ stopped).map DanglingCnameObservation.hop = cnameChain.take 16 ∧
      ∃ queries, analyzeDanglingCnames (cnameChain.take checked.length) meeting ipv4Only ipv6Only =
        (⟨checked, .completed⟩, queries)) ∧
    ∃ reported : List CnameHop, reported.Sublist dns.cnameChain ∧
      danglingCnameFindings target dns = reported.map (danglingFinding target) ∧
      (reported.map (·.destination.toLower)).Nodup ∧
      ∀ hop ∈ reported, NxDomainObserved dns hop.destination := by
  refine ⟨analyzeDanglingCnames_ends cnameChain meeting ipv4Only ipv6Only, ?_⟩
  obtain ⟨reported, hsub, heq, honce, hobserved⟩ :=
    danglingFrom_reported target dns dns.cnameChain .empty
  exact ⟨reported, hsub, heq, honce, fun hop hhop => (hobserved hop hhop).1⟩

end Surface

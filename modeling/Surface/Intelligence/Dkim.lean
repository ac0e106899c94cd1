import Surface.Dns.Baseline
import Surface.Hex
import Surface.Intelligence.Supplied

/-!
# Surface.Intelligence.Dkim

The keys of the supplied DKIM selectors, from the query to the observation.

* `lookupTxt`: the text values of a name; a query that fails gives none, as if there were none.
* `parseDkim`: the tags of the first record.
* `analyzeIntelligence_complete`: when a collection is complete.
* `analyzeIntelligence_failures`: a failed query is reported unless everything else goes well.
-/

namespace Surface

/-- What a lookup of text values meets: the resolver, and one query under the timeout. -/
structure TxtMeeting where
  initialized : Except String Unit
  built : Except String Unit
  answer : LookupResult

structure DkimQuery where
  selector : String
  before : Reading
  lookup : Awaited TxtMeeting

def parseDkim (sha256 : List UInt8 → List UInt8) (selector : String) (records : List String) :
    DkimObservation :=
  let joined := records.headD ""
  let tags : OrdMap String String := .ofList <| (joined.toList.splitOn ';').filterMap fun part =>
    (splitOnce '=' (trimSpaces part)).map fun tag => (String.ofList tag.1, String.ofList tag.2)
  let key := tags.get "p"
  { selector := selector
    records := records.length
    version := tags.get "v"
    keyType := tags.get "k"
    publicKeyFingerprint :=
      (key.filter (· ≠ "")).map fun value => "sha256:" ++ hex (sha256 (utf8Bytes value))
    revoked := decide (key = some "")
    malformed := decide (1 < records.length) ||
      (decide (joined ≠ "") && (decide (tags.get "v" ≠ some "DKIM1") || key.isNone)) }

section Query

variable (platform : Platform)

def lookupTxt (meeting : TxtMeeting) : Except String (List String) :=
  match meeting.initialized, meeting.built with
  | .error error, _ => .error ("could not initialize system DNS resolver: " ++ error)
  | .ok _, .error error => .error ("could not build system DNS resolver: " ++ error)
  | .ok _, .ok _ => .ok (lookupTxtValues platform meeting.answer)

def DkimQuery.supplied (query : DkimQuery) : SuppliedSelector where
  selector := query.selector
  before := query.before
  lookup :=
    match query.lookup with
    | .cancelled => .cancelled
    | .timedOut => .timedOut
    | .ready meeting => .ready (lookupTxt platform meeting)

/-- The query has an answer, if only that there is no such record. -/
def Answered (result : LookupResult) : Prop :=
  ∃ answer, result = some answer ∧ ∀ error, answer = .error error →
    platform.isNoRecordsFound error = true ∨ platform.isNxDomain error = true

/-- The resolver is there to be asked. -/
def DkimQuery.Asked (query : DkimQuery) (meeting : TxtMeeting) : Prop :=
  query.lookup = .ready meeting ∧ meeting.initialized = .ok () ∧ meeting.built = .ok ()

/-- The lookup of a selector failed or ran out of time. -/
def DkimQuery.Failed (query : DkimQuery) : Prop :=
  ¬∃ meeting, query.Asked meeting ∧ Answered platform meeting.answer

end Query

/-! ## Complete collections -/

section Complete

variable (normalizeTarget : String → Option NormalizedTarget)
  (parse : String → List String → DkimObservation)

/-- Every child domain is accepted, and analyzed before the collection is stopped. -/
def SubdomainsComplete (primary : String) : List SuppliedSubdomain → OrdSet String → Prop
  | [], _ => True
  | supplied :: rest, names => supplied.before.stops = false ∧
      ∃ name dns, subdomainName normalizeTarget primary names supplied.input = .ok name ∧
        supplied.analysis = .ready (.ok dns) ∧ SubdomainsComplete primary rest (names.insert name)

/-- Every selector is one, and looked up before the collection is stopped. -/
def SelectorsComplete (selectors : List SuppliedSelector) : Prop :=
  ∀ supplied ∈ selectors, supplied.before.stops = false ∧
    validSelector supplied.selector = true ∧ ∃ records, supplied.lookup = .ready (.ok records)

variable {normalizeTarget parse}

theorem addSubdomain_complete {observation : IntelligenceObservation} {name : String}
    {result : Except String DnsObservation} :
    (observation.addSubdomain name result).complete = true ↔
      observation.complete = true ∧ ∃ dns, result = .ok dns := by
  cases result with
  | ok dns => exact (and_iff_left ⟨dns, rfl⟩).symm
  | error error =>
    refine iff_of_false Bool.false_ne_true ?_
    rintro ⟨-, _, ⟨⟩⟩

theorem addDkim_complete {observation : IntelligenceObservation} {selector : String}
    {result : Except String (List String)} :
    (observation.addDkim parse selector result).complete = true ↔
      observation.complete = true ∧ ∃ records, result = .ok records := by
  cases result with
  | ok records => exact (and_iff_left ⟨records, rfl⟩).symm
  | error error =>
    refine iff_of_false Bool.false_ne_true ?_
    rintro ⟨-, _, ⟨⟩⟩

/-- A collection that is stopped is not complete. -/
theorem not_complete_of_stopped {observation : IntelligenceObservation} {reason : String}
    {p : Prop} (h : ¬p) :
    (∃ result, (.ok (observation.recordStop reason) : Except String IntelligenceObservation) =
      .ok result ∧ result.complete = true) ↔ p := by
  refine iff_of_false ?_ h
  rintro ⟨result, hresult, hcomplete⟩
  cases hresult
  cases hcomplete

/-- A round of either collection starts with the same two readings. -/
theorem round_complete {reading : Reading} {observation : IntelligenceObservation}
    {next : Except String IntelligenceObservation} {p : Prop}
    (h : (∃ result, next = .ok result ∧ result.complete = true) ↔ observation.complete = true ∧ p) :
    (∃ result,
        (if reading.cancelled = true then .ok (observation.recordStop intelligenceCancelled)
          else if reading.expired = true then .ok (observation.recordStop intelligenceElapsed)
          else next) = .ok result ∧ result.complete = true) ↔
      observation.complete = true ∧ reading.stops = false ∧ p := by
  by_cases hcancelled : reading.cancelled = true
  · rw [if_pos hcancelled]
    exact not_complete_of_stopped fun hstops => by simp [Reading.stops, hcancelled] at hstops
  · rw [if_neg hcancelled]
    by_cases hexpired : reading.expired = true
    · rw [if_pos hexpired]
      exact not_complete_of_stopped fun hstops => by simp [Reading.stops, hexpired] at hstops
    · have hstops : reading.stops = false := by simp [Reading.stops, hcancelled, hexpired]
      rw [if_neg hexpired, and_iff_right hstops]
      exact h

theorem collectSubdomains_complete {primary : String} {subdomains : List SuppliedSubdomain} :
    ∀ {names : OrdSet String} {observation : IntelligenceObservation},
      (∃ result, collectSubdomains normalizeTarget primary subdomains names observation =
          .ok result ∧ result.complete = true) ↔
        observation.complete = true ∧
          SubdomainsComplete normalizeTarget primary subdomains names := by
  induction subdomains with
  | nil =>
    intro names observation
    simp [collectSubdomains, SubdomainsComplete]
  | cons supplied rest ih =>
    intro names observation
    rw [collectSubdomains, SubdomainsComplete]
    refine round_complete ?_
    rcases hname : subdomainName normalizeTarget primary names supplied.input with _ | name
    · refine iff_of_false ?_ ?_
      · rintro ⟨_, ⟨⟩, -⟩
      · rintro ⟨-, _, _, ⟨⟩, -⟩
    · rcases hanalysis : supplied.analysis with _ | _ | result
      · refine not_complete_of_stopped ?_
        rintro ⟨-, _, _, -, ⟨⟩, -⟩
      · refine not_complete_of_stopped ?_
        rintro ⟨-, _, _, -, ⟨⟩, -⟩
      · simp only [ih, addSubdomain_complete]
        constructor
        · rintro ⟨⟨hcomplete, dns, rfl⟩, hrest⟩
          exact ⟨hcomplete, name, dns, rfl, rfl, hrest⟩
        · rintro ⟨hcomplete, _, dns, hname', hresult, hrest⟩
          cases hname'
          cases hresult
          exact ⟨⟨hcomplete, dns, rfl⟩, hrest⟩

theorem collectSelectors_complete {selectors : List SuppliedSelector} :
    ∀ {observation : IntelligenceObservation},
      (∃ result, collectSelectors parse selectors observation = .ok result ∧
          result.complete = true) ↔
        observation.complete = true ∧ SelectorsComplete selectors := by
  induction selectors with
  | nil =>
    intro observation
    simp [collectSelectors, SelectorsComplete]
  | cons supplied rest ih =>
    intro observation
    rw [collectSelectors, SelectorsComplete, List.forall_mem_cons, and_assoc]
    refine round_complete ?_
    by_cases hvalid : validSelector supplied.selector = false
    · rw [if_pos hvalid, hvalid]
      refine iff_of_false ?_ ?_
      · rintro ⟨_, ⟨⟩, -⟩
      · rintro ⟨-, ⟨⟨⟩, -⟩, -⟩
    · rw [if_neg hvalid, and_iff_right (Bool.eq_true_of_not_eq_false hvalid)]
      rcases hlookup : supplied.lookup with _ | _ | result
      · refine not_complete_of_stopped ?_
        rintro ⟨-, ⟨_, ⟨⟩⟩, -⟩
      · refine not_complete_of_stopped ?_
        rintro ⟨-, ⟨_, ⟨⟩⟩, -⟩
      · simp only [ih, addDkim_complete, and_assoc]
        refine and_congr_right fun _ => and_congr_left fun _ => ?_
        simp

theorem correlate_complete (observation : IntelligenceObservation)
    (bundle : Option SuppliedBundle) :
    (observation.correlate bundle).complete = observation.complete := by
  unfold IntelligenceObservation.correlate
  split
  · split
    · rfl
    · rfl
  · rfl

/-- What a complete collection is made of. -/
structure CollectionComplete (normalizeTarget : String → Option NormalizedTarget)
    (report : ScanReport) (subdomains : List SuppliedSubdomain)
    (selectors : List SuppliedSelector) : Prop where
  few : subdomains.length ≤ maxSubdomains ∧ selectors.length ≤ maxSelectors
  accepted : ∃ primary, report.target.hostname = some primary ∧
    SubdomainsComplete normalizeTarget primary subdomains .empty
  looked : SelectorsComplete selectors

/-- The two collections, one after the other. -/
theorem analyzeIntelligence_run {report : ScanReport} {primary : String}
    {subdomains : List SuppliedSubdomain} {selectors : List SuppliedSelector}
    {bundle : Option SuppliedBundle} (hhost : report.target.hostname = some primary)
    (hfew : ¬(maxSubdomains < subdomains.length ∨ maxSelectors < selectors.length)) :
    (∃ result, analyzeIntelligence normalizeTarget parse report subdomains selectors bundle =
        .ok result ∧ result.complete = true) ↔
      ∃ first, collectSubdomains normalizeTarget primary subdomains .empty
          { complete := true, bundleVersion := bundle.map SuppliedBundle.schemaVersion } =
            .ok first ∧
        ∃ second, collectSelectors parse selectors first = .ok second ∧
          second.complete = true := by
  simp only [analyzeIntelligence, hhost, if_neg hfew]
  constructor
  · rintro ⟨result, hresult, hcomplete⟩
    split at hresult
    · cases hresult
    · rename_i first hfirst
      split at hresult
      · cases hresult
      · rename_i second hsecond
        cases hresult
        rw [correlate_complete] at hcomplete
        exact ⟨first, hfirst, second, hsecond, hcomplete⟩
  · rintro ⟨first, hfirst, second, hsecond, hcomplete⟩
    rw [hfirst]
    simp only [hsecond]
    exact ⟨_, rfl, (correlate_complete second bundle).trans hcomplete⟩

theorem analyzeIntelligence_complete {report : ScanReport} {subdomains : List SuppliedSubdomain}
    {selectors : List SuppliedSelector} {bundle : Option SuppliedBundle} :
    (∃ result, analyzeIntelligence normalizeTarget parse report subdomains selectors bundle =
        .ok result ∧ result.complete = true) ↔
      CollectionComplete normalizeTarget report subdomains selectors := by
  rcases hhost : report.target.hostname with _ | primary
  · simp only [analyzeIntelligence, hhost]
    refine iff_of_false ?_ fun h => ?_
    · rintro ⟨_, ⟨⟩, -⟩
    · obtain ⟨_, hsome, _⟩ := h.accepted
      rw [hhost] at hsome
      cases hsome
  · by_cases hmany : maxSubdomains < subdomains.length ∨ maxSelectors < selectors.length
    · simp only [analyzeIntelligence, hhost, if_pos hmany]
      refine iff_of_false ?_ fun h => ?_
      · rintro ⟨_, ⟨⟩, -⟩
      · exact hmany.elim (Nat.not_lt.mpr h.few.1) (Nat.not_lt.mpr h.few.2)
    · rw [analyzeIntelligence_run hhost hmany]
      simp only [collectSelectors_complete, ← and_assoc, exists_and_right,
        collectSubdomains_complete]
      rw [not_or, Nat.not_lt, Nat.not_lt] at hmany
      constructor
      · rintro ⟨⟨-, hsubdomains⟩, hselectors⟩
        exact ⟨hmany, ⟨primary, hhost, hsubdomains⟩, hselectors⟩
      · rintro ⟨-, ⟨_, hsome, hsubdomains⟩, hselectors⟩
        rw [hhost] at hsome
        cases hsome
        exact ⟨⟨trivial, hsubdomains⟩, hselectors⟩

end Complete

/-! ## Failed queries -/

section Failures

variable (platform : Platform) (normalizeTarget : String → Option NormalizedTarget)
  (parse : String → List String → DkimObservation)

/-- With a failed query among them the collection is said to be incomplete. -/
def FailuresReported (report : ScanReport) (subdomains : List SuppliedSubdomain)
    (queries : List DkimQuery) (bundle : Option SuppliedBundle) : Prop :=
  (∃ query ∈ queries, query.Failed platform) → ∀ observation,
    analyzeIntelligence normalizeTarget parse report subdomains
        (queries.map (DkimQuery.supplied platform)) bundle = .ok observation →
      observation.complete = false

/-- A query the resolver was asked and has no answer to, while all else goes well. -/
structure FailureOnly (report : ScanReport) (subdomains : List SuppliedSubdomain)
    (queries : List DkimQuery) : Prop where
  few : subdomains.length ≤ maxSubdomains ∧ queries.length ≤ maxSelectors
  accepted : ∃ primary, report.target.hostname = some primary ∧
    SubdomainsComplete normalizeTarget primary subdomains .empty
  asked : ∀ query ∈ queries, query.before.stops = false ∧
    validSelector query.selector = true ∧ ∃ meeting, query.Asked meeting
  failure : ∃ query ∈ queries, ∃ meeting, query.Asked meeting ∧ ¬Answered platform meeting.answer

theorem supplied_lookup {platform : Platform} {query : DkimQuery} :
    (∃ records, (query.supplied platform).lookup = .ready (.ok records)) ↔
      ∃ meeting, query.Asked meeting := by
  rcases hlookup : query.lookup with _ | _ | meeting
  · simp [DkimQuery.supplied, DkimQuery.Asked, hlookup]
  · simp [DkimQuery.supplied, DkimQuery.Asked, hlookup]
  · rcases hinit : meeting.initialized with _ | ⟨⟨⟩⟩
    · simp [DkimQuery.supplied, DkimQuery.Asked, hlookup, lookupTxt, hinit]
    · rcases hbuilt : meeting.built with _ | ⟨⟨⟩⟩
      · simp [DkimQuery.supplied, DkimQuery.Asked, hlookup, lookupTxt, hinit, hbuilt]
      · simp [DkimQuery.supplied, DkimQuery.Asked, hlookup, lookupTxt, hinit, hbuilt]

theorem collectionComplete_supplied {platform : Platform}
    {normalizeTarget : String → Option NormalizedTarget} {report : ScanReport}
    {subdomains : List SuppliedSubdomain} {queries : List DkimQuery} :
    CollectionComplete normalizeTarget report subdomains
        (queries.map (DkimQuery.supplied platform)) ↔
      (subdomains.length ≤ maxSubdomains ∧ queries.length ≤ maxSelectors) ∧
        (∃ primary, report.target.hostname = some primary ∧
          SubdomainsComplete normalizeTarget primary subdomains .empty) ∧
        ∀ query ∈ queries, query.before.stops = false ∧
          validSelector query.selector = true ∧ ∃ meeting, query.Asked meeting := by
  have hlooked : SelectorsComplete (queries.map (DkimQuery.supplied platform)) ↔
      ∀ query ∈ queries, query.before.stops = false ∧
        validSelector query.selector = true ∧ ∃ meeting, query.Asked meeting := by
    rw [SelectorsComplete, List.forall_mem_map]
    simp only [supplied_lookup]
    rfl
  rw [← hlooked]
  constructor
  · rintro ⟨hfew, haccepted, hlooked⟩
    rw [List.length_map] at hfew
    exact ⟨hfew, haccepted, hlooked⟩
  · rintro ⟨hfew, haccepted, hlooked⟩
    rw [← List.length_map (DkimQuery.supplied platform)] at hfew
    exact ⟨hfew, haccepted, hlooked⟩

theorem DkimQuery.Asked.unique {query : DkimQuery} {meeting meeting' : TxtMeeting}
    (h : query.Asked meeting) (h' : query.Asked meeting') : meeting = meeting' := by
  have hready := h.1.symm.trans h'.1
  cases hready
  rfl

theorem analyzeIntelligence_failures (report : ScanReport) (subdomains : List SuppliedSubdomain)
    (queries : List DkimQuery) (bundle : Option SuppliedBundle) :
    FailuresReported platform normalizeTarget parse report subdomains queries bundle ↔
      ¬FailureOnly platform normalizeTarget report subdomains queries := by
  have hcomplete : (∃ observation, analyzeIntelligence normalizeTarget parse report subdomains
      (queries.map (DkimQuery.supplied platform)) bundle = .ok observation ∧
        observation.complete = true) ↔ _ := analyzeIntelligence_complete
  rw [collectionComplete_supplied] at hcomplete
  constructor
  · rintro h ⟨hfew, haccepted, hasked, query, hquery, meeting, hmeeting, hanswer⟩
    obtain ⟨observation, hobservation, htrue⟩ := hcomplete.mpr ⟨hfew, haccepted, hasked⟩
    have hfailed : query.Failed platform := by
      rintro ⟨meeting', hmeeting', hanswer'⟩
      rw [hmeeting.unique hmeeting'] at hanswer
      exact hanswer hanswer'
    rw [h ⟨query, hquery, hfailed⟩ observation hobservation] at htrue
    cases htrue
  · rintro h ⟨query, hquery, hfailed⟩ observation hobservation
    by_contra htrue
    obtain ⟨hfew, haccepted, hasked⟩ :=
      hcomplete.mp ⟨observation, hobservation, Bool.eq_true_of_not_eq_false htrue⟩
    obtain ⟨-, -, meeting, hmeeting⟩ := hasked query hquery
    exact h ⟨hfew, haccepted, hasked, query, hquery, meeting, hmeeting,
      fun hanswer => hfailed ⟨meeting, hmeeting, hanswer⟩⟩

/-- A query that runs out of time leaves the collection complete. -/
theorem analyzeIntelligence_silent :
    ¬FailuresReported fixturePlatform (fun _ => none) (parseDkim id)
      (.notStarted "0.4.0" "scan" .unixEpoch fixtureTarget fixtureConfiguration) []
      [⟨"default", ⟨false, false⟩, .ready ⟨.ok (), .ok (), none⟩⟩] none := by
  intro h
  have hfailed : ¬∃ meeting, (⟨"default", ⟨false, false⟩, .ready ⟨.ok (), .ok (), none⟩⟩ :
      DkimQuery).Asked meeting ∧ Answered fixturePlatform meeting.answer := by
    rintro ⟨meeting, ⟨hmeeting, -, -⟩, answer, hanswer, -⟩
    cases hmeeting
    cases hanswer
  have hincomplete := h ⟨_, List.mem_singleton.mpr rfl, hfailed⟩ _ rfl
  cases hincomplete

end Failures

end Surface

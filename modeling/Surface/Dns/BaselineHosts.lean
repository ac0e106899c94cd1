import Surface.Dns.Baseline
import Surface.Model.Report

/-!
# Surface.Dns.BaselineHosts

Which of the addresses that the answers carry reach the observation.

* `Gathers`: what has been collected from a list of answers; `lookup_gathers` is the step for one
  lookup, `collectBaseline_gathers` the run over all of them.
* `analyzeDnsBaselineForScan_accounts_iff`: every address is kept, or the loss is recorded, exactly
  when the records overflow their own bound or every address has a host among the smallest ones.
-/

namespace Surface

def LookupResult.answers : LookupResult → List Record
  | some (.ok records) => records
  | _ => []

def Record.address? (record : Record) : Option IpAddr :=
  match record.data with
  | .a address => some (.v4 address)
  | .aaaa address => some (.v6 address)
  | _ => none

/-- The answers to the lookups of the record types; a target with an address makes none. -/
def baselineAnswers (meeting : BaselineMeeting) (target : NormalizedTarget)
    (ipv4Only ipv6Only : Bool) : List Record :=
  if target.explicitIp.isSome then []
  else (baselineQueryTypes ipv4Only ipv6Only).flatMap fun recordType =>
    (meeting.lookup recordType).answers

def carriedAddresses (answers : List Record) : List IpAddr := answers.filterMap Record.address?

/-- The error says that results were truncated. -/
def ScanError.tellsTruncation (error : ScanError) : Prop :=
  error.kind = .other ∧ error.message = "DNS records truncated at " ++ toString maxDnsRecords

instance (error : ScanError) : Decidable error.tellsTruncation :=
  inferInstanceAs (Decidable (_ ∧ _))

/-- No address is lost without a record of it. -/
def DnsObservation.accountsFor (observation : DnsObservation) (addresses : List IpAddr) : Prop :=
  (∀ address ∈ addresses, ∃ host ∈ observation.resolvedHosts, host.ip = address) ∨
    ∃ error ∈ observation.errors, error.tellsTruncation

instance (observation : DnsObservation) (addresses : List IpAddr) :
    Decidable (observation.accountsFor addresses) :=
  inferInstanceAs (Decidable (_ ∨ _))

section Gathering

variable {platform : Platform}

/-- What the code has collected from these answers. -/
structure Gathers (platform : Platform) (collected : Collected) (answers : List Record) :
    Prop where
  records : collected.records = answers.filterMap fun record => convertRecord platform record.data
  hosts : collected.resolvedHosts =
    OrdSet.ofList (answers.filterMap fun record => record.resolvedHost? platform)
  errors : ∀ error ∈ collected.errors, error.kind ≠ .other

theorem gathers_nil : Gathers platform {} [] := ⟨rfl, rfl, by simp⟩

theorem Gathers.answer {collected : Collected} {answers : List Record}
    (h : Gathers platform collected answers) (record : Record) :
    Gathers platform (collected.answer platform record) (answers ++ [record]) where
  records := by
    rw [List.filterMap_append, ← h.records]
    unfold Collected.answer
    cases hconvert : convertRecord platform record.data <;> simp [hconvert]
  hosts := by
    rw [List.filterMap_append, OrdSet.ofList_append, ← h.hosts]
    unfold Collected.answer
    cases hhost : record.resolvedHost? platform <;> simp [hhost]
  errors := h.errors

theorem Gathers.answers {collected : Collected} {answers : List Record}
    (h : Gathers platform collected answers) (records : List Record) :
    Gathers platform (records.foldl (Collected.answer platform) collected)
      (answers ++ records) := by
  induction records generalizing collected answers with
  | nil =>
    rw [List.append_nil]
    exact h
  | cons record records ih =>
    have hassoc : answers ++ record :: records = (answers ++ [record]) ++ records := by simp
    rw [List.foldl_cons, hassoc]
    exact ih (h.answer record)

theorem Gathers.failed {collected : Collected} {answers : List Record}
    (h : Gathers platform collected answers) {error : ScanError} (herror : error.kind ≠ .other) :
    Gathers platform { collected with errors := collected.errors ++ [error] } answers where
  records := h.records
  hosts := h.hosts
  errors := by
    intro e he
    rcases List.mem_append.mp he with he | he
    · exact h.errors e he
    · rw [List.mem_singleton.mp he]
      exact herror

theorem lookup_gathers {collected : Collected} {answers : List Record}
    (h : Gathers platform collected answers) (name : String) (recordType : RecordType)
    (result : LookupResult) :
    Gathers platform (lookup platform name recordType result collected)
      (answers ++ result.answers) := by
  unfold lookup LookupResult.answers
  cases result with
  | none =>
    rw [List.append_nil]
    exact h.failed (by simp)
  | some result =>
    cases result with
    | ok records => exact h.answers records
    | error error =>
      simp only [List.append_nil]
      split
      · exact h
      · exact h.failed (by simp)

theorem collectBaseline_gathers (meeting : BaselineMeeting) (hostname : String)
    (queryTypes : List RecordType) :
    Gathers platform (collectBaseline platform meeting hostname queryTypes)
      (queryTypes.flatMap fun recordType => (meeting.lookup recordType).answers) := by
  have hrun : ∀ (collected : Collected) (answers : List Record),
      Gathers platform collected answers →
      Gathers platform
        (queryTypes.foldl (fun collected recordType =>
          lookup platform hostname recordType (meeting.lookup recordType) collected) collected)
        (answers ++ queryTypes.flatMap fun recordType => (meeting.lookup recordType).answers) := by
    induction queryTypes with
    | nil =>
      intro collected answers h
      simpa using h
    | cons recordType queryTypes ih =>
      intro collected answers h
      rw [List.foldl_cons, List.flatMap_cons, ← List.append_assoc]
      exact ih _ _ (lookup_gathers h hostname recordType (meeting.lookup recordType))
  exact hrun {} [] gathers_nil

end Gathering

section Accounting

variable (platform : Platform) (meeting : BaselineMeeting)

/-- The hosts the answers name, each once. -/
def answeredHosts (answers : List Record) : OrdSet ResolvedHost :=
  OrdSet.ofList (answers.filterMap fun record => record.resolvedHost? platform)

/-- The answers bring more records than an observation may hold. -/
def overflows (answers : List Record) : Prop :=
  maxDnsRecords < (answers.filterMap fun record => convertRecord platform record.data).length

/-- Every address belongs to a host with fewer smaller hosts than an observation may hold. -/
def fitsHosts (answers : List Record) : Prop :=
  ∀ address ∈ carriedAddresses answers, ∃ host ∈ answeredHosts platform answers,
    host.ip = address ∧
      (answeredHosts platform answers).toList.countP (· < host) < maxResolvedHosts

/-- How a successful collection comes about: from the address of the target, or from answers. -/
theorem analyzeDnsBaselineForScan_ok {target : NormalizedTarget}
    {ipv4Only ipv6Only fetchMtaStsPolicy : Bool} {baseline : DnsBaseline}
    (h : analyzeDnsBaselineForScan platform meeting target ipv4Only ipv6Only fetchMtaStsPolicy =
      .ok baseline) :
    baselineAnswers meeting target ipv4Only ipv6Only = [] ∨
      ∃ hostname collected,
        Gathers platform collected (baselineAnswers meeting target ipv4Only ipv6Only) ∧
        baseline.observation.resolvedHosts =
          collected.resolvedHosts.toList.take maxResolvedHosts ∧
        baseline.observation.errors =
          if maxDnsRecords < collected.records.length then
            collected.errors ++ [recordsTruncated hostname]
          else collected.errors := by
  unfold analyzeDnsBaselineForScan at h
  cases hip : target.explicitIp with
  | some ip => exact .inl (by simp [baselineAnswers, hip])
  | none =>
    have hanswers : baselineAnswers meeting target ipv4Only ipv6Only =
        (baselineQueryTypes ipv4Only ipv6Only).flatMap fun recordType =>
          (meeting.lookup recordType).answers := by
      simp [baselineAnswers, hip]
    rw [hip] at h
    cases hname : target.hostname with
    | none =>
      rw [hname] at h
      cases h
    | some hostname =>
      rw [hname] at h
      have hgathers := @collectBaseline_gathers platform meeting hostname
        (baselineQueryTypes ipv4Only ipv6Only)
      rw [← hanswers] at hgathers
      cases hinit : meeting.initialized with
      | error error =>
        rw [hinit] at h
        cases h
      | ok initialized =>
        cases hbuilt : meeting.built with
        | error error =>
          rw [hinit, hbuilt] at h
          cases h
        | ok built =>
          rw [hinit, hbuilt] at h
          cases h
          exact .inr ⟨hostname, _, hgathers, rfl, rfl⟩

/-- The hosts that are kept cover the addresses exactly when the hosts fit. -/
theorem keptHosts_iff {collected : Collected} {answers : List Record}
    (h : Gathers platform collected answers) :
    (∀ address ∈ carriedAddresses answers,
      ∃ host ∈ collected.resolvedHosts.toList.take maxResolvedHosts, host.ip = address) ↔
      fitsHosts platform answers := by
  unfold fitsHosts
  rw [h.hosts]
  refine forall_congr' fun address => forall_congr' fun _ => exists_congr fun host => ?_
  rw [OrdSet.mem_take_iff]
  constructor
  · rintro ⟨⟨hmem, hcount⟩, hhost⟩
    exact ⟨hmem, hhost, hcount⟩
  · rintro ⟨hmem, hhost, hcount⟩
    exact ⟨⟨hmem, hcount⟩, hhost⟩

/-- Only the overflow of the records is recorded as a truncation. -/
theorem errors_tell_iff {collected : Collected} {answers : List Record}
    (h : Gathers platform collected answers) (hostname : String) :
    (∃ error ∈ (if maxDnsRecords < collected.records.length then
        collected.errors ++ [recordsTruncated hostname] else collected.errors),
      error.tellsTruncation) ↔ overflows platform answers := by
  unfold overflows
  rw [← h.records]
  constructor
  · rintro ⟨error, hmem, htells⟩
    by_contra hfew
    rw [if_neg hfew] at hmem
    exact h.errors error hmem htells.1
  · intro hmany
    rw [if_pos hmany]
    exact ⟨recordsTruncated hostname, by simp, rfl, rfl⟩

/-- The collection accounts for the addresses of its answers exactly when the records overflow
or the hosts fit. -/
theorem analyzeDnsBaselineForScan_accounts_iff {target : NormalizedTarget}
    {ipv4Only ipv6Only fetchMtaStsPolicy : Bool} {baseline : DnsBaseline}
    (h : analyzeDnsBaselineForScan platform meeting target ipv4Only ipv6Only fetchMtaStsPolicy =
      .ok baseline) :
    baseline.observation.accountsFor
        (carriedAddresses (baselineAnswers meeting target ipv4Only ipv6Only)) ↔
      overflows platform (baselineAnswers meeting target ipv4Only ipv6Only) ∨
        fitsHosts platform (baselineAnswers meeting target ipv4Only ipv6Only) := by
  rcases analyzeDnsBaselineForScan_ok platform meeting h with
    hnone | ⟨hostname, collected, hgathers, hhosts, herrors⟩
  · rw [hnone]
    refine iff_of_true (.inl ?_) (.inr ?_)
    · simp [carriedAddresses]
    · simp [carriedAddresses, fitsHosts]
  · unfold DnsObservation.accountsFor
    rw [hhosts, herrors, keptHosts_iff platform hgathers, errors_tell_iff platform hgathers]
    exact or_comm

end Accounting

/-! ## More addresses than hosts -/

/-- The A lookup brings this many addresses of one name, the others bring nothing. -/
def addressMeeting (count : Nat) : BaselineMeeting where
  initialized := .ok ()
  built := .ok ()
  lookup
    | .a => some (.ok ((List.range count).map fun i =>
        ⟨"a.io.", .a (BitVec.ofNat 32 (0xc6336401 + i)), .insecure⟩))
    | _ => some (.error (.noRecordsFound .noError none))
  dmarc := none
  mtaSts := none
  tlsRpt := none
  authority := none
  mtaStsPolicy := none

theorem analyzeDnsBaselineForScan_accounts_two : ∃ baseline,
    analyzeDnsBaselineForScan fixturePlatform (addressMeeting 2) fixtureTarget false false false =
      .ok baseline ∧
    (baseline.observation.accountsFor
        (carriedAddresses (baselineAnswers (addressMeeting 2) fixtureTarget false false)) ↔
      overflows fixturePlatform (baselineAnswers (addressMeeting 2) fixtureTarget false false) ∨
        fitsHosts fixturePlatform
          (baselineAnswers (addressMeeting 2) fixtureTarget false false)) :=
  ⟨_, rfl, analyzeDnsBaselineForScan_accounts_iff fixturePlatform (addressMeeting 2) rfl⟩

theorem seventeenth_address_dropped : ∃ baseline,
    analyzeDnsBaselineForScan fixturePlatform (addressMeeting 17) fixtureTarget false false false =
      .ok baseline ∧
    ¬ baseline.observation.accountsFor
      (carriedAddresses (baselineAnswers (addressMeeting 17) fixtureTarget false false)) :=
  ⟨_, rfl, by decide +kernel⟩

end Surface

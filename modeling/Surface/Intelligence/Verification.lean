import Surface.Model.Basic
import Surface.Model.Intelligence
import Surface.Unordered

/-!
# Surface.Intelligence.Verification

Looking up the candidates of the certificate transparency log in the DNS, concurrently.

`verifyCtCandidates_statuses`: whatever the order in which the lookups complete, every candidate
that is no wildcard gets the status of its own lookup, and nothing else changes.
-/

namespace Surface

def maxCtDnsConcurrency : Nat := 16

inductive CtDnsLookupResult where
  | address
  | noAddress
  | nxDomain
  | failed
deriving DecidableEq

/-- What a lookup counts as, when the token is cancelled first or its deadline passes. -/
def settleLookup : Awaited CtDnsLookupResult → CtDnsLookupResult
  | .cancelled => .failed
  | .timedOut => .failed
  | .ready result => result

def CtDnsLookupResult.status : CtDnsLookupResult → CertificateTransparencyDnsStatus
  | address => .resolved
  | noAddress => .noAddress
  | nxDomain => .nxDomain
  | failed => .indeterminate

/-- The names to look up, with their places among the candidates. -/
def ctQueries (candidates : List CertificateTransparencyCandidate) : List (Nat × String) :=
  (candidates.zipIdx.filter fun candidate => !candidate.1.wildcard).map fun candidate =>
    (candidate.2, candidate.1.name)

/-- The candidates with the results written back, and whether no lookup failed. -/
def finishCtCandidates (candidates : List CertificateTransparencyCandidate)
    (results : List (Nat × CtDnsLookupResult)) : List CertificateTransparencyCandidate × Bool :=
  (writeBack (fun result candidate => { candidate with dnsStatus := result.status }) results
    candidates, results.all fun result => decide (result.2 ≠ .failed))

section Source

-- What the lookup of a name comes to, for the candidate at a place: a token that is cancelled
-- somewhere in the run, or a deadline that passes, shows as the outcome of the lookups it meets.
variable (lookup : Nat → String → Awaited CtDnsLookupResult)

def ctLookup (query : Nat × String) : Nat × CtDnsLookupResult :=
  (query.1, settleLookup (lookup query.1 query.2))

/-- A run of the verification: the results, in the order the lookups completed. -/
def VerifiesCtCandidates (candidates : List CertificateTransparencyCandidate)
    (results : List (Nat × CtDnsLookupResult)) : Prop :=
  Buffer.Collects maxCtDnsConcurrency (ctLookup lookup) (ctQueries candidates) results

end Source

variable {lookup : Nat → String → Awaited CtDnsLookupResult}
  {candidates : List CertificateTransparencyCandidate} {results : List (Nat × CtDnsLookupResult)}

/-! ## Places -/

theorem mem_ctQueries {query : Nat × String} : query ∈ ctQueries candidates ↔
    ∃ candidate, candidates[query.1]? = some candidate ∧ candidate.wildcard = false ∧
      candidate.name = query.2 := by
  rw [ctQueries, List.mem_map]
  constructor
  · rintro ⟨⟨candidate, place⟩, hmem, rfl⟩
    obtain ⟨hplace, hplain⟩ := List.mem_filter.mp hmem
    exact ⟨candidate, List.mem_zipIdx_iff_getElem?.mp hplace, by simpa using hplain, rfl⟩
  · rintro ⟨candidate, hplace, hplain, hname⟩
    refine ⟨(candidate, query.1), List.mem_filter.mpr ⟨List.mem_zipIdx_iff_getElem?.mpr hplace, ?_⟩,
      Prod.ext rfl hname⟩
    simpa using hplain

theorem ctQueries_nodup (candidates : List CertificateTransparencyCandidate) :
    ((ctQueries candidates).map Prod.fst).Nodup := by
  have hplaces : (candidates.zipIdx.map Prod.snd).Nodup := by
    rw [List.zipIdx_map_snd]
    exact List.nodup_range'
  rw [ctQueries, List.map_map]
  exact hplaces.sublist (List.filter_sublist.map Prod.snd)

theorem mem_results_iff (h : VerifiesCtCandidates lookup candidates results) {place : Nat}
    {result : CtDnsLookupResult} : (place, result) ∈ results ↔
      ∃ candidate, candidates[place]? = some candidate ∧ candidate.wildcard = false ∧
        result = settleLookup (lookup place candidate.name) := by
  rw [h.perm.mem_iff, List.mem_map]
  constructor
  · rintro ⟨⟨place, name⟩, hquery, hsame⟩
    cases hsame
    obtain ⟨candidate, hplace, hplain, rfl⟩ := mem_ctQueries.mp hquery
    exact ⟨candidate, hplace, hplain, rfl⟩
  · rintro ⟨candidate, hplace, hplain, rfl⟩
    exact ⟨(place, candidate.name), mem_ctQueries.mpr ⟨candidate, hplace, hplain, rfl⟩, rfl⟩

/-- A place with no candidate to look up gets no result. -/
theorem place_ne_of_wildcard (h : VerifiesCtCandidates lookup candidates results) {place : Nat}
    (hplace : ∀ candidate, candidates[place]? = some candidate → candidate.wildcard = true) :
    ∀ result ∈ results, result.1 ≠ place := by
  rintro ⟨other, result⟩ hresult rfl
  obtain ⟨candidate, hsome, hplain, -⟩ := (mem_results_iff h).mp hresult
  rw [hplace candidate hsome] at hplain
  cases hplain

theorem results_nodup (h : VerifiesCtCandidates lookup candidates results) :
    (results.map Prod.fst).Nodup := by
  have hsame : ((ctQueries candidates).map (ctLookup lookup)).map Prod.fst =
      (ctQueries candidates).map Prod.fst := by
    rw [List.map_map]
    rfl
  refine (h.perm.map Prod.fst).nodup_iff.mpr ?_
  rw [hsame]
  exact ctQueries_nodup candidates

/-! ## Any run -/

/-- A candidate after its own lookup. -/
def CertificateTransparencyCandidate.verified (candidate : CertificateTransparencyCandidate)
    (lookup : Awaited CtDnsLookupResult) : CertificateTransparencyCandidate :=
  if candidate.wildcard = true then candidate
  else { candidate with dnsStatus := (settleLookup lookup).status }

/-- What a run leaves of the candidates. -/
structure CtVerified (lookup : Nat → String → Awaited CtDnsLookupResult)
    (candidates : List CertificateTransparencyCandidate)
    (results : List (Nat × CtDnsLookupResult)) : Prop where
  inBounds : ∀ result ∈ results, result.1 < candidates.length
  statuses : (finishCtCandidates candidates results).1 =
    candidates.mapIdx fun place candidate => candidate.verified (lookup place candidate.name)
  complete : (finishCtCandidates candidates results).2 = true ↔
    ∀ place candidate, candidates[place]? = some candidate → candidate.wildcard = false →
      settleLookup (lookup place candidate.name) ≠ .failed

theorem verifyCtCandidates_statuses (h : VerifiesCtCandidates lookup candidates results) :
    CtVerified lookup candidates results where
  inBounds := by
    rintro ⟨place, result⟩ hresult
    obtain ⟨candidate, hplace, -⟩ := (mem_results_iff h).mp hresult
    exact (List.getElem?_eq_some_iff.mp hplace).1
  statuses := by
    refine List.ext_getElem? fun place => ?_
    simp only [finishCtCandidates, List.getElem?_mapIdx]
    cases hplace : candidates[place]? with
    | none =>
      have hother := place_ne_of_wildcard h fun candidate hsome => by
        rw [hplace] at hsome
        cases hsome
      rw [writeBack_of_notMem hother, hplace, Option.map_none]
    | some candidate =>
      cases hwildcard : candidate.wildcard with
      | true =>
        have hother := place_ne_of_wildcard h fun found hsome => by
          rw [hplace] at hsome
          cases hsome
          exact hwildcard
        rw [writeBack_of_notMem hother, hplace, Option.map_some,
          CertificateTransparencyCandidate.verified, if_pos hwildcard]
      | false =>
        have hresult := (mem_results_iff h).mpr ⟨candidate, hplace, hwildcard, rfl⟩
        rw [writeBack_of_mem (results_nodup h) hresult, hplace, Option.map_some, Option.map_some,
          CertificateTransparencyCandidate.verified, if_neg (Bool.eq_false_iff.mp hwildcard)]
  complete := by
    rw [finishCtCandidates, List.all_eq_true]
    constructor
    · intro hall place candidate hplace hplain
      exact of_decide_eq_true
        (hall _ ((mem_results_iff h).mpr ⟨candidate, hplace, hplain, rfl⟩))
    · rintro hall ⟨place, result⟩ hresult
      obtain ⟨candidate, hplace, hplain, rfl⟩ := (mem_results_iff h).mp hresult
      exact decide_eq_true (hall place candidate hplace hplain)

/-- A wildcard between two names; the later one completes first, and the other is cancelled. -/
theorem verifyCtCandidates_statuses_cancelled :
    ∃ candidates results, candidates.length = 3 ∧
      VerifiesCtCandidates (fun place _ => if place = 0 then .cancelled else .ready .address)
        candidates results ∧
      CtVerified (fun place _ => if place = 0 then .cancelled else .ready .address)
        candidates results := by
  let candidates : List CertificateTransparencyCandidate :=
    [⟨"a.example.com", false, 1, .notChecked⟩, ⟨"*.b.example.com", true, 1, .notChecked⟩,
      ⟨"c.example.com", false, 1, .notChecked⟩]
  have hqueries : ctQueries candidates = [(0, "a.example.com"), (2, "c.example.com")] := by decide
  have hrun : VerifiesCtCandidates
      (fun place _ => if place = 0 then .cancelled else .ready .address) candidates
      [(2, .address), (0, .failed)] := by
    rw [VerifiesCtCandidates, hqueries]
    exact .head (.launch _ [(2, "c.example.com")] [] [] (by decide))
      (.head (.launch _ [] [(0, "a.example.com")] [] (by decide))
        (.head (.complete [] [(0, "a.example.com")] _ [] [])
          (.single (.complete [] [] _ [] _))))
  exact ⟨candidates, _, rfl, hrun, verifyCtCandidates_statuses hrun⟩

end Surface

import Surface.Intelligence.Candidates
import Surface.Model.Report

/-!
# Surface.Intelligence.Transparency

Reading the certificate transparency log page by page.

* `CtPaging`: the invariant of the loop, from one fetch to the next.
* `CtPaged`: what holds when the loop ends, by an empty page, a page without an id, an error or
  after the last fetch.
* `analyzeCertificateTransparency_pages`: the fetches that are made, and the observation.
-/

namespace Surface

def maxCtPages : Nat := 3

abbrev CtPage := List CertSpotterIssuance

/-- The state of the loop, and where each of its fetches continued from. -/
structure CtPages where
  issuances : List CertSpotterIssuance
  after : Option String
  complete : Bool
  pagesFetched : Nat
  errors : List String
  calls : List (Option String)

def CtPages.start : CtPages := ⟨[], none, false, 0, [], []⟩

inductive CtTurn where
  | next (pages : CtPages)
  | stop (pages : CtPages)
  | fail (pages : CtPages) (error : String)

section Source

-- What each call of `fetch_certspotter_page` comes to, given where it continues from.
variable (fetch : Nat → Option String → Except String CtPage)

def CtPages.turn (pages : CtPages) : CtTurn :=
  let called := { pages with calls := pages.calls ++ [pages.after] }
  match fetch pages.calls.length pages.after with
  | .error error =>
    if pages.issuances = [] then .fail called error
    else .stop { called with errors := pages.errors ++ [error] }
  | .ok page =>
    match page.getLast? with
    | none => .stop { called with pagesFetched := pages.pagesFetched + 1, complete := true }
    | some last =>
      if last.id = "" then
        let error := "certificate transparency response lacked a pagination ID"
        if pages.issuances = [] then .fail called error
        else .stop { called with errors := pages.errors ++ [error] }
      else
        .next { called with
          pagesFetched := pages.pagesFetched + 1
          after := some last.id
          issuances := pages.issuances ++ page }

def CtPages.run : Nat → CtPages → CtPages × Option String
  | 0, pages => (pages, none)
  | turns + 1, pages =>
    match pages.turn fetch with
    | .next pages => pages.run turns
    | .stop pages => (pages, none)
    | .fail pages error => (pages, some error)

def CtPages.observation (parsers : Parsers) (primary : String) (pages : CtPages) :
    CertificateTransparencyObservation :=
  let candidates := ctCandidates parsers primary pages.issuances
  let errors :=
    if pages.complete = false ∧ pages.errors = [] then
      ["certificate transparency pagination stopped after " ++ toString maxCtPages ++ " pages"]
    else pages.errors
  { source := "CertSpotter"
    candidates := candidates.1
    issuanceCount := pages.issuances.length
    pagesFetched := pages.pagesFetched
    complete := pages.complete && !candidates.2
    errors :=
      if candidates.2 = true then
        errors ++ ["certificate transparency candidates were truncated at " ++
          toString maxCtCandidates ++ " names"]
      else errors }

/-- The fetches that are made, as where they continue from, and the result. -/
def analyzeCertificateTransparencyAt (parsers : Parsers) (report : ScanReport) :
    List (Option String) × Except String CertificateTransparencyObservation :=
  match report.target.hostname with
  | none => ([], .error "certificate transparency discovery requires a hostname target")
  | some primary =>
    match CtPages.start.run fetch maxCtPages with
    | (pages, some error) => (pages.calls, .error error)
    | (pages, none) => (pages.calls, .ok (pages.observation parsers primary))

end Source

/-! ## Fetches and the pages they retain -/

variable {fetch : Nat → Option String → Except String CtPage}

/-- A page is retained when it has an issuance, and its last one has an id to continue from. -/
def validPage : Except String CtPage → Option CtPage
  | .error _ => none
  | .ok page =>
    if page.getLast?.any (fun last => decide (last.id ≠ "")) = true then some page else none

def retained (fetch : Nat → Option String → Except String CtPage) (calls : List (Option String)) :
    List CtPage :=
  calls.zipIdx.filterMap fun call => validPage (fetch call.2 call.1)

/-- The first fetch starts at the beginning, and each other one at the last id of the page before
it. -/
structure Chained (fetch : Nat → Option String → Except String CtPage)
    (calls : List (Option String)) : Prop where
  first : ∀ after, calls[0]? = some after → after = none
  next : ∀ i after after', calls[i]? = some after → calls[i + 1]? = some after' →
    ∃ page last, fetch i after = .ok page ∧ page.getLast? = some last ∧ last.id ≠ "" ∧
      after' = some last.id

theorem retained_concat (calls : List (Option String)) (after : Option String) :
    retained fetch (calls ++ [after]) =
      retained fetch calls ++ (validPage (fetch calls.length after)).toList := by
  rw [retained, List.zipIdx_append, List.filterMap_append]
  cases h : validPage (fetch calls.length after) with
  | none => simp [retained, h]
  | some page => simp [retained, h]

theorem retained_ne_nil {calls : List (Option String)} {page : CtPage}
    (h : page ∈ retained fetch calls) : page ≠ [] := by
  obtain ⟨call, -, hvalid⟩ := List.mem_filterMap.mp h
  rintro rfl
  cases hanswer : fetch call.2 call.1 with
  | error error =>
    rw [hanswer] at hvalid
    cases hvalid
  | ok other =>
    rw [hanswer, validPage] at hvalid
    split at hvalid
    · rename_i hlast
      cases hvalid
      cases hlast
    · cases hvalid

theorem Chained.concat {calls : List (Option String)} {after : Option String}
    (h : Chained fetch (calls ++ [after])) {page : CtPage} {last : CertSpotterIssuance}
    (hanswer : fetch calls.length after = .ok page) (hlast : page.getLast? = some last)
    (hid : last.id ≠ "") : Chained fetch (calls ++ [after] ++ [some last.id]) := by
  have hlength : (calls ++ [after]).length = calls.length + 1 := List.length_append
  have hfront : ∀ {i : Nat}, i < calls.length + 1 →
      (calls ++ [after] ++ [some last.id])[i]? = (calls ++ [after])[i]? := fun {i} hi =>
    List.getElem?_append_left (hlength ▸ hi)
  constructor
  · intro first hfirst
    rw [hfront (Nat.succ_pos _)] at hfirst
    exact h.first first hfirst
  · intro i before next hbefore hnext
    rcases Nat.lt_trichotomy i calls.length with hi | rfl | hi
    · rw [hfront (by omega)] at hbefore hnext
      exact h.next i before next hbefore hnext
    · rw [hfront (Nat.lt_succ_self _), List.getElem?_concat_length] at hbefore
      rw [← hlength, List.getElem?_concat_length] at hnext
      cases hbefore
      cases hnext
      exact ⟨page, last, hanswer, hlast, hid, rfl⟩
    · have hend : (calls ++ [after] ++ [some last.id]).length ≤ i + 1 := by
        rw [List.length_append, hlength]
        exact Nat.succ_le_succ hi
      rw [List.getElem?_eq_none hend] at hnext
      cases hnext

/-- A page without issuances was reached. -/
def ReachedEmpty (fetch : Nat → Option String → Except String CtPage)
    (calls : List (Option String)) : Prop :=
  ∃ i after, calls[i]? = some after ∧ fetch i after = .ok []

/-- No fetch is made after an empty page. -/
theorem Chained.not_reachedEmpty {calls : List (Option String)} {after : Option String}
    (h : Chained fetch (calls ++ [after])) : ¬ReachedEmpty fetch calls := by
  rintro ⟨i, before, hbefore, hempty⟩
  obtain ⟨hi, -⟩ := List.getElem?_eq_some_iff.mp hbefore
  have hfront : (calls ++ [after])[i]? = some before :=
    (List.getElem?_append_left hi).trans hbefore
  have hroom : i + 1 < (calls ++ [after]).length := by
    rw [List.length_append]
    exact Nat.succ_lt_succ hi
  obtain ⟨page, last, hanswer, hlast, -⟩ :=
    h.next i before _ hfront (List.getElem?_eq_getElem hroom)
  rw [hempty] at hanswer
  cases hanswer
  cases hlast

/-- Whether an empty page was reached is decided by the last fetch. -/
theorem Chained.reachedEmpty_iff {calls : List (Option String)} {after : Option String}
    (h : Chained fetch (calls ++ [after])) :
    ReachedEmpty fetch (calls ++ [after]) ↔ fetch calls.length after = .ok [] := by
  constructor
  · rintro ⟨i, before, hbefore, hempty⟩
    rcases Nat.lt_or_ge i calls.length with hi | hi
    · rw [List.getElem?_append_left hi] at hbefore
      exact absurd ⟨i, before, hbefore, hempty⟩ h.not_reachedEmpty
    · obtain ⟨hlt, -⟩ := List.getElem?_eq_some_iff.mp hbefore
      rw [List.length_append] at hlt
      have hsame : i = calls.length := Nat.le_antisymm (Nat.le_of_lt_succ hlt) hi
      rw [hsame, List.getElem?_concat_length] at hbefore
      cases hbefore
      exact hsame ▸ hempty
  · intro hempty
    exact ⟨calls.length, after, List.getElem?_concat_length, hempty⟩

/-! ## The loop -/

/-- Before a fetch: every page so far is retained, and the next one continues from its end. -/
structure CtPaging (fetch : Nat → Option String → Except String CtPage) (pages : CtPages) :
    Prop where
  chained : Chained fetch (pages.calls ++ [pages.after])
  issuances : pages.issuances = (retained fetch pages.calls).flatten
  complete : pages.complete = false
  errors : pages.errors = []

/-- After the last fetch, with the error of the whole analysis if there is one. -/
structure CtPaged (fetch : Nat → Option String → Except String CtPage) (pages : CtPages)
    (error : Option String) : Prop where
  chained : Chained fetch pages.calls
  issuances : pages.issuances = (retained fetch pages.calls).flatten
  complete : pages.complete = true ↔ ReachedEmpty fetch pages.calls
  errors : pages.complete = true → pages.errors = []
  failed : error ≠ none → retained fetch pages.calls = []

theorem ctPaging_start (fetch : Nat → Option String → Except String CtPage) :
    CtPaging fetch .start where
  chained :=
    { first := fun _ hafter => (Option.some.inj hafter).symm
      next := fun _ _ _ _ hnext => (nomatch hnext) }
  issuances := rfl
  complete := rfl
  errors := rfl

variable {pages : CtPages}

theorem Chained.init {calls : List (Option String)} {after : Option String}
    (h : Chained fetch (calls ++ [after])) : Chained fetch calls := by
  have hfront : ∀ {i : Nat} {before : Option String}, calls[i]? = some before →
      (calls ++ [after])[i]? = some before := fun {i before} hbefore =>
    (List.getElem?_append_left (List.getElem?_eq_some_iff.mp hbefore).1).trans hbefore
  exact ⟨fun first hfirst => h.first first (hfront hfirst),
    fun i before next hbefore hnext => h.next i before next (hfront hbefore) (hfront hnext)⟩

/-- The loop can end before any fetch. -/
theorem CtPaging.exhausted (h : CtPaging fetch pages) : CtPaged fetch pages none where
  chained := h.chained.init
  issuances := h.issuances
  complete := by
    rw [h.complete]
    exact ⟨fun hcomplete => (nomatch hcomplete),
      fun hempty => absurd hempty h.chained.not_reachedEmpty⟩
  errors := fun _ => h.errors
  failed := fun hnone => absurd rfl hnone

/-- A fetch that retains nothing ends the loop; `error` is what it leaves behind. -/
theorem CtPaging.refused (h : CtPaging fetch pages)
    (hinvalid : validPage (fetch pages.calls.length pages.after) = none)
    (hanswer : fetch pages.calls.length pages.after ≠ .ok []) {failure : Option String}
    (hfailure : failure ≠ none → pages.issuances = []) (errors : List String) :
    CtPaged fetch { pages with calls := pages.calls ++ [pages.after], errors := errors }
      failure := by
  have hretained : retained fetch (pages.calls ++ [pages.after]) = retained fetch pages.calls := by
    rw [retained_concat, hinvalid, Option.toList_none, List.append_nil]
  refine ⟨h.chained, h.issuances.trans (by rw [hretained]), ?_, fun hcomplete => ?_, fun hsome => ?_⟩
  · rw [h.chained.reachedEmpty_iff]
    simp only [h.complete]
    exact ⟨fun hcomplete => (nomatch hcomplete), fun hempty => absurd hempty hanswer⟩
  · simp only [h.complete] at hcomplete
    cases hcomplete
  · rw [hretained]
    have hflatten := h.issuances.symm.trans (hfailure hsome)
    refine List.eq_nil_iff_forall_not_mem.mpr fun page hpage => retained_ne_nil hpage ?_
    exact List.flatten_eq_nil_iff.mp hflatten page hpage

theorem CtPaging.ended (h : CtPaging fetch pages)
    (hanswer : fetch pages.calls.length pages.after = .ok []) (count : Nat) :
    CtPaged fetch
      { pages with
        calls := pages.calls ++ [pages.after], pagesFetched := count, complete := true } none where
  chained := h.chained
  issuances := by
    rw [retained_concat, hanswer]
    exact h.issuances.trans (by simp [validPage])
  complete := ⟨fun _ => h.chained.reachedEmpty_iff.mpr hanswer, fun _ => rfl⟩
  errors := fun _ => h.errors
  failed := fun hnone => absurd rfl hnone

theorem CtPaging.retain (h : CtPaging fetch pages) {page : CtPage} {last : CertSpotterIssuance}
    (hanswer : fetch pages.calls.length pages.after = .ok page) (hlast : page.getLast? = some last)
    (hid : last.id ≠ "") (count : Nat) :
    CtPaging fetch
      { pages with
        calls := pages.calls ++ [pages.after]
        pagesFetched := count
        after := some last.id
        issuances := pages.issuances ++ page } where
  chained := h.chained.concat hanswer hlast hid
  issuances := by
    have hvalid : validPage (.ok page) = some page := by
      rw [validPage, hlast, Option.any_some, if_pos (decide_eq_true hid)]
    rw [retained_concat, hanswer, hvalid, List.flatten_append, ← h.issuances]
    simp
  complete := h.complete
  errors := h.errors

/-- What one turn leads to. -/
inductive CtTurned (fetch : Nat → Option String → Except String CtPage) (count : Nat) :
    CtTurn → Prop where
  | next {pages : CtPages} (h : CtPaging fetch pages) (hcalls : pages.calls.length = count) :
      CtTurned fetch count (.next pages)
  | stop {pages : CtPages} (h : CtPaged fetch pages none) (hcalls : pages.calls.length = count) :
      CtTurned fetch count (.stop pages)
  | fail {pages : CtPages} {error : String} (h : CtPaged fetch pages (some error))
      (hcalls : pages.calls.length = count) : CtTurned fetch count (.fail pages error)

theorem CtPaging.turn (h : CtPaging fetch pages) :
    CtTurned fetch (pages.calls.length + 1) (pages.turn fetch) := by
  have hcalls : (pages.calls ++ [pages.after]).length = pages.calls.length + 1 :=
    List.length_append
  have hnone : (none : Option String) ≠ none → pages.issuances = [] := fun h => absurd rfl h
  unfold CtPages.turn
  cases hanswer : fetch pages.calls.length pages.after with
  | error error =>
    have hinvalid : validPage (fetch pages.calls.length pages.after) = none := by
      rw [hanswer]
      rfl
    have hopen : fetch pages.calls.length pages.after ≠ .ok [] := by
      rw [hanswer]
      exact fun hempty => nomatch hempty
    simp only
    split
    · rename_i hissuances
      exact .fail (h.refused hinvalid hopen (fun _ => hissuances) pages.errors) hcalls
    · exact .stop (h.refused hinvalid hopen hnone _) hcalls
  | ok page =>
    cases hlast : page.getLast? with
    | none =>
      have hempty : page = [] := List.getLast?_eq_none_iff.mp hlast
      simp only [hlast]
      exact .stop (h.ended (hempty ▸ hanswer) _) hcalls
    | some last =>
      simp only [hlast]
      split
      · rename_i hid
        have hinvalid : validPage (fetch pages.calls.length pages.after) = none := by
          rw [hanswer, validPage, hlast, Option.any_some, hid]
          rfl
        have hopen : fetch pages.calls.length pages.after ≠ .ok [] := by
          rw [hanswer]
          intro hempty
          cases hempty
          cases hlast
        split
        · rename_i hissuances
          exact .fail (h.refused hinvalid hopen (fun _ => hissuances) pages.errors) hcalls
        · exact .stop (h.refused hinvalid hopen hnone _) hcalls
      · rename_i hid
        exact .next (h.retain hanswer hlast hid _) hcalls

theorem CtPaging.run (h : CtPaging fetch pages) (turns : Nat) :
    CtPaged fetch (pages.run fetch turns).1 (pages.run fetch turns).2 ∧
      (pages.run fetch turns).1.calls.length ≤ pages.calls.length + turns := by
  induction turns generalizing pages with
  | zero => exact ⟨h.exhausted, Nat.le_refl _⟩
  | succ turns ih =>
    have hturn := h.turn
    rw [CtPages.run]
    generalize pages.turn fetch = turn at hturn
    cases hturn with
    | next hnext hcalls =>
      obtain ⟨hpaged, hbound⟩ := ih hnext
      refine ⟨hpaged, ?_⟩
      simp only
      omega
    | stop hstop hcalls =>
      refine ⟨hstop, ?_⟩
      simp only
      omega
    | fail hfail hcalls =>
      refine ⟨hfail, ?_⟩
      simp only
      omega

/-! ## The analysis -/

/-- The fetches of an analysis and its result. -/
structure CtAnalysis (fetch : Nat → Option String → Except String CtPage) (parsers : Parsers)
    (report : ScanReport) (calls : List (Option String))
    (result : Except String CertificateTransparencyObservation) : Prop where
  bounded : calls.length ≤ 3
  chained : Chained fetch calls
  failed : ∀ error, result = .error error → retained fetch calls = []
  observed : ∀ observation, result = .ok observation →
    ∃ primary, report.target.hostname = some primary ∧
      observation.issuanceCount = (retained fetch calls).flatten.length ∧
      observation.candidates =
        (ctCandidates parsers primary (retained fetch calls).flatten).1 ∧
      (observation.complete = true ↔ observation.errors = []) ∧
      (observation.errors = [] ↔ ReachedEmpty fetch calls ∧
        (ctCandidates parsers primary (retained fetch calls).flatten).2 = false)

theorem observation_complete_iff (parsers : Parsers) (primary : String)
    (herrors : pages.complete = true → pages.errors = []) :
    ((pages.observation parsers primary).complete = true ↔
      pages.complete = true ∧ (ctCandidates parsers primary pages.issuances).2 = false) ∧
    ((pages.observation parsers primary).errors = [] ↔
      pages.complete = true ∧ (ctCandidates parsers primary pages.issuances).2 = false) := by
  unfold CtPages.observation
  simp only
  generalize (ctCandidates parsers primary pages.issuances).2 = truncated
  cases hcomplete : pages.complete with
  | true =>
    rw [herrors hcomplete]
    cases truncated <;> simp
  | false =>
    by_cases hnone : pages.errors = []
    · cases truncated <;> simp [hnone]
    · cases truncated <;> simp [hnone]

theorem analyzeCertificateTransparency_pages
    (fetch : Nat → Option String → Except String CtPage) (parsers : Parsers)
    (report : ScanReport) :
    CtAnalysis fetch parsers report (analyzeCertificateTransparencyAt fetch parsers report).1
      (analyzeCertificateTransparencyAt fetch parsers report).2 := by
  unfold analyzeCertificateTransparencyAt
  cases hprimary : report.target.hostname with
  | none =>
    exact ⟨Nat.zero_le _, ⟨fun _ h => (nomatch h), fun _ _ _ h => (nomatch h)⟩, fun _ _ => rfl,
      fun _ h => (nomatch h)⟩
  | some primary =>
    obtain ⟨hpaged, hbound⟩ := (ctPaging_start fetch).run maxCtPages
    generalize CtPages.start.run fetch maxCtPages = run at hpaged hbound
    obtain ⟨pages, failure⟩ := run
    have hthree : pages.calls.length ≤ 3 := hbound
    cases failure with
    | some error =>
      exact ⟨hthree, hpaged.chained, fun _ _ => hpaged.failed (Option.some_ne_none _),
        fun _ h => (nomatch h)⟩
    | none =>
      obtain ⟨hcomplete, herrors⟩ :=
        observation_complete_iff parsers primary hpaged.errors
      refine ⟨hthree, hpaged.chained, fun _ h => (nomatch h), fun observation h => ?_⟩
      cases h
      refine ⟨primary, hprimary, ?_, ?_, hcomplete.trans herrors.symm, ?_⟩
      · rw [← hpaged.issuances]
        rfl
      · rw [← hpaged.issuances]
        rfl
      · rw [herrors, hpaged.complete, hpaged.issuances]

end Surface

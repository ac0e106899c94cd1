import Surface.Http.Inspect

/-!
# Surface.Http.Redirects

Redirects never take an inspection out of its scope.

* `Asking`: the invariant of the loop, from one request to the next.
* `Fetched`: what holds when the loop ends, in each of its five ways.
* `inspectInner_in_scope`: the requests and the observation of an endpoint.
-/

namespace Surface

variable {Url : Type} (library : UrlLibrary Url) (meeting : HttpMeeting Url) (initial : Url)

/-- The redirects lead along a list of URLs, from each to the next. -/
structure Along (redirects : List RedirectObservation) (urls : List Url) : Prop where
  sources : redirects.map RedirectObservation.source = urls.dropLast.map library.text
  destinations : redirects.map RedirectObservation.destination = urls.tail.map library.text

/-- Before a request: the URLs so far and the next one are in scope, and every redirect was
followed. -/
structure Asking (state : Fetch Url) : Prop where
  first : (state.requested ++ [state.current]).head? = some initial
  in_scope : ∀ url ∈ state.requested ++ [state.current], sameOrigin library initial url
  along : Along library state.redirects (state.requested ++ [state.current])
  bounded : state.redirects.length ≤ maxRedirects

/-- After the last request: at most one more redirect is recorded, to a URL out of scope. -/
structure Fetched (result : Except String HttpResponse) (fetch : Fetch Url) : Prop where
  first : fetch.requested.head? = some initial
  last : fetch.requested.getLast? = some fetch.current
  answered : meeting.get (fetch.requested.length - 1) = result
  in_scope : ∀ url ∈ fetch.requested, sameOrigin library initial url
  bounded : fetch.redirects.length ≤ maxRedirects
  along : ∃ outside : Option Url, (∀ url ∈ outside, ¬ sameOrigin library initial url) ∧
    Along library fetch.redirects (fetch.requested ++ outside.toList)

variable {library meeting initial}

theorem asking_start : Asking library initial ⟨initial, [], []⟩ where
  first := rfl
  in_scope url hurl := by
    rw [List.nil_append, List.mem_singleton] at hurl
    subst hurl
    exact ⟨rfl, rfl, rfl⟩
  along := ⟨rfl, rfl⟩
  bounded := Nat.zero_le _

variable {state : Fetch Url}

/-- A redirect is recorded from the current URL to the next. -/
theorem Along.record {redirects : List RedirectObservation} {requested : List Url}
    {current next : Url} (h : Along library redirects (requested ++ [current])) (status : Nat) :
    Along library (redirects ++ [⟨library.text current, status, library.text next⟩])
      (requested ++ [current] ++ [next]) := by
  obtain ⟨hsources, hdestinations⟩ := h
  constructor
  · rw [List.map_append, hsources, List.dropLast_concat, List.dropLast_concat, List.map_append]
    rfl
  · have htail : (requested ++ [current] ++ [next]).tail = (requested ++ [current]).tail ++ [next] :=
      List.tail_append_of_ne_nil (by simp)
    rw [List.map_append, hdestinations, htail, List.map_append]
    rfl

/-- The loop can end at any request. -/
theorem Asking.stop (h : Asking library initial state) {result : Except String HttpResponse}
    (hresult : meeting.get state.requested.length = result) :
    Fetched library meeting initial result
      { state with requested := state.requested ++ [state.current] } where
  first := h.first
  last := by simp
  answered := by simpa using hresult
  in_scope := h.in_scope
  bounded := h.bounded
  along := ⟨none, nofun, by simpa using h.along⟩

theorem Asking.length_eq (h : Asking library initial state) :
    state.requested.length = state.redirects.length := by
  have hlength := congrArg List.length h.along.sources
  simpa using hlength.symm

/-- A redirect out of scope is recorded, and ends the loop. -/
theorem Asking.leave (h : Asking library initial state) {response : HttpResponse}
    (hresult : meeting.get state.requested.length = .ok response)
    (hroom : state.redirects.length < maxRedirects) {next : Url}
    (hnext : ¬ sameOrigin library initial next) :
    Fetched library meeting initial (.ok response)
      { current := state.current
        redirects := state.redirects ++
          [⟨library.text state.current, response.status, library.text next⟩]
        requested := state.requested ++ [state.current] } where
  first := h.first
  last := by simp
  answered := by simpa using hresult
  in_scope := h.in_scope
  bounded := by simpa [Nat.succ_le_iff] using hroom
  along := ⟨some next, by simpa using hnext, h.along.record response.status⟩

theorem Asking.follow (h : Asking library initial state)
    (hroom : state.redirects.length < maxRedirects) {next : Url}
    (hnext : sameOrigin library initial next) (status : Nat) :
    Asking library initial
      { current := next
        redirects := state.redirects ++
          [⟨library.text state.current, status, library.text next⟩]
        requested := state.requested ++ [state.current] } where
  first := by
    rw [List.head?_append, h.first]
    rfl
  in_scope url hurl := by
    rcases List.mem_append.mp hurl with hurl | hurl
    · exact h.in_scope url hurl
    · rw [List.mem_singleton] at hurl
      subst hurl
      exact hnext
  along := h.along.record status
  bounded := by simpa [Nat.succ_le_iff] using hroom

theorem room_of_follow {status : Nat} {redirects : List RedirectObservation}
    (h : ¬ (!isRedirection status || decide (redirects.length ≥ maxRedirects)) = true) :
    redirects.length < maxRedirects := by
  simp only [Bool.or_eq_true, decide_eq_true_eq, not_or] at h
  exact not_le.mp h.2

/-- However the loop ends, the requests were in scope and the redirects lead along them. -/
theorem fetchPage_fetched (state : Fetch Url) (h : Asking library initial state) :
    Fetched library meeting initial (fetchPage library meeting initial state).1
      (fetchPage library meeting initial state).2 := by
  induction state using fetchPage.induct library meeting initial with
  | case1 state message hget =>
    rw [fetchPage, hget]
    exact h.stop hget
  | case2 state response hget hstop =>
    rw [fetchPage, hget]
    simp only [if_pos hstop]
    exact h.stop hget
  | case3 state response hget hgo hlocation =>
    rw [fetchPage, hget]
    simp only [if_neg hgo, hlocation]
    exact h.stop hget
  | case4 state response hget hgo location hlocation hjoin =>
    rw [fetchPage, hget]
    simp only [if_neg hgo, hlocation, hjoin]
    exact h.stop hget
  | case5 state response hget hgo location hlocation next hjoin hnext =>
    rw [fetchPage, hget]
    simp only [if_neg hgo, hlocation, hjoin, if_pos hnext]
    exact h.leave hget (room_of_follow hgo) hnext
  | case6 state asked response hget hgo location hlocation next hjoin recorded hnext ih =>
    rw [fetchPage, hget]
    simp only [if_neg hgo, hlocation, hjoin, if_neg hnext]
    exact ih (h.follow (room_of_follow hgo) (not_not.mp hnext) response.status)

/-! ## The observation of an endpoint -/

/-- The requests of an inspection stay in the origin of the first URL, and its redirects lead from
there along the requests, with at most one more step, out of scope, at the end. -/
structure InScope (library : UrlLibrary Url) (initial : Url) (requested : List Url)
    (redirects : List RedirectObservation) : Prop where
  requests_le : requested.length ≤ 6
  in_scope : ∀ url ∈ requested, library.scheme url = library.scheme initial ∧
    library.hostStr url = library.hostStr initial ∧
    library.portOrKnownDefault url = library.portOrKnownDefault initial
  redirects_le : redirects.length ≤ 5
  chain : redirects = [] ∨ requested.head? = some initial ∧ ∃ outside : Option Url,
    (∀ url ∈ outside, ¬ sameOrigin library initial url) ∧
      Along library redirects (requested ++ outside.toList)

theorem InScope.nothing (library : UrlLibrary Url) (initial : Url) :
    InScope library initial [] [] where
  requests_le := Nat.zero_le _
  in_scope := nofun
  redirects_le := Nat.zero_le _
  chain := .inl rfl

theorem Fetched.requests_le {result : Except String HttpResponse} {fetch : Fetch Url}
    (h : Fetched library meeting initial result fetch) : fetch.requested.length ≤ 6 := by
  obtain ⟨outside, _, halong⟩ := h.along
  have hlength := congrArg List.length halong.sources
  have hbounded := h.bounded
  simp only [List.length_map, List.length_dropLast, List.length_append] at hlength
  simp only [maxRedirects] at hbounded
  omega

/-- An observation repeats the redirects of the loop, or has none after an error. -/
theorem Fetched.inScope {result : Except String HttpResponse} {fetch : Fetch Url}
    (h : Fetched library meeting initial result fetch) {redirects : List RedirectObservation}
    (hredirects : redirects = [] ∨ redirects = fetch.redirects) :
    InScope library initial fetch.requested redirects := by
  refine ⟨h.requests_le, fun url hurl => ?_, ?_, hredirects.imp id ?_⟩
  · obtain ⟨hscheme, hhost, hport⟩ := h.in_scope url hurl
    exact ⟨hscheme.symm, hhost.symm, hport.symm⟩
  · rcases hredirects with rfl | rfl
    · exact Nat.zero_le _
    · exact h.bounded
  · rintro rfl
    exact ⟨h.first, h.along⟩

/-- What an inspection gives, from its first URL if the text of the endpoint is one: the
observation and the GET requests. -/
structure Inspected (library : UrlLibrary Url) (meeting : HttpMeeting Url) (first : Option Url)
    (observation : HttpObservation) (requested : List Url) : Prop where
  in_scope : ∀ initial ∈ first, InScope library initial requested observation.redirects
  no_url : first = none → requested = [] ∧ observation.redirects = []
  answered : observation.error = none → ∃ last response, requested.getLast? = some last ∧
    meeting.get (requested.length - 1) = .ok response ∧
    observation.finalUrl = some (library.text last) ∧
    observation.status = some response.status ∧ observation.headers = selectedHeaders response

/-- Whatever the server answers, no request leaves the origin of the first URL, and a successful
observation describes the answer to the last request. -/
theorem inspectInner_in_scope (library : UrlLibrary Url) (platform : Platform)
    (meeting : HttpMeeting Url) (target : NormalizedTarget) (service : ServiceObservation) :
    Inspected library meeting (library.parse (endpointUrl target service))
      (inspectInner library platform meeting target service).1
      (inspectInner library platform meeting target service).2 := by
  unfold inspectInner
  dsimp only
  generalize endpointUrl target service = urlText
  cases library.parse urlText with
  | none => exact ⟨nofun, fun _ => ⟨rfl, rfl⟩, nofun⟩
  | some initial =>
    dsimp only
    split
    · refine ⟨?_, nofun, nofun⟩
      rintro _ ⟨⟩
      exact .nothing library initial
    · have hfetched := @fetchPage_fetched _ library meeting initial _ asking_start
      generalize fetchPage library meeting initial ⟨initial, [], []⟩ = fetched at *
      obtain ⟨message | response, fetch⟩ := fetched
      · refine ⟨?_, nofun, nofun⟩
        rintro _ ⟨⟩
        exact hfetched.inScope (.inl rfl)
      · refine ⟨?_, nofun, fun _ => ⟨fetch.current, response, hfetched.last, hfetched.answered,
          rfl, rfl, rfl⟩⟩
        rintro _ ⟨⟩
        exact hfetched.inScope (.inr rfl)

end Surface

import Surface.Model.Report

/-!
# Surface.Intelligence.Supplied

The explicitly supplied intelligence: child domains, DKIM selectors and the offline bundle.

`analyzeIntelligence_sources` is what the rest of a scan relies on: the observation carries
nothing of the network, certificate or related-domain sources.
-/

namespace Surface

def maxSubdomains : Nat := 32
def maxSelectors : Nat := 32

/-- A supplied child domain, the look at token and clock before it, and what its DNS analysis
came to. -/
structure SuppliedSubdomain where
  input : String
  before : Reading
  analysis : Awaited (Except String DnsObservation)

structure SuppliedSelector where
  selector : String
  before : Reading
  lookup : Awaited (Except String (List String))

/-- A parsed bundle, reduced to its version and what it correlates to in this report. -/
structure SuppliedBundle where
  schemaVersion : String
  networks : List NetworkMetadata
  cveCandidates : List CveCandidate

namespace IntelligenceObservation

def recordStop (observation : IntelligenceObservation) (reason : String) :
    IntelligenceObservation :=
  { observation with
    complete := false
    errors :=
      if reason ∈ observation.errors then observation.errors else observation.errors ++ [reason] }

def addSubdomain (observation : IntelligenceObservation) (name : String) :
    Except String DnsObservation → IntelligenceObservation
  | .ok dns => { observation with subdomains := observation.subdomains ++ [⟨name, some dns, none⟩] }
  | .error error =>
    { observation with
      complete := false
      subdomains := observation.subdomains ++ [⟨name, none, some error⟩] }

def addDkim (observation : IntelligenceObservation)
    (parseDkim : String → List String → DkimObservation) (selector : String) :
    Except String (List String) → IntelligenceObservation
  | .ok records => { observation with dkim := observation.dkim ++ [parseDkim selector records] }
  | .error error =>
    { observation with
      complete := false
      errors := observation.errors ++ ["DKIM selector " ++ selector ++ ": " ++ error]
      dkim := observation.dkim ++ [parseDkim selector []] }

end IntelligenceObservation

def intelligenceCancelled : String := "intelligence collection was cancelled"
def intelligenceElapsed : String := "intelligence collection deadline elapsed"

/-- Letters, digits, `-` and `_`, at least one and at most 63 of them. -/
def validSelector (value : String) : Bool :=
  !value.isEmpty && decide (value.utf8ByteSize ≤ 63) &&
    value.toList.all (fun c => c.isAlphanum || c = '-' || c = '_')

section Supplied

variable (normalizeTarget : String → Option NormalizedTarget)
  (parseDkim : String → List String → DkimObservation)

/-- The hostname of a supplied child domain, which must be new and below the primary one. -/
def subdomainName (primary : String) (names : OrdSet String) (input : String) :
    Except String String :=
  match normalizeTarget input with
  | none => .error "invalid supplied subdomain"
  | some target =>
    match target.hostname with
    | none => .error "supplied subdomain must be a hostname"
    | some name =>
      if name = primary ∨ ("." ++ primary).toList.isSuffixOf name.toList = false ∨ name ∈ names then
        .error "supplied subdomain is outside the primary domain or duplicated"
      else if (normalizeTarget name).isNone then .error "invalid supplied subdomain"
      else .ok name

def collectSubdomains (primary : String) : List SuppliedSubdomain → OrdSet String →
    IntelligenceObservation → Except String IntelligenceObservation
  | [], _, observation => .ok observation
  | supplied :: rest, names, observation =>
    if supplied.before.cancelled then .ok (observation.recordStop intelligenceCancelled)
    else if supplied.before.expired then .ok (observation.recordStop intelligenceElapsed)
    else
      match subdomainName normalizeTarget primary names supplied.input with
      | .error message => .error message
      | .ok name =>
        match supplied.analysis with
        | .cancelled => .ok (observation.recordStop intelligenceCancelled)
        | .timedOut => .ok (observation.recordStop intelligenceElapsed)
        | .ready result =>
          collectSubdomains primary rest (names.insert name) (observation.addSubdomain name result)

def collectSelectors : List SuppliedSelector → IntelligenceObservation →
    Except String IntelligenceObservation
  | [], observation => .ok observation
  | supplied :: rest, observation =>
    if supplied.before.cancelled then .ok (observation.recordStop intelligenceCancelled)
    else if supplied.before.expired then .ok (observation.recordStop intelligenceElapsed)
    else if validSelector supplied.selector = false then .error "invalid DKIM selector"
    else
      match supplied.lookup with
      | .cancelled => .ok (observation.recordStop intelligenceCancelled)
      | .timedOut => .ok (observation.recordStop intelligenceElapsed)
      | .ready result =>
        collectSelectors rest (observation.addDkim parseDkim supplied.selector result)

def IntelligenceObservation.correlate (observation : IntelligenceObservation)
    (bundle : Option SuppliedBundle) : IntelligenceObservation :=
  match bundle with
  | some bundle =>
    if observation.complete then
      { observation with networks := bundle.networks, cveCandidates := bundle.cveCandidates }
    else observation
  | none => observation

def analyzeIntelligence (report : ScanReport) (subdomains : List SuppliedSubdomain)
    (selectors : List SuppliedSelector) (bundle : Option SuppliedBundle) :
    Except String IntelligenceObservation :=
  match report.target.hostname with
  | none => .error "intelligence inputs require a domain target"
  | some primary =>
    if maxSubdomains < subdomains.length ∨ maxSelectors < selectors.length then
      .error "too many supplied intelligence inputs"
    else
      match collectSubdomains normalizeTarget primary subdomains .empty
          { complete := true, bundleVersion := bundle.map SuppliedBundle.schemaVersion } with
      | .error message => .error message
      | .ok observation =>
        match collectSelectors parseDkim selectors observation with
        | .error message => .error message
        | .ok observation =>
          let observation := observation.correlate bundle
          .ok { observation with
            subdomains := sortBy SubdomainObservation.name observation.subdomains
            dkim := sortBy DkimObservation.selector observation.dkim }

/-- Nothing in the observation stems from a source that looks up the network. -/
structure IntelligenceObservation.SuppliedOnly (observation : IntelligenceObservation) : Prop where
  relatedDomains : observation.relatedDomains = none
  certificateTransparency : observation.certificateTransparency = none
  networkRegistrations : observation.networkRegistrations = []
  bgpRoutes : observation.bgpRoutes = []

variable {normalizeTarget parseDkim}

/-- What every stop and every result keeps, the loop keeps. -/
theorem collectSubdomains_preserves (holds : IntelligenceObservation → Prop)
    (hstop : ∀ observation reason, holds observation → holds (observation.recordStop reason))
    (hadd : ∀ observation name result, holds observation →
      holds (observation.addSubdomain name result))
    {primary : String} {subdomains : List SuppliedSubdomain} {names : OrdSet String}
    {observation result : IntelligenceObservation} (h : holds observation)
    (hr : collectSubdomains normalizeTarget primary subdomains names observation = .ok result) :
    holds result := by
  induction subdomains generalizing names observation with
  | nil =>
    cases hr
    exact h
  | cons supplied rest ih =>
    simp only [collectSubdomains] at hr
    split at hr
    · cases hr
      exact hstop _ _ h
    · split at hr
      · cases hr
        exact hstop _ _ h
      · split at hr
        · cases hr
        · split at hr
          · cases hr
            exact hstop _ _ h
          · cases hr
            exact hstop _ _ h
          · exact ih (hadd _ _ _ h) hr

theorem collectSelectors_preserves (holds : IntelligenceObservation → Prop)
    (hstop : ∀ observation reason, holds observation → holds (observation.recordStop reason))
    (hadd : ∀ observation selector result, holds observation →
      holds (observation.addDkim parseDkim selector result))
    {selectors : List SuppliedSelector} {observation result : IntelligenceObservation}
    (h : holds observation)
    (hr : collectSelectors parseDkim selectors observation = .ok result) : holds result := by
  induction selectors generalizing observation with
  | nil =>
    cases hr
    exact h
  | cons supplied rest ih =>
    simp only [collectSelectors] at hr
    split at hr
    · cases hr
      exact hstop _ _ h
    · split at hr
      · cases hr
        exact hstop _ _ h
      · split at hr
        · cases hr
        · split at hr
          · cases hr
            exact hstop _ _ h
          · cases hr
            exact hstop _ _ h
          · exact ih (hadd _ _ _ h) hr

theorem suppliedOnly_recordStop (observation : IntelligenceObservation) (reason : String)
    (h : observation.SuppliedOnly) : (observation.recordStop reason).SuppliedOnly :=
  ⟨h.1, h.2, h.3, h.4⟩

theorem suppliedOnly_addSubdomain (observation : IntelligenceObservation) (name : String)
    (result : Except String DnsObservation) (h : observation.SuppliedOnly) :
    (observation.addSubdomain name result).SuppliedOnly := by
  cases result <;> exact ⟨h.1, h.2, h.3, h.4⟩

theorem suppliedOnly_addDkim (observation : IntelligenceObservation) (selector : String)
    (result : Except String (List String)) (h : observation.SuppliedOnly) :
    (observation.addDkim parseDkim selector result).SuppliedOnly := by
  cases result <;> exact ⟨h.1, h.2, h.3, h.4⟩

theorem suppliedOnly_correlate {observation : IntelligenceObservation}
    (h : observation.SuppliedOnly) (bundle : Option SuppliedBundle) :
    (observation.correlate bundle).SuppliedOnly := by
  unfold IntelligenceObservation.correlate
  split
  · split
    · exact ⟨h.1, h.2, h.3, h.4⟩
    · exact h
  · exact h

theorem analyzeIntelligence_sources {report : ScanReport} {subdomains : List SuppliedSubdomain}
    {selectors : List SuppliedSelector} {bundle : Option SuppliedBundle}
    {result : IntelligenceObservation}
    (hr : analyzeIntelligence normalizeTarget parseDkim report subdomains selectors bundle =
      .ok result) : result.SuppliedOnly := by
  unfold analyzeIntelligence at hr
  split at hr
  · cases hr
  · split at hr
    · cases hr
    · split at hr
      · cases hr
      · rename_i _ hsub
        split at hr
        · cases hr
        · rename_i _ hsel
          cases hr
          have h₁ := collectSubdomains_preserves _ suppliedOnly_recordStop suppliedOnly_addSubdomain
            ⟨rfl, rfl, rfl, rfl⟩ hsub
          have h₂ := collectSelectors_preserves _ suppliedOnly_recordStop suppliedOnly_addDkim h₁
            hsel
          have h₃ := suppliedOnly_correlate h₂ bundle
          exact ⟨h₃.1, h₃.2, h₃.3, h₃.4⟩

end Supplied

end Surface

import Surface.Report.DiffSymmetry

/-!
# Surface.Report.DiffHttp

Which HTTP differences a diff shows.

* `HttpView`, `ServiceView`: what the comparison looks at; `httpValue_inj` and `serviceValue_inj`
  say that their JSON values lose nothing of it.
* `httpMap_eq_iff`: of the observations listed under one URL only the last one counts.
* `diffReports_httpComplete_iff`: a difference between endpoints shows exactly when it reaches one
  of these last observations, or the services differ as well.
-/

namespace Surface

open Json

/-! ## What the values keep -/

structure HttpView where
  finalUrl : Option String
  status : Option Nat
  redirects : List RedirectObservation
  headers : OrdMap String String
  cookies : List CookieObservation
  robotsTxt : Option Bool
  securityTxt : Option Bool
  sitemapXml : Option Bool
deriving DecidableEq

def HttpObservation.view (http : HttpObservation) : HttpView :=
  ⟨http.finalUrl, http.status, http.redirects, http.headers, http.cookies, http.robotsTxt,
    http.securityTxt, http.sitemapXml⟩

structure ServiceView where
  transport : TransportProtocol
  service : ServiceKind
  confidence : DetectionConfidence
  banner : Option String
  protocolDetails : OrdMap String String
  ssh : Option SshPosture
deriving DecidableEq

def ServiceObservation.view (service : ServiceObservation) : ServiceView :=
  ⟨service.transport, service.service, service.confidence, service.banner,
    service.protocolDetails, service.ssh⟩

theorem optString_injective : Function.Injective optString :=
  ofOption_injective string_injective (fun _ h => (by cases h))

theorem optBool_injective : Function.Injective optBool :=
  ofOption_injective bool_injective (fun _ h => (by cases h))

theorem optNat_injective : Function.Injective optNat :=
  ofOption_injective ofNat_injective (fun _ h => (by cases h))

theorem redirect_injective : Function.Injective RedirectObservation.toJson := by
  rintro ⟨source, status, destination⟩ ⟨source', status', destination'⟩ h
  have hmembers := mapOf_members h rfl (by simp)
  simp only [List.cons.injEq, Prod.mk.injEq, true_and, and_true, Json.string.injEq] at hmembers
  obtain ⟨hsource, hstatus, hdestination⟩ := hmembers
  rw [hsource, ofNat_injective hstatus, hdestination]

theorem cookie_injective : Function.Injective CookieObservation.toJson := by
  rintro ⟨name, secure, httpOnly, sameSite, domain, path⟩
    ⟨name', secure', httpOnly', sameSite', domain', path'⟩ h
  have hmembers := mapOf_members h rfl (by simp)
  simp only [List.cons.injEq, Prod.mk.injEq, true_and, and_true, Json.string.injEq,
    Json.bool.injEq] at hmembers
  obtain ⟨hname, hsecure, hhttp, hsame, hdomain, hpath⟩ := hmembers
  rw [hname, hsecure, hhttp, optString_injective hsame, optString_injective hdomain,
    optString_injective hpath]

theorem httpValue_inj {a b : HttpObservation} : httpValue a = httpValue b ↔ a.view = b.view := by
  constructor
  · intro h
    have hmembers := mapOf_members h rfl (by simp)
    simp only [List.cons.injEq, Prod.mk.injEq, true_and, and_true] at hmembers
    obtain ⟨hfinal, hstatus, hredirects, hheaders, hcookies, hrobots, hsecurity, hsitemap⟩ :=
      hmembers
    simp only [HttpObservation.view, HttpView.mk.injEq]
    exact ⟨optString_injective hfinal, optNat_injective hstatus,
      ofList_injective redirect_injective hredirects, ofMap_injective string_injective hheaders,
      ofList_injective cookie_injective hcookies, optBool_injective hrobots,
      optBool_injective hsecurity, optBool_injective hsitemap⟩
  · intro h
    simp only [HttpObservation.view, HttpView.mk.injEq] at h
    obtain ⟨hfinal, hstatus, hredirects, hheaders, hcookies, hrobots, hsecurity, hsitemap⟩ := h
    unfold httpValue
    rw [hfinal, hstatus, hredirects, hheaders, hcookies, hrobots, hsecurity, hsitemap]

theorem transport_name_injective : Function.Injective TransportProtocol.name := by
  intro a b h
  cases a <;> cases b <;> simp [TransportProtocol.name] at h ⊢

theorem confidence_name_injective : Function.Injective DetectionConfidence.name := by
  intro a b h
  cases a <;> cases b <;> simp [DetectionConfidence.name] at h ⊢

theorem identification_injective : Function.Injective SshIdentification.toJson := by
  rintro ⟨protocol, software⟩ ⟨protocol', software'⟩ h
  have hmembers := mapOf_members h rfl (by simp)
  simp only [List.cons.injEq, Prod.mk.injEq, true_and, and_true, Json.string.injEq] at hmembers
  rw [hmembers.1, hmembers.2]

theorem selections_injective : Function.Injective SshAlgorithmSelections.toJson := by
  rintro ⟨k, h, c, c', m, m'⟩ ⟨k₂, h₂, c₂, c₂', m₂, m₂'⟩ heq
  have hmembers := mapOf_members heq rfl (by simp)
  simp only [List.cons.injEq, Prod.mk.injEq, true_and, and_true, Json.string.injEq] at hmembers
  obtain ⟨rfl, rfl, rfl, rfl, rfl, rfl⟩ := hmembers
  rfl

theorem partialSelections_injective : Function.Injective PartialSshAlgorithmSelections.toJson := by
  rintro ⟨k, h, c, c', m, m'⟩ ⟨k₂, h₂, c₂, c₂', m₂, m₂'⟩ heq
  have hmembers := mapOf_members heq rfl (by simp)
  simp only [List.cons.injEq, Prod.mk.injEq, true_and, and_true,
    optString_injective.eq_iff] at hmembers
  obtain ⟨rfl, rfl, rfl, rfl, rfl, rfl⟩ := hmembers
  rfl

/-- The tag under which an outcome is written. -/
def SshPostureOutcome.status : SshPostureOutcome → String
  | complete _ => "complete"
  | partialPosture _ _ => "partial"
  | indeterminate _ => "indeterminate"

theorem field?_status (outcome : SshPostureOutcome) :
    outcome.toJson.field? "status" = some (.string outcome.status) := by
  cases outcome <;> (unfold SshPostureOutcome.toJson; rw [field?_mapOf]; rfl)

theorem status_of_toJson {a b : SshPostureOutcome} (h : a.toJson = b.toJson) :
    a.status = b.status := by
  have hfield := congrArg (field? "status") h
  rw [field?_status, field?_status] at hfield
  exact Json.string.inj (Option.some.inj hfield)

theorem outcome_injective : Function.Injective SshPostureOutcome.toJson := by
  intro a b h
  have hstatus := status_of_toJson h
  cases a with
  | complete selections =>
    cases b with
    | complete selections' =>
      have hmembers := mapOf_members h rfl (by simp)
      simp only [List.cons.injEq, Prod.mk.injEq, true_and, and_true] at hmembers
      rw [selections_injective hmembers]
    | partialPosture selections' reason => simp [SshPostureOutcome.status] at hstatus
    | indeterminate reason => simp [SshPostureOutcome.status] at hstatus
  | partialPosture selections reason =>
    cases b with
    | complete selections' => simp [SshPostureOutcome.status] at hstatus
    | partialPosture selections' reason' =>
      have hmembers := mapOf_members h rfl (by simp)
      simp only [List.cons.injEq, Prod.mk.injEq, true_and, and_true, Json.string.injEq] at hmembers
      rw [partialSelections_injective hmembers.1, hmembers.2]
    | indeterminate reason' => simp [SshPostureOutcome.status] at hstatus
  | indeterminate reason =>
    cases b with
    | complete selections' => simp [SshPostureOutcome.status] at hstatus
    | partialPosture selections' reason' => simp [SshPostureOutcome.status] at hstatus
    | indeterminate reason' =>
      have hmembers := mapOf_members h rfl (by simp)
      simp only [List.cons.injEq, Prod.mk.injEq, true_and, and_true, Json.string.injEq] at hmembers
      rw [hmembers]

theorem posture_injective : Function.Injective SshPosture.toJson := by
  rintro ⟨identification, outcome⟩ ⟨identification', outcome'⟩ h
  have hmembers := mapOf_members h rfl (by simp)
  simp only [List.cons.injEq, Prod.mk.injEq, true_and, and_true] at hmembers
  rw [ofOption_injective identification_injective (fun _ => mapOf_ne_null _) hmembers.1,
    outcome_injective hmembers.2]

def ServiceKind.all : List ServiceKind :=
  [.http, .https, .ssh, .smtp, .smtps, .ftp, .imap, .imaps, .pop3, .pop3s, .dns, .redis, .mysql,
    .postgresql, .mqtt, .mssql, .oracle, .mongodb, .memcached, .elasticsearch, .rabbitmq, .kafka,
    .cassandra, .clickhouse, .neo4j, .smb, .nfs, .rdp, .vnc, .docker, .kubernetes, .prometheus,
    .grafana, .wireguard, .stunTurn, .netbird, .minecraftJava, .minecraftBedrock, .terraria,
    .valheim, .factorio, .sourceEngine, .tls, .unknown]

theorem ServiceKind.mem_all (kind : ServiceKind) : kind ∈ ServiceKind.all := by
  cases kind <;> decide

theorem service_name_injective : Function.Injective ServiceKind.name := by
  have hnodup : (ServiceKind.all.map ServiceKind.name).Nodup := by decide +kernel
  intro a b h
  exact List.inj_on_of_nodup_map hnodup a.mem_all b.mem_all h

theorem serviceValue_inj {a b : ServiceObservation} :
    serviceValue a = serviceValue b ↔ a.view = b.view := by
  constructor
  · intro h
    have hmembers := mapOf_members h rfl (by simp)
    simp only [List.cons.injEq, Prod.mk.injEq, true_and, and_true, Json.string.injEq] at hmembers
    obtain ⟨htransport, hservice, hconfidence, hbanner, hdetails, hssh⟩ := hmembers
    simp only [ServiceObservation.view, ServiceView.mk.injEq]
    exact ⟨transport_name_injective htransport, service_name_injective hservice,
      confidence_name_injective hconfidence, optString_injective hbanner,
      ofMap_injective string_injective hdetails,
      ofOption_injective posture_injective (fun _ => mapOf_ne_null _) hssh⟩
  · intro h
    simp only [ServiceObservation.view, ServiceView.mk.injEq] at h
    obtain ⟨htransport, hservice, hconfidence, hbanner, hdetails, hssh⟩ := h
    unfold serviceValue
    rw [htransport, hservice, hconfidence, hbanner, hdetails, hssh]

/-! ## Last observations -/

/-- The observation listed last under a URL. -/
def lastHttp (report : ScanReport) (url : String) : Option HttpObservation :=
  report.http.reverse.find? fun http => http.url = url

/-- The observation listed last under the key of an endpoint. -/
def lastService (report : ScanReport) (key : String) : Option ServiceObservation :=
  report.services.reverse.find? fun service =>
    endpointKey service.transport service.address = key

/-- Keyed values agree exactly when, key by key, the last elements look the same. -/
theorem ofList_eq_iff {α β : Type} {key : α → String} {value : α → Json} {view : α → β}
    (hview : ∀ a b, value a = value b ↔ view a = view b) (l l' : List α) :
    OrdMap.ofList (l.map fun a => (key a, value a)) =
        OrdMap.ofList (l'.map fun a => (key a, value a)) ↔
      ∀ k, (l.reverse.find? fun a => key a = k).map view =
        (l'.reverse.find? fun a => key a = k).map view := by
  have hget : ∀ (m : List α) (k : String),
      (OrdMap.ofList (m.map fun a => (key a, value a))).get k =
        (m.reverse.find? fun a => key a = k).map value := by
    intro m k
    rw [OrdMap.get_ofList, ← List.map_reverse, OrdMap.lookup_map]
  have hoption : ∀ o o' : Option α, o.map value = o'.map value ↔ o.map view = o'.map view := by
    intro o o'
    cases o <;> cases o' <;> simp [hview]
  constructor
  · intro h k
    rw [← hoption, ← hget, ← hget, h]
  · intro h
    refine OrdMap.ext_get (fun k => ?_)
    rw [hget, hget, hoption]
    exact h k

theorem httpMap_eq_iff (old new : ScanReport) :
    httpMap old = httpMap new ↔
      ∀ url, (lastHttp old url).map HttpObservation.view =
        (lastHttp new url).map HttpObservation.view :=
  ofList_eq_iff (fun _ _ => httpValue_inj) old.http new.http

theorem serviceMap_eq_iff (old new : ScanReport) :
    serviceMap old = serviceMap new ↔
      ∀ key, (lastService old key).map ServiceObservation.view =
        (lastService new key).map ServiceObservation.view :=
  ofList_eq_iff (fun _ _ => serviceValue_inj) old.services new.services

/-! ## Differences between endpoints -/

def HttpObservation.pair (http : HttpObservation) : SocketAddr × String := (http.address, http.url)

/-- Some pair of address and URL is present on one side only, or on both sides with a different
observation. -/
def httpDiffers (old new : ScanReport) : Prop :=
  (∃ http ∈ old.http, ∀ other ∈ new.http, other.pair ≠ http.pair) ∨
  (∃ http ∈ new.http, ∀ other ∈ old.http, other.pair ≠ http.pair) ∨
  ∃ http ∈ old.http, ∃ other ∈ new.http, http.pair = other.pair ∧ http.view ≠ other.view

instance (old new : ScanReport) : Decidable (httpDiffers old new) :=
  inferInstanceAs (Decidable (_ ∨ _ ∨ _))

theorem serviceChanges_eq_nil_iff (old new : ScanReport) (target : String) :
    serviceChanges old new target = [] ↔
      serviceMap old = serviceMap new ∧ httpMap old = httpMap new := by
  unfold serviceChanges
  rw [sortChanges_eq_nil, List.append_eq_nil_iff, compareMaps_eq_nil_iff, compareMaps_eq_nil_iff]

/-- A difference between HTTP endpoints is shown exactly when there is none, or the last
observation under some URL differs, or the services differ too. -/
theorem diffReports_httpComplete_iff {old new : ScanReport} {d : ScanDiff}
    (h : diffReports old new = .ok d) :
    (httpDiffers old new → d.serviceChanges ≠ []) ↔
      (¬ httpDiffers old new ∨
        (∃ url, (lastHttp old url).map HttpObservation.view ≠
          (lastHttp new url).map HttpObservation.view) ∨
        ∃ key, (lastService old key).map ServiceObservation.view ≠
          (lastService new key).map ServiceObservation.view) := by
  obtain ⟨_, _, rfl⟩ := diffReports_ok_iff.mp h
  have hsection : (compareReports old new old.target.identity old.target.identity).serviceChanges =
      serviceChanges old new old.target.identity := rfl
  rw [hsection, imp_iff_not_or, ne_eq, serviceChanges_eq_nil_iff, httpMap_eq_iff,
    serviceMap_eq_iff, not_and_or, not_forall, not_forall]
  exact or_congr_right or_comm

/-! ## One URL on two addresses -/

def fixtureHttp (host : Nat) (status : Nat) : HttpObservation where
  address := ⟨IpAddr.ofOctets 192 0 2 host, 443⟩
  url := "https://example.com/"
  finalUrl := some "https://example.com/"
  status := some status
  version := none
  latencyMs := none
  redirects := []
  headers := .empty
  cookies := []
  title := none
  bodyBytes := 0
  bodyTruncated := false
  robotsTxt := none
  securityTxt := none
  sitemapXml := none
  error := none

/-- Two addresses serve the same URL; only the first one answers with the given status. -/
def twoAddresses (status : Nat) : ScanReport :=
  { fixtureReport with http := [fixtureHttp 1 status, fixtureHttp 2 200] }

theorem diffReports_twoAddresses (status status' : Nat) :
    diffReports (twoAddresses status) (twoAddresses status') =
      .ok (compareReports (twoAddresses status) (twoAddresses status') "example.com"
        "example.com") :=
  diffReports_ok_iff.mpr ⟨rfl, ⟨"typed-ssh", rfl, rfl⟩, rfl⟩

theorem diffReports_httpComplete_twoAddresses :
    (httpDiffers (twoAddresses 200) (twoAddresses 500) →
        (compareReports (twoAddresses 200) (twoAddresses 500) "example.com"
          "example.com").serviceChanges ≠ []) ↔
      (¬ httpDiffers (twoAddresses 200) (twoAddresses 500) ∨
        (∃ url, (lastHttp (twoAddresses 200) url).map HttpObservation.view ≠
          (lastHttp (twoAddresses 500) url).map HttpObservation.view) ∨
        ∃ key, (lastService (twoAddresses 200) key).map ServiceObservation.view ≠
          (lastService (twoAddresses 500) key).map ServiceObservation.view) :=
  diffReports_httpComplete_iff (diffReports_twoAddresses 200 500)

theorem http_change_of_first_address_lost :
    ((twoAddresses 200).http.map HttpObservation.pair).Nodup ∧
      ((twoAddresses 500).http.map HttpObservation.pair).Nodup ∧
      httpDiffers (twoAddresses 200) (twoAddresses 500) ∧
      ∃ d, diffReports (twoAddresses 200) (twoAddresses 500) = .ok d ∧ d.serviceChanges = [] :=
  ⟨by decide, by decide, by decide, _, diffReports_twoAddresses 200 500, by decide +kernel⟩

end Surface

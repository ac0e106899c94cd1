import Surface.Report.DiffLaws

/-!
# Surface.Report.DiffSymmetry

Exchanging two reports exchanges the sides of every change, and a report never differs from
itself.

* `networkChanges_swap`, `serviceChanges_swap`, `dnsChanges_swap`, `completenessChanges_swap`,
  `scoreChange_swap`: one section at a time.
* `summarize_swap`: additions and removals trade places in the counts.
* `diffReports_symmetric_reflexive`: the diff as a whole.
-/

namespace Surface

section Sections

variable (old new : ScanReport) (target : String)

theorem networkChanges_swap :
    networkChanges new old target = (networkChanges old new target).map Change.swap := by
  have hsets := keyed_compareSets "ip_address" target "medium" (ipSet old) (ipSet new)
  have hmaps := keyed_compareMaps "port" target "medium" (portMap old) (portMap new)
  unfold networkChanges
  refine sortChanges_swap (hsets.distinct.append ["ip_address"]
    (fun c hc => by simp [hsets.category c hc]) hmaps (by decide)) ?_
  rw [List.map_append, ← compareMaps_swap]
  exact (compareSets_swap "ip_address" target "medium" (ipSet old) (ipSet new)).append_right _

theorem serviceChanges_swap :
    serviceChanges new old target = (serviceChanges old new target).map Change.swap := by
  have hservices := keyed_compareMaps "service" target "medium" (serviceMap old) (serviceMap new)
  have hhttp := keyed_compareMaps "http_endpoint" target "medium" (httpMap old) (httpMap new)
  unfold serviceChanges
  refine sortChanges_swap (hservices.distinct.append ["service"]
    (fun c hc => by simp [hservices.category c hc]) hhttp (by decide)) ?_
  rw [List.map_append, ← compareMaps_swap, ← compareMaps_swap]

theorem dnsChanges_swap :
    dnsChanges new old target = (dnsChanges old new target).map Change.swap := by
  have hrecords := keyed_compareSets "dns_record" target "medium" (recordSet old) (recordSet new)
  have hmail := keyed_compareValues "mail_policy" target "high" (mailValue old) (mailValue new)
  have hintelligence := keyed_compareValues "passive_intelligence" target "medium"
    (old.intelligence.map intelligenceValue) (new.intelligence.map intelligenceValue)
  unfold dnsChanges
  have htwo := hrecords.distinct.append ["dns_record"]
    (fun c hc => by simp [hrecords.category c hc]) hmail (by decide)
  refine sortChanges_swap (htwo.append ["dns_record", "mail_policy"]
    (fun c hc => ?_) hintelligence (by decide)) ?_
  · rcases List.mem_append.mp hc with hc | hc
    · simp [hrecords.category c hc]
    · simp [hmail.category c hc]
  · rw [List.map_append, List.map_append, ← compareValues_swap, ← compareValues_swap]
    exact ((compareSets_swap "dns_record" target "medium" (recordSet old)
      (recordSet new)).append_right _).append_right _

theorem completenessChanges_swap :
    completenessChanges new old target = (completenessChanges old new target).map Change.swap :=
  compareValues_swap "scan_completeness" target "high" _ _

theorem scoreChange_swap :
    (scoreChange new old target).1 = (scoreChange old new target).1.map Change.swap := by
  unfold scoreChange
  cases hold : old.exposureScore with
  | none => cases hnew : new.exposureScore <;> rfl
  | some oldScore =>
    cases hnew : new.exposureScore with
    | none => rfl
    | some newScore =>
      simp only
      by_cases hmodel : oldScore.modelVersion = newScore.modelVersion
      · rw [if_pos hmodel.symm, if_pos hmodel]
        by_cases hscore : oldScore = newScore
        · simp [hscore]
        · rw [if_pos (Ne.symm hscore), if_pos hscore]
          rfl
      · rw [if_neg (Ne.symm hmodel), if_neg hmodel]
        rfl

end Sections

/-! ## Counts -/

def DiffSummary.swap (summary : DiffSummary) : DiffSummary :=
  ⟨summary.removed, summary.added, summary.changed⟩

theorem DiffSummary.of_eq_swap {summary summary' : DiffSummary} (h : summary' = summary.swap) :
    summary'.added = summary.removed ∧ summary'.removed = summary.added ∧
      summary'.changed = summary.changed := by
  subst h
  exact ⟨rfl, rfl, rfl⟩

theorem count_swap (summary : DiffSummary) (c : Change) :
    summary.swap.count c.swap = (summary.count c).swap := by
  unfold DiffSummary.count Change.swap
  cases c.oldValue <;> cases c.newValue <;> rfl

theorem summarize_swap (changes : List Change) :
    summarize (changes.map Change.swap) = (summarize changes).swap := by
  have hrun : ∀ summary : DiffSummary,
      (changes.map Change.swap).foldl DiffSummary.count summary.swap =
        (changes.foldl DiffSummary.count summary).swap := by
    induction changes with
    | nil =>
      intro summary
      rfl
    | cons c changes ih =>
      intro summary
      rw [List.map_cons, List.foldl_cons, List.foldl_cons, count_swap]
      exact ih (summary.count c)
  exact hrun ⟨0, 0, 0⟩

/-! ## The whole diff -/

/-- `e` lists the changes of `d` in the same order, seen from the other side. -/
structure ScanDiff.Mirrors (d e : ScanDiff) : Prop where
  network : e.networkChanges = d.networkChanges.map Change.swap
  service : e.serviceChanges = d.serviceChanges.map Change.swap
  certificate : e.certificateChanges = d.certificateChanges.map Change.swap
  dns : e.dnsChanges = d.dnsChanges.map Change.swap
  finding : e.findingChanges = d.findingChanges.map Change.swap
  score : e.scoreChange = d.scoreChange.map Change.swap
  completeness : e.completenessChanges = d.completenessChanges.map Change.swap
  added : e.summary.added = d.summary.removed
  removed : e.summary.removed = d.summary.added
  changed : e.summary.changed = d.summary.changed

/-- No section lists a change, and nothing is counted. -/
structure ScanDiff.Unchanged (d : ScanDiff) : Prop where
  network : d.networkChanges = []
  service : d.serviceChanges = []
  certificate : d.certificateChanges = []
  dns : d.dnsChanges = []
  finding : d.findingChanges = []
  score : d.scoreChange = none
  completeness : d.completenessChanges = []
  summary : d.summary = ⟨0, 0, 0⟩

theorem compareReports_mirrors (old new : ScanReport) (target : String) :
    (compareReports old new target target).Mirrors (compareReports new old target target) := by
  have hnetwork := networkChanges_swap old new target
  have hservice := serviceChanges_swap old new target
  have hcertificate := compareMaps_swap "certificate" target "high" (tlsMap old) (tlsMap new)
  have hdns := dnsChanges_swap old new target
  have hfinding := compareMaps_swap "finding" target "high" (findingMap old) (findingMap new)
  have hcompleteness := completenessChanges_swap old new target
  have hscore := scoreChange_swap old new target
  have hsummary : (compareReports new old target target).summary =
      (compareReports old new target target).summary.swap := by
    have hlist : ((scoreChange old new target).1.map Change.swap).toList =
        (scoreChange old new target).1.toList.map Change.swap := by
      cases (scoreChange old new target).1 <;> rfl
    unfold compareReports
    simp only
    rw [hnetwork, hservice, hcertificate, hdns, hfinding, hcompleteness, hscore, hlist,
      ← summarize_swap]
    simp only [List.map_append]
  obtain ⟨hadded, hremoved, hchanged⟩ := DiffSummary.of_eq_swap hsummary
  exact ⟨hnetwork, hservice, hcertificate, hdns, hfinding, hscore, hcompleteness, hadded,
    hremoved, hchanged⟩

/-- A report whose sections give nothing to compare is unchanged. -/
theorem compareReports_unchanged {old new : ScanReport} {target : String}
    (hnetwork : networkChanges old new target = [])
    (hservice : serviceChanges old new target = [])
    (hcertificate : compareMaps "certificate" (tlsMap old) (tlsMap new) target "high" = [])
    (hdns : dnsChanges old new target = [])
    (hfinding : compareMaps "finding" (findingMap old) (findingMap new) target "high" = [])
    (hcompleteness : completenessChanges old new target = [])
    (hscore : (scoreChange old new target).1 = none) (newTarget : String) :
    (compareReports old new target newTarget).Unchanged := by
  refine ⟨hnetwork, hservice, hcertificate, hdns, hfinding, hscore, hcompleteness, ?_⟩
  unfold compareReports
  simp only
  rw [hnetwork, hservice, hcertificate, hdns, hfinding, hcompleteness, hscore]
  rfl

section Reflexive

variable (report : ScanReport) (target : String)

theorem networkChanges_self : networkChanges report report target = [] := by
  unfold networkChanges
  rw [compareSets_self, (compareMaps_eq_nil_iff _ _ _ _ _).mpr rfl]
  rfl

theorem serviceChanges_self : serviceChanges report report target = [] := by
  unfold serviceChanges
  rw [(compareMaps_eq_nil_iff _ _ _ _ _).mpr rfl, (compareMaps_eq_nil_iff _ _ _ _ _).mpr rfl]
  rfl

theorem dnsChanges_self : dnsChanges report report target = [] := by
  unfold dnsChanges
  rw [compareSets_self, (compareValues_eq_nil_iff _ _ _ _ _).mpr rfl,
    (compareValues_eq_nil_iff _ _ _ _ _).mpr rfl]
  rfl

theorem completenessChanges_self : completenessChanges report report target = [] :=
  (compareValues_eq_nil_iff _ _ _ _ _).mpr rfl

theorem scoreChange_self : (scoreChange report report target).1 = none := by
  unfold scoreChange
  cases report.exposureScore with
  | none => rfl
  | some score => simp

theorem compareReports_self : (compareReports report report target target).Unchanged :=
  compareReports_unchanged (networkChanges_self report target) (serviceChanges_self report target)
    ((compareMaps_eq_nil_iff _ _ _ _ _).mpr rfl) (dnsChanges_self report target)
    ((compareMaps_eq_nil_iff _ _ _ _ _).mpr rfl) (completenessChanges_self report target)
    (scoreChange_self report target) target

end Reflexive

/-! ## Accepted reports -/

def supportedSchemaVersions : List String :=
  ["0.1.0", "0.1.1", "0.1.2", "0.2.0", "0.3.0", "0.4.0"]

theorem schemaFamily_supported {version : String} (h : version ∈ supportedSchemaVersions) :
    ∃ family, schemaFamily version = .ok family := by
  unfold schemaFamily
  by_cases hlegacy : version ∈ ["0.1.0", "0.1.1", "0.1.2", "0.2.0", "0.3.0"]
  · exact ⟨_, if_pos hlegacy⟩
  · have htyped : version = "0.4.0" := by
      simp only [supportedSchemaVersions, List.mem_cons, List.not_mem_nil, or_false] at h hlegacy
      tauto
    rw [if_neg hlegacy, if_pos htyped]
    exact ⟨_, rfl⟩

/-- Two reports are compared when their targets agree and their schemas are of one family. -/
theorem diffReports_ok_iff {old new : ScanReport} {d : ScanDiff} :
    diffReports old new = .ok d ↔
      old.target.identity = new.target.identity ∧
      (∃ family, schemaFamily old.schemaVersion = .ok family ∧
        schemaFamily new.schemaVersion = .ok family) ∧
      d = compareReports old new old.target.identity old.target.identity := by
  unfold diffReports
  by_cases htarget : old.target.identity = new.target.identity
  · simp only [htarget, ne_eq, not_true_eq_false, if_false, true_and]
    cases hold : schemaFamily old.schemaVersion with
    | error error => simp
    | ok oldFamily =>
      cases hnew : schemaFamily new.schemaVersion with
      | error error => simp
      | ok newFamily =>
        simp only [Except.ok.injEq]
        by_cases hfamily : oldFamily = newFamily
        · rw [if_neg (not_not.mpr hfamily)]
          simp only [Except.ok.injEq, hfamily, exists_eq_left', true_and]
          exact eq_comm
        · rw [if_pos hfamily]
          refine iff_of_false (by simp) ?_
          rintro ⟨⟨family, hf, hf'⟩, _⟩
          exact hfamily (hf.trans hf'.symm)
  · rw [if_pos htarget]
    exact iff_of_false (by simp) (fun h => htarget h.1)

/-- Comparing in the other direction succeeds as well, and mirrors every section; comparing a
report with itself finds nothing. -/
theorem diffReports_symmetric_reflexive :
    (∀ a b : ScanReport,
      (∃ d e, diffReports a b = .ok d ∧ diffReports b a = .ok e ∧ d.Mirrors e) ∨
        ∃ error error', diffReports a b = .error error ∧ diffReports b a = .error error') ∧
    ∀ r : ScanReport, r.schemaVersion ∈ supportedSchemaVersions →
      ∃ d, diffReports r r = .ok d ∧ d.Unchanged := by
  constructor
  · intro a b
    cases hab : diffReports a b with
    | ok d =>
      obtain ⟨htarget, ⟨family, hfa, hfb⟩, rfl⟩ := diffReports_ok_iff.mp hab
      refine .inl ⟨_, _, rfl, diffReports_ok_iff.mpr ⟨htarget.symm, ⟨family, hfb, hfa⟩, rfl⟩, ?_⟩
      rw [← htarget]
      exact compareReports_mirrors a b a.target.identity
    | error error =>
      cases hba : diffReports b a with
      | error error' => exact .inr ⟨error, error', rfl, rfl⟩
      | ok e =>
        obtain ⟨htarget, ⟨family, hfb, hfa⟩, _⟩ := diffReports_ok_iff.mp hba
        rw [diffReports_ok_iff.mpr ⟨htarget.symm, ⟨family, hfa, hfb⟩, rfl⟩] at hab
        cases hab
  · intro r h
    obtain ⟨family, hfamily⟩ := schemaFamily_supported h
    exact ⟨_, diffReports_ok_iff.mpr ⟨rfl, ⟨family, hfamily, hfamily⟩, rfl⟩,
      compareReports_self r r.target.identity⟩

/-- The fixture before and after its scan, and the latter with itself. -/
theorem diffReports_symmetric_reflexive_observed :
    (∃ d e, diffReports fixtureReport observedReport = .ok d ∧
      diffReports observedReport fixtureReport = .ok e ∧ d.Mirrors e) ∧
    ∃ d, diffReports observedReport observedReport = .ok d ∧ d.Unchanged := by
  refine ⟨?_, diffReports_symmetric_reflexive.2 observedReport (by decide)⟩
  rcases diffReports_symmetric_reflexive.1 fixtureReport observedReport with
    h | ⟨error, _, herror, _⟩
  · exact h
  · cases herror

end Surface

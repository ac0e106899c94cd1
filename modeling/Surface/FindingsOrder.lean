import Surface.Findings

/-!
# Surface.FindingsOrder

The findings do not depend on the order in which the observations were collected.

* `RuleMade`: every finding is one rule applied to a target and one piece of evidence, and a rule
  is known by its id.
* `eq_of_identity_eq`: id, target and evidence therefore determine the whole finding.
* `generateFindings_order_independent`: what is left after deduplication, and its order, depend
  only on which observations there are.
-/

namespace Surface

/-! ## What determines a finding -/

/-- The finding comes from one of the rules. -/
def RuleMade (f : Finding) : Prop :=
  ∃ rule ∈ findingRules, ∃ target location observed, f = rule.finding target location observed

theorem findingRules_ids_nodup : (findingRules.map FindingRule.id).Nodup := by decide

theorem rule_of_id {rule rule' : FindingRule} (h : rule ∈ findingRules) (h' : rule' ∈ findingRules)
    (hid : rule.id = rule'.id) : rule = rule' :=
  List.inj_on_of_nodup_map findingRules_ids_nodup h h' hid

theorem eq_of_identity_eq {f g : Finding} (hf : RuleMade f) (hg : RuleMade g)
    (h : f.identity = g.identity) : f = g := by
  obtain ⟨rule, hrule, target, location, observed, rfl⟩ := hf
  obtain ⟨rule', hrule', target', location', observed', rfl⟩ := hg
  simp only [Finding.identity, Finding.evidenceKey, FindingRule.finding, List.map_cons,
    List.map_nil, EmbeddingLike.apply_eq_iff_eq, Prod.mk.injEq, List.cons.injEq, and_true] at h
  obtain ⟨hid, rfl, rfl, rfl⟩ := h
  rw [rule_of_id hrule hrule' hid]

/-! ## Every finding comes from a rule -/

/-- All findings of a list come from rules. -/
def AllRuleMade (findings : List Finding) : Prop := ∀ f ∈ findings, RuleMade f

theorem AllRuleMade.nil : AllRuleMade [] := by
  intro f hf
  cases hf

theorem AllRuleMade.cons {rule : FindingRule} (h : rule ∈ findingRules) {findings : List Finding}
    (hs : AllRuleMade findings) (target location observed : String) :
    AllRuleMade (rule.finding target location observed :: findings) := by
  intro f hf
  rcases List.mem_cons.mp hf with rfl | hf
  · exact ⟨rule, h, target, location, observed, rfl⟩
  · exact hs f hf

theorem AllRuleMade.single {rule : FindingRule} (h : rule ∈ findingRules)
    (target location observed : String) :
    AllRuleMade [rule.finding target location observed] :=
  .cons h .nil target location observed

theorem AllRuleMade.append {findings more : List Finding} (h : AllRuleMade findings)
    (hs : AllRuleMade more) : AllRuleMade (findings ++ more) := by
  intro f hf
  rcases List.mem_append.mp hf with hf | hf
  · exact h f hf
  · exact hs f hf

theorem AllRuleMade.flatMap {α : Type} {l : List α} {findings : α → List Finding}
    (h : ∀ a, AllRuleMade (findings a)) : AllRuleMade (l.flatMap findings) := by
  intro f hf
  obtain ⟨a, _, hf⟩ := List.mem_flatMap.mp hf
  exact h a f hf

theorem AllRuleMade.ite {p : Prop} [Decidable p] {findings more : List Finding}
    (h : AllRuleMade findings) (hs : AllRuleMade more) :
    AllRuleMade (if p then findings else more) := by
  split
  · exact h
  · exact hs

section Rules

variable (target : String)

theorem ruleMade_danglingFrom (dns : DnsObservation) (hops : List CnameHop) :
    ∀ reported : OrdSet String, AllRuleMade (danglingFrom target dns reported hops) := by
  induction hops with
  | nil =>
    intro reported
    exact .nil
  | cons hop hops ih =>
    intro reported
    exact .ite (ih reported) (.cons (by simp [findingRules]) (ih _) _ _ _)

theorem ruleMade_dnsFindings (dns : DnsObservation) : AllRuleMade (dnsFindings target dns) := by
  refine .append (.append (.append (ruleMade_danglingFrom target dns _ _) ?_) ?_) ?_
  · unfold wildcardFindings
    split
    · exact .nil
    · exact .single (by simp [findingRules]) _ _ _
  · unfold axfrFindings
    split
    · exact .nil
    · exact .ite .nil (.single (by simp [findingRules]) _ _ _)
  · unfold dnssecFindings
    split
    · exact .nil
    · exact .single (by simp [findingRules]) _ _ _

theorem ruleMade_mailFindings (dns : DnsObservation) : AllRuleMade (mailFindings target dns) := by
  refine .append (.ite (.single (by simp [findingRules]) _ _ _) .nil) ?_
  split
  · exact .nil
  · exact .ite (.single (by simp [findingRules]) _ _ _) .nil

theorem ruleMade_exposureFindings (hosts : List HostObservation)
    (services : List ServiceObservation) : AllRuleMade (exposureFindings hosts services) := by
  refine .append (.append (.flatMap fun port => ?_) (.flatMap fun service => ?_))
    (.flatMap fun service => ?_)
  · exact .ite (.single (by simp [findingRules]) _ _ _) .nil
  · refine .ite (.cons (by simp [findingRules]) ?_ _ _ _) .nil
    unfold sshLegacyFinding
    split
    · exact .ite .nil (.single (by simp [findingRules]) _ _ _)
    · exact .nil
  · exact .ite (.single (by simp [findingRules]) _ _ _) .nil

theorem ruleMade_httpFindings (http : List HttpObservation) :
    AllRuleMade (httpFindings target http) := by
  refine .flatMap fun http => .append (.append (.append (.append ?_ ?_) ?_) ?_) ?_
  · exact .ite (.single (by simp [findingRules]) _ _ _) .nil
  · exact .ite (.single (by simp [findingRules]) _ _ _) .nil
  · unfold downgradeFindings
    split
    · exact .nil
    · exact .ite (.single (by simp [findingRules]) _ _ _) .nil
  · exact .ite (.single (by simp [findingRules]) _ _ _) .nil
  · exact .ite (.single (by simp [findingRules]) _ _ _) .nil

theorem ruleMade_tlsWeaknessFindings (tls : TlsObservation) :
    AllRuleMade (tlsWeaknessFindings target tls) := by
  refine .append (.append ?_ ?_) ?_
  · unfold rsaKeyFindings
    split
    · exact .nil
    · exact .ite (.single (by simp [findingRules]) _ _ _) .nil
  · unfold sha1Findings
    split
    · exact .nil
    · exact .ite (.single (by simp [findingRules]) _ _ _) .nil
  · unfold protocolFindings
    split
    · exact .nil
    · exact .ite (.single (by simp [findingRules]) _ _ _) .nil

theorem ruleMade_validUntilFindings (tls : TlsObservation) (scanTime : Timestamp) :
    AllRuleMade (validUntilFindings target tls scanTime) := by
  unfold validUntilFindings
  split
  · exact .nil
  · exact .ite (.single (by simp [findingRules]) _ _ _)
      (.ite (.single (by simp [findingRules]) _ _ _) .nil)

theorem ruleMade_tlsFindings (services : List ServiceObservation) (tls : List TlsObservation)
    (now : OffsetDateTime) : AllRuleMade (tlsFindings target services tls now) := by
  refine .flatMap fun tls =>
    .append (.append ?_ (ruleMade_tlsWeaknessFindings target tls)) ?_
  · exact .ite (.single (by simp [findingRules]) _ _ _) .nil
  · unfold validityFindings
    split
    · exact ruleMade_validUntilFindings target tls now.unixTimestamp
    · exact .ite (.single (by simp [findingRules]) _ _ _)
        (ruleMade_validUntilFindings target tls now.unixTimestamp)

theorem ruleMade_collectFindings (dns : Option DnsObservation) (hosts : List HostObservation)
    (services : List ServiceObservation) (http : List HttpObservation) (tls : List TlsObservation)
    (now : OffsetDateTime) :
    AllRuleMade (collectFindings target dns hosts services http tls now) := by
  refine .append (.append (.append ?_ (ruleMade_exposureFindings hosts services))
    (ruleMade_httpFindings target http)) (ruleMade_tlsFindings target services tls now)
  cases dns with
  | none => exact .nil
  | some dns => exact .append (ruleMade_dnsFindings target dns) (ruleMade_mailFindings target dns)

end Rules

/-! ## Order of collection -/

/-- The same hosts in another order, each with its ports in another order. -/
def HostsPerm (hosts hosts' : List HostObservation) : Prop :=
  ∃ middle, hosts.Perm middle ∧
    List.Forall₂ (fun host host' => host.ip = host'.ip ∧ host.ports.Perm host'.ports) middle hosts'

theorem HostsPerm.ports_perm {hosts hosts' : List HostObservation} (h : HostsPerm hosts hosts') :
    (hosts.flatMap HostObservation.ports).Perm (hosts'.flatMap HostObservation.ports) := by
  obtain ⟨middle, hperm, hports⟩ := h
  refine (hperm.flatMap_right HostObservation.ports).trans ?_
  clear hperm
  induction hports with
  | nil => exact .nil
  | cons hhost _ ih => exact hhost.2.append ih

theorem expectedTls_perm {services services' : List ServiceObservation}
    (h : services.Perm services') (tls : TlsObservation) :
    expectedTls services tls = expectedTls services' tls := by
  unfold expectedTls
  exact h.any_eq

theorem tlsFindings_perm {services services' : List ServiceObservation}
    {tls tls' : List TlsObservation} (hservices : services.Perm services') (htls : tls.Perm tls')
    (target : String) (now : OffsetDateTime) :
    (tlsFindings target services tls now).Perm (tlsFindings target services' tls' now) := by
  have heach : ∀ tls : TlsObservation,
      handshakeFindings target services tls = handshakeFindings target services' tls := by
    intro tls
    unfold handshakeFindings
    rw [expectedTls_perm hservices]
  unfold tlsFindings
  simp only [heach]
  exact htls.flatMap_right _

theorem collectFindings_perm {hosts hosts' : List HostObservation}
    {services services' : List ServiceObservation} {http http' : List HttpObservation}
    {tls tls' : List TlsObservation} (hhosts : HostsPerm hosts hosts')
    (hservices : services.Perm services') (hhttp : http.Perm http') (htls : tls.Perm tls')
    (target : String) (dns : Option DnsObservation) (now : OffsetDateTime) :
    (collectFindings target dns hosts services http tls now).Perm
      (collectFindings target dns hosts' services' http' tls' now) := by
  have hexposure : (exposureFindings hosts services).Perm (exposureFindings hosts' services') :=
    ((hhosts.ports_perm.flatMap_right _).append (hservices.flatMap_right _)).append
      (hservices.flatMap_right _)
  have hweb : (httpFindings target http).Perm (httpFindings target http') :=
    (hhttp.filter _).flatMap_right _
  exact ((hexposure.append_left _).append hweb).append
    (tlsFindings_perm hservices htls target now)

theorem generateFindings_perm {hosts hosts' : List HostObservation}
    {services services' : List ServiceObservation} {http http' : List HttpObservation}
    {tls tls' : List TlsObservation} (hhosts : HostsPerm hosts hosts')
    (hservices : services.Perm services') (hhttp : http.Perm http') (htls : tls.Perm tls')
    (target : String) (dns : Option DnsObservation) (now : OffsetDateTime) :
    generateFindings target dns hosts services http tls now =
      generateFindings target dns hosts' services' http' tls' now := by
  have hrules := ruleMade_collectFindings target dns hosts services http tls now
  refine sortBy_keepFirst_congr (fun f => ?_) (fun f hf g hg h => ?_) (fun f g h => ?_)
  · exact (collectFindings_perm hhosts hservices hhttp htls target dns now).mem_iff
  · exact eq_of_identity_eq (hrules f hf) (hrules g hg) h
  · exact congrArg (fun order => (ofLex order).2) h

/-! ## The order of the result -/

/-- `f` comes before `g`: by descending severity, then by id, target and evidence. -/
def Finding.Before (f g : Finding) : Prop :=
  g.severity < f.severity ∨ f.severity = g.severity ∧
    (f.id < g.id ∨ f.id = g.id ∧
      (f.target < g.target ∨ f.target = g.target ∧ f.evidenceKey < g.evidenceKey))

theorem before_iff_order_lt {f g : Finding} : f.Before g ↔ f.order < g.order := by
  unfold Finding.Before Finding.order Finding.identity
  simp only [Prod.Lex.toLex_lt_toLex, OrderDual.toDual_lt_toDual, EmbeddingLike.apply_eq_iff_eq]

section Result

variable (target : String) (dns : Option DnsObservation) (hosts : List HostObservation)
  (services : List ServiceObservation) (http : List HttpObservation) (tls : List TlsObservation)
  (now : OffsetDateTime)

theorem generateFindings_distinct :
    (generateFindings target dns hosts services http tls now).Pairwise
      (fun f g => f.identity ≠ g.identity) := by
  have hkept := keepFirst_nodup Finding.identity
    (collectFindings target dns hosts services http tls now) .empty
  have hperm := sortBy_perm Finding.order (keepFirst Finding.identity .empty
    (collectFindings target dns hosts services http tls now))
  exact List.pairwise_map.mp ((hperm.map Finding.identity).nodup_iff.mpr hkept)

theorem generateFindings_sorted :
    (generateFindings target dns hosts services http tls now).Pairwise Finding.Before := by
  have hsorted := sortBy_sorted Finding.order (keepFirst Finding.identity .empty
    (collectFindings target dns hosts services http tls now))
  have hdistinct := generateFindings_distinct target dns hosts services http tls now
  refine (hsorted.and hdistinct).imp (fun {f g} h => ?_)
  rw [before_iff_order_lt]
  refine lt_of_le_of_ne h.1 (fun heq => h.2 ?_)
  exact congrArg (fun order => (ofLex order).2) heq

end Result

/-- Reordered observations give the identical findings; the findings are sorted, and no two of
them agree in id, target and evidence. -/
theorem generateFindings_order_independent :
    (∀ target dns now hosts hosts' services services' http http' tls tls',
      HostsPerm hosts hosts' → services.Perm services' → http.Perm http' → tls.Perm tls' →
      generateFindings target dns hosts services http tls now =
        generateFindings target dns hosts' services' http' tls' now) ∧
    ∀ target dns hosts services http tls now,
      (generateFindings target dns hosts services http tls now).Pairwise Finding.Before ∧
      (generateFindings target dns hosts services http tls now).Pairwise
        (fun f g => ¬ (f.id = g.id ∧ f.target = g.target ∧ f.evidence = g.evidence)) := by
  constructor
  · intro target dns now hosts hosts' services services' http http' tls tls' hhosts hservices hhttp
      htls
    exact generateFindings_perm hhosts hservices hhttp htls target dns now
  · intro target dns hosts services http tls now
    refine ⟨generateFindings_sorted target dns hosts services http tls now, ?_⟩
    refine (generateFindings_distinct target dns hosts services http tls now).imp
      (fun {f g} hne => ?_)
    rintro ⟨hid, htarget, hevidence⟩
    exact hne (by simp [Finding.identity, Finding.evidenceKey, hid, htarget, hevidence])

def fixtureOpenPort (port : Nat) : PortObservation :=
  ⟨.tcp, ⟨.v4 (BitVec.ofNat 32 1), port⟩, .open, none, none⟩

theorem generateFindings_order_independent_ports :
    generateFindings "example.com" none
        [⟨.v4 (BitVec.ofNat 32 1), [fixtureOpenPort 3306, fixtureOpenPort 6379]⟩] [] [] []
        .unixEpoch =
      generateFindings "example.com" none
        [⟨.v4 (BitVec.ofNat 32 1), [fixtureOpenPort 6379, fixtureOpenPort 3306]⟩] [] [] []
        .unixEpoch :=
  generateFindings_order_independent.1 "example.com" none .unixEpoch _ _ [] [] [] [] [] []
    ⟨_, .refl _, .cons ⟨rfl, .swap ..⟩ .nil⟩ .nil .nil .nil

end Surface

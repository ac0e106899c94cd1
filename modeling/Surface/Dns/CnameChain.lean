import Surface.Dns.Baseline

/-!
# Surface.Dns.CnameChain

The alias chain is a path, and it ends only where it has to.

* `leftNames`: the names a path leaves, the first one as the caller spelled it.
* `followCnames_path`, `followCnames_fresh`, `followCnames_stops`: the walk from any name, with any
  names visited before.
* `orderedCnameChain_path`: the chain of a hostname.
-/

namespace Surface

/-- The names that the edges of a path leave. -/
def leftNames : String → List CnameHop → List String
  | _, [] => []
  | current, hop :: path => current :: leftNames hop.destination path

/-- The name a path ends at. -/
def endName : String → List CnameHop → String
  | current, [] => current
  | _, hop :: path => endName hop.destination path

def LowerCase (edges : List CnameHop) : Prop :=
  ∀ hop ∈ edges, hop.source.toLower = hop.source ∧ hop.destination.toLower = hop.destination

instance (edges : List CnameHop) : Decidable (LowerCase edges) :=
  inferInstanceAs (Decidable (∀ hop ∈ edges,
    hop.source.toLower = hop.source ∧ hop.destination.toLower = hop.destination))

/-- Every edge starts at the name before it. -/
def Linked : String → List CnameHop → Prop
  | _, [] => True
  | current, hop :: path => hop.source = current.toLower ∧ Linked hop.destination path

section Walk

variable {edges : List CnameHop} {visited : List String} {current : String} {hops : Nat}

theorem LowerCase.erase (h : LowerCase edges) (hop : CnameHop) :
    LowerCase (edges.filter (· ≠ hop)) :=
  fun other hother => h other (List.mem_of_mem_filter hother)

/-- The edge the walk takes. -/
theorem LowerCase.taken (h : LowerCase edges) {hop : CnameHop}
    (hfound : (edges.find? fun hop => hop.source.toLower = current.toLower) = some hop) :
    hop ∈ edges ∧ hop.source = current.toLower := by
  have hmem := List.mem_of_find?_eq_some hfound
  have hsource : hop.source.toLower = current.toLower := by simpa using List.find?_some hfound
  exact ⟨hmem, (h hop hmem).1.symm.trans hsource⟩

theorem followCnames_path (h : LowerCase edges) :
    (followCnames hops edges visited current).length ≤ hops ∧
      (∀ hop ∈ followCnames hops edges visited current, hop ∈ edges) ∧
      Linked current (followCnames hops edges visited current) := by
  induction hops generalizing edges visited current with
  | zero => exact ⟨Nat.le_refl _, nofun, trivial⟩
  | succ hops ih =>
    unfold followCnames
    split
    · exact ⟨Nat.zero_le _, nofun, trivial⟩
    · split
      · exact ⟨Nat.zero_le _, nofun, trivial⟩
      · rename_i hop hfound
        obtain ⟨hmem, hsource⟩ := h.taken hfound
        obtain ⟨hlength, htaken, hlinked⟩ :=
          @ih (edges.filter (· ≠ hop)) (current :: visited) hop.destination (h.erase hop)
        refine ⟨Nat.succ_le_succ hlength, ?_, hsource, hlinked⟩
        rintro other (_ | ⟨_, hother⟩)
        · exact hmem
        · exact List.mem_of_mem_filter (htaken other hother)

/-- No name is left that was visited, and none twice. -/
theorem followCnames_fresh :
    (leftNames current (followCnames hops edges visited current)).Nodup ∧
      ∀ name ∈ leftNames current (followCnames hops edges visited current), name ∉ visited := by
  induction hops generalizing edges visited current with
  | zero => exact ⟨.nil, nofun⟩
  | succ hops ih =>
    unfold followCnames
    split
    · exact ⟨.nil, nofun⟩
    · rename_i hcurrent
      split
      · exact ⟨.nil, nofun⟩
      · rename_i hop _
        obtain ⟨hnodup, hfresh⟩ := @ih (edges.filter (· ≠ hop)) (current :: visited) hop.destination
        rw [leftNames]
        refine ⟨List.nodup_cons.mpr ⟨fun hagain => ?_, hnodup⟩, ?_⟩
        · exact hfresh current hagain List.mem_cons_self
        · rintro name (_ | ⟨_, hname⟩)
          · exact hcurrent
          · exact fun hvisited => hfresh name hname (List.mem_cons_of_mem _ hvisited)

/-- The walk stops after its last hop, at a name that was visited or left before, or where no
further edge leads on. -/
theorem followCnames_stops :
    (followCnames hops edges visited current).length = hops ∨
      endName current (followCnames hops edges visited current) ∈
        leftNames current (followCnames hops edges visited current) ++ visited ∨
      ∀ hop ∈ edges, hop ∉ followCnames hops edges visited current →
        hop.source.toLower ≠
          (endName current (followCnames hops edges visited current)).toLower := by
  induction hops generalizing edges visited current with
  | zero => exact .inl rfl
  | succ hops ih =>
    unfold followCnames
    split
    · rename_i hcurrent
      exact .inr (.inl hcurrent)
    · split
      · rename_i hnone
        refine .inr (.inr fun hop hhop _ => ?_)
        rw [endName]
        simpa using List.find?_eq_none.mp hnone hop hhop
      · rename_i hop _
        rw [leftNames, endName]
        rcases @ih (edges.filter (· ≠ hop)) (current :: visited) hop.destination with
          hlength | hseen | hlast
        · exact .inl (congrArg Nat.succ hlength)
        · refine .inr (.inl ?_)
          simp only [List.mem_append, List.mem_cons] at hseen ⊢
          rcases hseen with hleft | hcurrent | hvisited
          · exact .inl (.inr hleft)
          · exact .inl (.inl hcurrent)
          · exact .inr hvisited
        · refine .inr (.inr fun other hother hunused => ?_)
          obtain ⟨hne, hrest⟩ := not_or.mp fun h => hunused (List.mem_cons.mpr h)
          exact hlast other (List.mem_filter.mpr ⟨hother, by simpa using hne⟩) hrest

end Walk

/-! ## Paths -/

variable {path : List CnameHop} {current : String}

/-- The edges of a path start at the names it leaves, in lower case. -/
theorem Linked.sources (h : Linked current path) :
    path.map CnameHop.source = (leftNames current path).map String.toLower := by
  induction path generalizing current with
  | nil => rfl
  | cons hop path ih => rw [List.map_cons, leftNames, List.map_cons, h.1, ih h.2]

theorem Linked.isChain (h : Linked current path) (hlower : LowerCase path) :
    path.IsChain fun hop next => next.source = hop.destination := by
  induction path generalizing current with
  | nil => exact .nil
  | cons hop path ih =>
    have hrest := ih h.2 fun other hother => hlower other (List.mem_cons_of_mem _ hother)
    cases path with
    | nil => exact .singleton _
    | cons next path =>
      exact .cons_cons (h.2.1.trans (hlower hop List.mem_cons_self).2) hrest

/-- From a name in lower case the names that are left are the sources of the edges. -/
theorem leftNames_eq (h : Linked current path) (hlower : LowerCase path)
    (hcurrent : current.toLower = current) :
    leftNames current path = path.map CnameHop.source := by
  induction path generalizing current with
  | nil => rfl
  | cons hop path ih =>
    rw [leftNames, List.map_cons, h.1, hcurrent, ih h.2
      (fun other hother => hlower other (List.mem_cons_of_mem _ hother))
      (hlower hop List.mem_cons_self).2]

/-! ## The chain of a hostname -/

/-- A path of edges from a hostname that ends only where it has to. -/
structure CnamePath (hostname : String) (edges : OrdSet CnameHop) (chain : List CnameHop) :
    Prop where
  bounded : chain.length ≤ maxCnameChainHops
  taken : ∀ hop ∈ chain, hop ∈ edges
  starts : ∀ hop, chain.head? = some hop → hop.source = hostname.toLower
  linked : chain.IsChain fun hop next => next.source = hop.destination
  /-- The hostname counts as it is spelled, the other names are in lower case. -/
  left_once : (leftNames hostname chain).Nodup
  stops : chain.length = maxCnameChainHops ∨
    (∀ hop ∈ edges, hop.source ≠ (endName hostname chain).toLower) ∨
    (endName hostname chain).toLower ∈ chain.map CnameHop.source

/-- A walk from the hostname is such a path. -/
theorem cnamePath_of_walk {hostname : String} {edges : OrdSet CnameHop} {chain : List CnameHop}
    (hlower : LowerCase edges.toList)
    (hpath : chain.length ≤ maxCnameChainHops ∧ (∀ hop ∈ chain, hop ∈ edges.toList) ∧
      Linked hostname chain)
    (hfresh : (leftNames hostname chain).Nodup)
    (hstops : chain.length = maxCnameChainHops ∨
      endName hostname chain ∈ leftNames hostname chain ++ [] ∨
      ∀ hop ∈ edges.toList, hop ∉ chain →
        hop.source.toLower ≠ (endName hostname chain).toLower) :
    CnamePath hostname edges chain := by
  obtain ⟨hlength, htaken, hlinked⟩ := hpath
  refine ⟨hlength, htaken, fun hop hhead => ?_,
    hlinked.isChain fun hop hhop => hlower hop (htaken hop hhop), hfresh, ?_⟩
  · cases chain with
    | nil => cases hhead
    | cons first chain =>
      cases hhead
      exact hlinked.1
  · rcases hstops with hfull | hleft | hlast
    · exact .inl hfull
    · rw [List.append_nil] at hleft
      rw [hlinked.sources]
      exact .inr (.inr (List.mem_map_of_mem hleft))
    · -- an edge that leads on from the last name has been used, so the name was left
      by_cases hused : (endName hostname chain).toLower ∈ chain.map CnameHop.source
      · exact .inr (.inr hused)
      · refine .inr (.inl fun hop hhop hsource => ?_)
        refine hlast hop hhop (fun hin => hused ?_) ((hlower hop hhop).1.trans hsource)
        rw [← hsource]
        exact List.mem_map_of_mem hin

/-- Whatever edges the answers hold, the chain is a path that stops only at the cap, at a name
without an alias or at a name it has left; no source repeats if the hostname is in lower case. -/
theorem orderedCnameChain_path (hostname : String) {edges : OrdSet CnameHop}
    (hlower : LowerCase edges.toList) :
    CnamePath hostname edges (orderedCnameChain hostname edges) ∧
      (hostname.toLower = hostname →
        ((orderedCnameChain hostname edges).map CnameHop.source).Nodup) := by
  have hpath := @followCnames_path edges.toList [] hostname maxCnameChainHops hlower
  have hfresh := (@followCnames_fresh edges.toList [] hostname maxCnameChainHops).1
  refine ⟨cnamePath_of_walk hlower hpath hfresh followCnames_stops, fun hhostname => ?_⟩
  rwa [orderedCnameChain,
    ← leftNames_eq hpath.2.2 (fun hop hhop => hlower hop (hpath.2.1 hop hhop)) hhostname]

/-! ### A cycle through a mixed-case hostname -/

def cycleEdges : OrdSet CnameHop := .ofList [⟨"a", "b"⟩, ⟨"a", "c"⟩, ⟨"b", "a"⟩]

theorem orderedCnameChain_path_cycle :
    CnamePath "a" cycleEdges (orderedCnameChain "a" cycleEdges) ∧
      ("a".toLower = "a" → ((orderedCnameChain "a" cycleEdges).map CnameHop.source).Nodup) :=
  orderedCnameChain_path "a" (by decide +kernel)

/-- The visited names are compared with their case, the edges without it. -/
theorem orderedCnameChain_repeats :
    LowerCase cycleEdges.toList ∧
      (orderedCnameChain "A" cycleEdges).map CnameHop.source = ["a", "b", "a"] ∧
      ¬ ((orderedCnameChain "A" cycleEdges).map CnameHop.source).Nodup := by
  decide +kernel

end Surface

import Surface.Distinct
import Surface.Exposure
import Surface.NetText

/-!
# Surface.ExposureLaws

What the exposure score says of a list of findings, whatever their number.

* `Finding.source`: the pair of an id and a target, which counts once.
* `deductionsFrom_eq`: a deduction for each pair whose first finding has points.
* `calculateExposure_law`: the value is a sum over the pairs, another pair never raises it, and
  the order of the findings does not matter.
-/

namespace Surface

def Finding.source (f : Finding) : String ×ₗ String := toLex (f.id, f.target)

def Finding.points (f : Finding) : Nat := severityPoints f.severity

/-- The points of the first finding of a pair. -/
def firstPoints (findings : List Finding) (source : String ×ₗ String) : Nat :=
  firstWeight Finding.source Finding.points findings source

def sources (findings : List Finding) : Finset (String ×ₗ String) :=
  (findings.map Finding.source).toFinset

theorem deductionsFrom_cons (seen : OrdSet (String ×ₗ String)) (f : Finding)
    (rest : List Finding) : deductionsFrom seen (f :: rest) =
      if f.source ∈ seen then deductionsFrom seen rest
      else if 0 < f.points then f.deduction :: deductionsFrom (seen.insert f.source) rest
      else deductionsFrom (seen.insert f.source) rest := rfl

theorem deductionsFrom_eq (findings : List Finding) :
    ∀ seen, deductionsFrom seen findings =
      ((keepFirst Finding.source seen findings).filter fun f => 0 < f.points).map
        Finding.deduction := by
  induction findings with
  | nil =>
    intro seen
    rfl
  | cons f rest ih =>
    intro seen
    rw [deductionsFrom_cons, keepFirst]
    by_cases hseen : f.source ∈ seen
    · rw [if_pos hseen, if_pos hseen, ih]
    · rw [if_neg hseen, if_neg hseen, ih]
      by_cases hpoints : 0 < f.points
      · rw [if_pos hpoints, List.filter_cons_of_pos (by simpa using hpoints), List.map_cons]
      · rw [if_neg hpoints, List.filter_cons_of_neg (by simpa using hpoints)]

/-! ## The value -/

theorem foldl_saturating (deductions : List ScoreDeduction) (bound : Nat) :
    ∀ {sum}, sum ≤ bound →
      deductions.foldl (fun sum d => min (sum + d.points) bound) sum =
        min (sum + (deductions.map ScoreDeduction.points).sum) bound := by
  induction deductions with
  | nil =>
    intro sum hsum
    exact (Nat.min_eq_left hsum).symm
  | cons d rest ih =>
    intro sum hsum
    rw [List.foldl_cons, ih (Nat.min_le_right _ _), List.map_cons, List.sum_cons]
    omega

theorem totalPoints_eq (deductions : List ScoreDeduction) :
    totalPoints deductions = min 100 (deductions.map ScoreDeduction.points).sum := by
  rw [totalPoints, foldl_saturating deductions _ (Nat.zero_le _)]
  omega

theorem sum_deductionsFrom (findings : List Finding) :
    ((deductionsFrom .empty findings).map ScoreDeduction.points).sum =
      ∑ source ∈ sources findings, firstPoints findings source := by
  have hzero : ∀ kept : List Finding, ((kept.filter fun f => 0 < f.points).map Finding.points).sum =
      (kept.map Finding.points).sum := by
    intro kept
    induction kept with
    | nil => rfl
    | cons f kept ih =>
      rw [List.filter_cons]
      split
      · rw [List.map_cons, List.sum_cons, ih, List.map_cons, List.sum_cons]
      · rename_i hpoints
        have hpoints : f.points = 0 := by simpa using hpoints
        rw [ih, List.map_cons, List.sum_cons, hpoints, Nat.zero_add]
  rw [deductionsFrom_eq, List.map_map]
  exact (hzero _).trans (sum_keepFirst Finding.source Finding.points findings)

theorem calculateExposure_value (report : ScanReport) :
    (calculateExposure report).value =
      100 - min 100 (∑ source ∈ sources report.findings, firstPoints report.findings source) := by
  have hsum := ((sortBy_perm ScoreDeduction.id (deductionsFrom .empty report.findings)).map
    ScoreDeduction.points).sum_eq
  have htotal : totalPoints (sortBy ScoreDeduction.id (deductionsFrom .empty report.findings)) =
      min 100 (∑ source ∈ sources report.findings, firstPoints report.findings source) := by
    rw [totalPoints_eq, hsum, sum_deductionsFrom]
  have hlt : min 100 (∑ source ∈ sources report.findings,
      firstPoints report.findings source) < 2 ^ 8 := by omega
  simp only [calculateExposure, htotal, if_pos hlt]

/-! ## The deductions -/

theorem deductions_perm (report : ScanReport) : (calculateExposure report).deductions.Perm
    (((keepFirst Finding.source .empty report.findings).filter fun f => 0 < f.points).map
      Finding.deduction) := by
  rw [← deductionsFrom_eq]
  exact sortBy_perm _ _

theorem mem_deductions {report : ScanReport} {d : ScoreDeduction} :
    d ∈ (calculateExposure report).deductions ↔
      ∃ f ∈ keepFirst Finding.source .empty report.findings, 0 < f.points ∧ d = f.deduction := by
  rw [(deductions_perm report).mem_iff]
  simp only [List.mem_map, List.mem_filter, decide_eq_true_eq, and_assoc, eq_comm (a := d)]

theorem deductions_count (report : ScanReport) (id target : String) :
    ((calculateExposure report).deductions.map fun d => (d.findingIds, d.target)).count
        ([id], some target) =
      if 0 < firstPoints report.findings (toLex (id, target)) then 1 else 0 := by
  have hkept : ((((keepFirst Finding.source .empty report.findings).filter
      fun f => 0 < f.points)).map Finding.source).Nodup :=
    (List.filter_sublist.map _).nodup (keepFirst_nodup Finding.source report.findings .empty)
  have hnodup : ((calculateExposure report).deductions.map
      fun d => (d.findingIds, d.target)).Nodup := by
    rw [((deductions_perm report).map _).nodup_iff, List.map_map]
    refine List.Nodup.of_map (fun about => toLex (about.1.headD "", about.2.getD "")) ?_
    rw [List.map_map]
    exact hkept
  rw [hnodup.count]
  refine if_congr ?_ rfl rfl
  rw [firstPoints, firstWeight_pos_iff, List.mem_map]
  constructor
  · rintro ⟨d, hd, habout⟩
    obtain ⟨f, hf, hpoints, rfl⟩ := mem_deductions.mp hd
    cases habout
    exact ⟨f, hf, rfl, hpoints⟩
  · rintro ⟨f, hf, hsource, hpoints⟩
    cases hsource
    exact ⟨f.deduction, mem_deductions.mpr ⟨f, hf, hpoints, rfl⟩, rfl⟩

/-! ## The order of the findings -/

/-- Findings that count once say the same, and their ids can be told from their targets. -/
structure Consistent (findings : List Finding) : Prop where
  agree : ∀ f ∈ findings, ∀ g ∈ findings, f.source = g.source →
    f.severity = g.severity ∧ f.title = g.title
  plain : ∀ f ∈ findings, ':' ∉ f.id.toList

def ScoreDeduction.source (d : ScoreDeduction) : String ×ₗ String :=
  toLex (d.findingIds.headD "", d.target.getD "")

theorem deductionsFrom_map (findings : List Finding) :
    deductionsFrom .empty findings =
      (keepFirst ScoreDeduction.source .empty (findings.map Finding.deduction)).filter
        fun d => 0 < d.points := by
  rw [deductionsFrom_eq, keepFirst_map, List.filter_map]
  rfl

theorem Consistent.deduction_eq {findings : List Finding} (h : Consistent findings) {f g : Finding}
    (hf : f ∈ findings) (hg : g ∈ findings) (hsource : f.source = g.source) :
    f.deduction = g.deduction := by
  obtain ⟨hseverity, htitle⟩ := h.agree f hf g hg hsource
  obtain ⟨hid, htarget⟩ : f.id = g.id ∧ f.target = g.target := by simpa [Finding.source] using hsource
  simp only [Finding.deduction, hid, htarget, hseverity, htitle]

theorem Consistent.source_eq {findings : List Finding} (h : Consistent findings) {f g : Finding}
    (hf : f ∈ findings) (hg : g ∈ findings) (hid : f.deduction.id = g.deduction.id) :
    f.source = g.source := by
  simp only [Finding.deduction, String.append_assoc, String.append_right_inj] at hid
  rw [← String.append_assoc, ← String.append_assoc] at hid
  obtain ⟨hid, htarget⟩ := append_mark_injective rfl (h.plain f hf) (h.plain g hg) hid
  rw [Finding.source, Finding.source, hid, htarget]

theorem calculateExposure_perm (report : ScanReport) {findings : List Finding}
    (hperm : findings.Perm report.findings) (h : Consistent report.findings) :
    calculateExposure { report with findings := findings } = calculateExposure report := by
  have hinj : ∀ d ∈ report.findings.map Finding.deduction,
      ∀ e ∈ report.findings.map Finding.deduction, d.source = e.source → d = e := by
    intro d hd e he hsource
    obtain ⟨f, hf, rfl⟩ := List.mem_map.mp hd
    obtain ⟨g, hg, rfl⟩ := List.mem_map.mp he
    exact h.deduction_eq hf hg hsource
  have hsame : sortBy ScoreDeduction.id (deductionsFrom .empty report.findings) =
      sortBy ScoreDeduction.id (deductionsFrom .empty findings) := by
    rw [deductionsFrom_map, deductionsFrom_map]
    refine sortBy_eq_of_perm_of_inj
      ((keepFirst_perm (fun d => (hperm.map _).symm.mem_iff) hinj).filter _) ?_
    intro d hd e he hid
    obtain ⟨f, hf, rfl⟩ := List.mem_map.mp (of_mem_keepFirst (List.mem_of_mem_filter hd)).1
    obtain ⟨g, hg, rfl⟩ := List.mem_map.mp (of_mem_keepFirst (List.mem_of_mem_filter he)).1
    exact h.deduction_eq hf hg (h.source_eq hf hg hid)
  unfold calculateExposure
  simp only [hsame]
  rfl

/-! ## The law -/

structure ExposureLaw (report : ScanReport) : Prop where
  value : (calculateExposure report).value =
    100 - min 100 (∑ source ∈ sources report.findings, firstPoints report.findings source)
  range : (calculateExposure report).value ≤ 100
  once : ∀ id target,
    ((calculateExposure report).deductions.map fun d => (d.findingIds, d.target)).count
        ([id], some target) =
      if 0 < firstPoints report.findings (toLex (id, target)) then 1 else 0
  deduction : ∀ d, d ∈ (calculateExposure report).deductions ↔
    ∃ f, report.findings.find? (fun g => g.source = f.source) = some f ∧ 0 < f.points ∧
      d = f.deduction
  antitone : ∀ before after f, report.findings = before ++ after →
    f.source ∉ sources report.findings →
      (calculateExposure { report with findings := before ++ f :: after }).value ≤
        (calculateExposure report).value
  invariant : ∀ findings, findings.Perm report.findings → Consistent report.findings →
    calculateExposure { report with findings := findings } = calculateExposure report

theorem calculateExposure_law (report : ScanReport) : ExposureLaw report where
  value := calculateExposure_value report
  range := by
    rw [calculateExposure_value]
    exact Nat.sub_le _ _
  once := deductions_count report
  deduction d := by
    rw [mem_deductions]
    simp only [mem_keepFirst_iff]
  antitone before after f hfindings hnew := by
    have hkey : f.source ∉ (before ++ after).map Finding.source := by
      rwa [sources, List.mem_toFinset, hfindings] at hnew
    have hsum := sum_firstWeight_insert Finding.source Finding.points hkey
    rw [calculateExposure_value, calculateExposure_value, hfindings]
    exact Nat.sub_le_sub_left (min_le_min_left _ hsum) _
  invariant _ hperm h := calculateExposure_perm report hperm h

end Surface

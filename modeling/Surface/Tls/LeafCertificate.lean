import Surface.Der
import Surface.Distinct
import Surface.Tls.Certificates

/-!
# Surface.Tls.LeafCertificate

What an observation says about the key and the names of a leaf certificate.

* `rsaModulusBits_exact`: the key size is the number of bits of the modulus, as long as it fits
  into the integers it is counted with.
* `normalizedSubjectAltNames_first`: the names are the first distinct ones, and what is left out
  is said to be.
-/

namespace Surface

/-! ## The key size -/

/-- Without a sign byte the bits are counted from the first byte on. -/
theorem rsaModulusBits_cons {first : UInt8} (h : 0 < first) (hlt : first < 128)
    (rest : List UInt8) :
    rsaModulusBits (first :: rest) =
      if rest.length * 8 + (first.toNat.log2 + 1) < 2 ^ 64 then
        some (rest.length * 8 + (first.toNat.log2 + 1))
      else none := by
  have hne : first ≠ 0 := UInt8.pos_iff_ne_zero.mp h
  have hsigned : ¬(first = 0 ∨ 128 ≤ first) := not_or.mpr ⟨hne, UInt8.not_le.mpr hlt⟩
  unfold rsaModulusBits
  split
  · rename_i heq
    cases heq
    exact absurd rfl hne
  · rename_i heq
    cases heq
  · rename_i heq
    cases heq
    simp only [if_neg hsigned, Option.bind_some]

theorem rsaModulusBits_of_positive {modulus : List UInt8} (h : PositiveDer modulus) :
    rsaModulusBits modulus =
      if (derInteger modulus).toNat.size < 2 ^ 64 then some (derInteger modulus).toNat.size
      else none := by
  rcases positiveDer_iff.mp h with ⟨second, rest, rfl, hsecond⟩ | ⟨first, rest, rfl, hfirst, hlt⟩
  · have hpos : 0 < second := UInt8.lt_of_lt_of_le (by decide) hsecond
    rw [derInteger_of_lt (by decide), unsigned_zero_cons, Int.toNat_natCast, size_unsigned hpos]
    simp only [rsaModulusBits, if_pos hsecond, Option.bind_some]
  · rw [derInteger_of_lt hlt, Int.toNat_natCast, size_unsigned hfirst]
    exact rsaModulusBits_cons hfirst hlt rest

theorem rsaModulusBits_of_not_positive {modulus : List UInt8} (h : ¬PositiveDer modulus) :
    rsaModulusBits modulus = none := by
  rw [positiveDer_iff, not_or] at h
  unfold rsaModulusBits
  split
  · rename_i next rest
    have hnext : ¬128 ≤ next := fun hnext => h.1 ⟨next, rest, rfl, hnext⟩
    simp only [if_neg hnext, Option.bind_none]
  · rfl
  · rename_i first rest hother
    by_cases hsigned : first = 0 ∨ 128 ≤ first
    · simp only [if_pos hsigned, Option.bind_none]
    · rw [not_or] at hsigned
      exact absurd ⟨first, rest, rfl, UInt8.pos_iff_ne_zero.mpr hsigned.1,
        UInt8.not_le.mp hsigned.2⟩ h.2

/-- The key size, as far as the integers go that it is counted with. -/
structure RsaKeySize (modulus : List UInt8) : Prop where
  exact : ∀ n, rsaModulusBits modulus = some n ↔ PositiveDer modulus ∧
    2 ^ (n - 1) ≤ derInteger modulus ∧ derInteger modulus < 2 ^ n ∧ n < 2 ^ 64
  short : modulus.length < 2 ^ 61 →
    ((∃ n, rsaModulusBits modulus = some n) ↔ PositiveDer modulus)

theorem rsaModulusBits_exact (modulus : List UInt8) : RsaKeySize modulus := by
  by_cases h : PositiveDer modulus
  · have hsome := rsaModulusBits_of_positive h
    obtain ⟨value, hvalue⟩ : ∃ value : Nat, derInteger modulus = value :=
      ⟨_, (Int.toNat_of_nonneg (Int.le_of_lt h.positive)).symm⟩
    have hpos : 0 < value := by exact_mod_cast hvalue ▸ h.positive
    rw [hvalue, Int.toNat_natCast] at hsome
    constructor
    · intro n
      have hsize : n = value.size ↔ (2 : Int) ^ (n - 1) ≤ value ∧ (value : Int) < 2 ^ n := by
        exact_mod_cast size_eq_iff hpos
      rw [hsome, hvalue, ← and_assoc (c := n < 2 ^ 64), ← hsize]
      constructor
      · intro heq
        split_ifs at heq with hlt
        cases heq
        exact ⟨h, rfl, hlt⟩
      · rintro ⟨-, rfl, hlt⟩
        exact if_pos hlt
    · intro hlength
      have hlt : value < 2 ^ (8 * modulus.length) := by
        rw [Nat.pow_mul]
        exact_mod_cast hvalue ▸ derInteger_lt modulus
      have hsize := Nat.size_le.mpr hlt
      exact iff_of_true ⟨_, hsome.trans (if_pos (by omega))⟩ h
  · have hnone := rsaModulusBits_of_not_positive h
    exact ⟨fun n => iff_of_false (by rw [hnone]; exact nofun) fun hall => h hall.1,
      fun _ => iff_of_false (by rw [hnone]; exact fun ⟨_, hsome⟩ => (nomatch hsome)) h⟩

theorem rsaModulusBits_of_long {count : Nat} (h : 2 ^ 64 ≤ count * 8) :
    rsaModulusBits (1 :: List.replicate count 0) = none := by
  rw [rsaModulusBits_cons (by decide) (by decide), List.length_replicate]
  exact if_neg (by omega)

theorem positiveDer_one_cons (rest : List UInt8) : PositiveDer (1 :: rest) :=
  positiveDer_iff.mpr (.inr ⟨1, rest, rfl, by decide, by decide⟩)

/-- The bits of the longest slices do not fit into the count. -/
theorem rsaModulusBits_overflow :
    (1 :: List.replicate (2 ^ 61) 0 : List UInt8).length < 2 ^ 63 ∧
      PositiveDer (1 :: List.replicate (2 ^ 61) 0) ∧
      rsaModulusBits (1 :: List.replicate (2 ^ 61) 0) = none := by
  refine ⟨?_, positiveDer_one_cons _, rsaModulusBits_of_long (by norm_num)⟩
  rw [List.length_cons, List.length_replicate]
  norm_num

/-! ## The names -/

/-- The names there are to record, with their repetitions. -/
def presentNames (generalNames : List GeneralName) : List String :=
  generalNames.filterMap fun name => (normalizedName name).filter (· ≠ "")

/-- With some names kept, the loop goes on with those that are not among them. -/
theorem addAltNames_eq (generalNames : List GeneralName) :
    ∀ {kept : List String}, kept.length ≤ maxSubjectAltNames →
      ∀ all, all = kept ++ ((presentNames generalNames).filter (· ∉ kept)).eraseDups →
        addAltNames generalNames kept =
          (all.take maxSubjectAltNames, decide (maxSubjectAltNames < all.length)) := by
  induction generalNames with
  | nil =>
    rintro kept hkept all rfl
    have hall : kept ++ (List.filter (· ∉ kept) (presentNames [])).eraseDups = kept :=
      List.append_nil kept
    rw [hall, List.take_of_length_le hkept, decide_eq_false (Nat.not_lt.mpr hkept)]
    rfl
  | cons name rest ih =>
    rintro kept hkept all rfl
    rw [addAltNames, presentNames, List.filterMap_cons]
    rcases (normalizedName name).filter (· ≠ "") with _ | normalized
    · exact ih hkept _ rfl
    · by_cases hseen : normalized ∈ kept
      · simp only [if_pos hseen]
        rw [List.filter_cons_of_neg (by simpa using hseen)]
        exact ih hkept _ rfl
      · simp only [if_neg hseen]
        rw [eraseDups_filter_cons hseen]
        split_ifs with hfull
        · -- one name more than fits
          rw [← hfull, List.take_left', decide_eq_true]
          · simp
          · rfl
        · have hlength : (kept ++ [normalized]).length ≤ maxSubjectAltNames := by
            rw [List.length_append, List.length_singleton]
            omega
          refine ih hlength _ ?_
          rw [List.append_assoc]
          rfl

theorem normalizedName_ipv4 {bytes : List UInt8} (h : bytes.length = 4) :
    normalizedName (.ipAddress bytes) = some (IpAddr.v4 (.ofNat 32 (unsigned bytes))).display := by
  match bytes, h with
  | [a, b, c, d], _ =>
    rw [unsigned_eq_foldl]
    simp only [List.foldl_cons, List.foldl_nil, Nat.zero_mul, Nat.zero_add]
    rfl

theorem normalizedName_of_ne {bytes : List UInt8} (h : bytes.length ≠ 4) :
    normalizedName (.ipAddress bytes) =
      if bytes.length = 16 then some (IpAddr.v6 (.ofNat 128 (unsigned bytes))).display
      else none := by
  rw [normalizedName, unsigned_eq_foldl]
  rintro a b c d rfl
  exact h rfl

theorem toNat_ofNat_unsigned {width : Nat} {bytes : List UInt8} (h : bytes.length * 8 = width) :
    (BitVec.ofNat width (unsigned bytes)).toNat = unsigned bytes := by
  rw [BitVec.toNat_ofNat]
  refine Nat.mod_eq_of_lt ?_
  rw [← h, Nat.mul_comm, Nat.pow_mul]
  exact unsigned_lt bytes

/-- What an observation records of the alternative names. -/
structure SubjectAltNames (certificate : X509Certificate) : Prop where
  invalid : certificate.subjectAlternativeName = none →
    normalizedSubjectAltNames certificate = none
  absent : certificate.subjectAlternativeName = some none →
    normalizedSubjectAltNames certificate = some ([], false)
  first : ∀ generalNames, certificate.subjectAlternativeName = some (some generalNames) →
    ∃ truncated, normalizedSubjectAltNames certificate =
        some ((presentNames generalNames).eraseDups.take maxSubjectAltNames, truncated) ∧
      (truncated = true ↔ maxSubjectAltNames < (presentNames generalNames).toFinset.card)
  dnsName : ∀ name, ∃ kept count, name = kept ++ String.ofList (List.replicate count '.') ∧
    kept.toList.getLast? ≠ some '.' ∧
      normalizedName (.dnsName name) = some (String.ofList (kept.toList.map Char.toLower))
  ipv4 : ∀ bytes, bytes.length = 4 → ∃ bits : BitVec 32, bits.toNat = unsigned bytes ∧
    normalizedName (.ipAddress bytes) = some (IpAddr.v4 bits).display
  ipv6 : ∀ bytes, bytes.length = 16 → ∃ bits : BitVec 128, bits.toNat = unsigned bytes ∧
    normalizedName (.ipAddress bytes) = some (IpAddr.v6 bits).display
  ignored : ∀ name, normalizedName name = none ↔
    name = .other ∨ ∃ bytes, name = .ipAddress bytes ∧ bytes.length ≠ 4 ∧ bytes.length ≠ 16

theorem normalizedSubjectAltNames_first (certificate : X509Certificate) :
    SubjectAltNames certificate where
  invalid h := by rw [normalizedSubjectAltNames, h, Option.map_none]
  absent h := by rw [normalizedSubjectAltNames, h, Option.map_some]
  first generalNames h := by
    have hall : (presentNames generalNames).eraseDups =
        [] ++ ((presentNames generalNames).filter (· ∉ ([] : List String))).eraseDups := by
      simp
    refine ⟨decide (maxSubjectAltNames < (presentNames generalNames).eraseDups.length), ?_, ?_⟩
    · rw [normalizedSubjectAltNames, h, Option.map_some]
      exact congrArg some (addAltNames_eq generalNames (Nat.zero_le _) _ hall)
    · rw [decide_eq_true_iff, length_eraseDups]
  dnsName name := by
    obtain ⟨count, hcount⟩ := trimEnd_append '.' name
    refine ⟨trimEnd '.' name, count, hcount, trimEnd_getLast '.' name, ?_⟩
    rw [trimEnd_toList]
    rfl
  ipv4 bytes hlength :=
    ⟨_, toNat_ofNat_unsigned (by omega), normalizedName_ipv4 hlength⟩
  ipv6 bytes hlength :=
    ⟨_, toNat_ofNat_unsigned (by omega),
      (normalizedName_of_ne (by omega)).trans (if_pos hlength)⟩
  ignored name := by
    cases name with
    | dnsName name => simp [normalizedName]
    | other => simp [normalizedName]
    | ipAddress bytes =>
      by_cases hfour : bytes.length = 4
      · simp [normalizedName_ipv4 hfour, hfour]
      · simp [normalizedName_of_ne hfour, hfour]

end Surface

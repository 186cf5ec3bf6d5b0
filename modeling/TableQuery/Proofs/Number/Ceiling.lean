import TableQuery.Number.Basic
import TableQuery.Proofs.Number.Nearest

/-!
# The ceiling of a rounded fraction

Rounding keeps to the right side of every whole number up to `2 ^ 53`, so the ceiling of what was
rounded is at most one less than the ceiling of the fraction. `Nearest.ceil_eq` gives the range in
which it is the same.
-/

namespace TableQuery.Binary64

theorem isDouble_scaled {m : ℕ} {e : ℤ} (bits : m ≤ 2 ^ 53) (low : minExponent ≤ e)
    (high : e < maxExponent) : IsDouble (m * 2 ^ e) := by
  rcases bits.lt_or_eq with short | rfl
  · refine ⟨m, e, ?_, low, high.le, by rw [Int.cast_natCast]⟩
    rw [Nat.abs_cast]
    exact_mod_cast short
  · refine ⟨2 ^ 52, e + 1, by norm_num, by omega, by omega, ?_⟩
    rw [zpow_add_one₀ two_ne_zero]
    push_cast
    ring

theorem isDouble_natCast {k : ℕ} (bits : k ≤ 2 ^ 53) : IsDouble k := by
  have double := isDouble_scaled (e := 0) bits (by decide) (by decide)
  rwa [zpow_zero, mul_one] at double

theorem ceil?_finite (negative : Bool) (m : ℕ) (e : ℤ) :
    ceil? (finite negative m e) = some ⌈(signed negative m : ℚ) * 2 ^ e⌉ := by
  generalize written : signed negative m = s
  cases e with
  | ofNat k =>
    have whole : (s : ℚ) * 2 ^ Int.ofNat k = ((s * (2 ^ k : ℕ) : ℤ) : ℚ) := by
      rw [Int.ofNat_eq_natCast, zpow_natCast]
      push_cast
      rfl
    rw [whole, Int.ceil_intCast, ceil?, written, Nat.pow_eq]
  | negSucc k =>
    have part : (s : ℚ) * 2 ^ Int.negSucc k = -(((-s : ℤ) : ℚ) / (2 ^ (k + 1) : ℕ)) := by
      rw [zpow_negSucc]
      push_cast
      ring
    rw [part, Int.ceil_neg, Rat.floor_intCast_div_natCast, ceil?, written, Nat.pow_eq]

namespace Nearest

variable {q : ℚ} {m : ℕ} {e : ℤ}

theorem le_of_le (nearest : Nearest q m e) {k : ℕ} (bits : k ≤ 2 ^ 53) (le : q ≤ k) :
    (m * 2 ^ e : ℚ) ≤ k := by
  by_contra above
  have close := nearest.nearest k (isDouble_natCast bits)
  rw [abs_of_nonpos (by linarith), abs_of_nonpos (by linarith)] at close
  linarith

theorem ge_of_ge (nearest : Nearest q m e) {k : ℕ} (bits : k ≤ 2 ^ 53) (ge : k ≤ q) :
    (k : ℚ) ≤ m * 2 ^ e := by
  by_contra below
  have close := nearest.nearest k (isDouble_natCast bits)
  rw [abs_of_nonneg (by linarith), abs_of_nonneg (by linarith)] at close
  linarith

/-- A double less than twice as far from a whole number below the fraction keeps the fraction from
being rounded to that whole number. -/
theorem gt_of_double (nearest : Nearest q m e) {k : ℕ} {y : ℚ} (double : IsDouble y) (above : k < y)
    (close : y - k < 2 * (q - k)) : (k : ℚ) < m * 2 ^ e := by
  by_contra reached
  have best := nearest.nearest y double
  have far : q - k ≤ |q - m * 2 ^ e| := (by linarith : q - k ≤ q - m * 2 ^ e).trans (le_abs_self _)
  rcases abs_cases (q - y) with ⟨same, -⟩ | ⟨same, -⟩ <;> linarith

/-- One may be missing after the rounding, and none is too many. -/
theorem ceil_bounds (nearest : Nearest q m e) (positive : 0 ≤ q) (bits : ⌈q⌉ ≤ 2 ^ 53) :
    ⌈q⌉ ≤ ⌈(m * 2 ^ e : ℚ)⌉ + 1 ∧ ⌈(m * 2 ^ e : ℚ)⌉ ≤ ⌈q⌉ := by
  obtain ⟨p, same⟩ := Int.eq_ofNat_of_zero_le (Int.ceil_nonneg positive)
  have reached : q ≤ p := by
    have le := Int.le_ceil q
    rwa [same, Int.cast_natCast] at le
  have passed : ((p - 1 : ℕ) : ℚ) ≤ q := by
    rcases p with _ | k
    · exact positive
    · have lt : (k : ℤ) < ⌈q⌉ := by omega
      exact (Int.lt_ceil.mp lt).le
  have short : p ≤ 2 ^ 53 := by omega
  have high := nearest.le_of_le short reached
  have low := (nearest.ge_of_ge (p.sub_le 1 |>.trans short) passed).trans (Int.le_ceil _)
  have ceiling : ((p - 1 : ℕ) : ℤ) ≤ ⌈(m * 2 ^ e : ℚ)⌉ := by exact_mod_cast low
  exact ⟨by omega, same ▸ Int.ceil_le.mpr high⟩

end Nearest

/-- The least positive double is less than two of `limit` parts. -/
theorem least_narrow {limit : ℕ} (narrow : limit < 2 ^ 1075) :
    (2 : ℚ) ^ minExponent * limit < 2 := by
  have wide : (limit : ℚ) < 2 ^ (1075 : ℤ) := by
    rw [zpow_ofNat]
    exact_mod_cast narrow
  have unit : (0 : ℚ) < 2 ^ minExponent := zpow_pos two_pos _
  calc (2 : ℚ) ^ minExponent * limit < 2 ^ minExponent * 2 ^ (1075 : ℤ) := by gcongr
    _ = 2 := by
      rw [← zpow_add₀ two_ne_zero]
      exact zpow_one 2

/-- A whole number with `j + 1` bits has a double one part in `2 ^ (52 - j)` above it. -/
theorem isDouble_next {j r k : ℕ} (places : j + r = 52) (high : k + 1 ≤ 2 ^ (j + 1)) :
    IsDouble (k + 2 ^ (-(r : ℤ))) := by
  have bits : k * 2 ^ r + 1 ≤ 2 ^ 53 := by
    calc k * 2 ^ r + 1 ≤ (k + 1) * 2 ^ r := by
          rw [add_one_mul]
          exact Nat.add_le_add_left Nat.one_le_two_pow _
      _ ≤ 2 ^ (j + 1) * 2 ^ r := Nat.mul_le_mul_right _ high
      _ = 2 ^ 53 := by rw [← pow_add]; congr 1; omega
  have double := isDouble_scaled (e := -r) bits (by unfold minExponent; omega)
    (by unfold maxExponent; omega)
  have unit : (2 : ℚ) ^ r * 2 ^ (-(r : ℤ)) = 1 := by
    rw [zpow_neg, zpow_natCast, mul_inv_cancel₀ (pow_ne_zero r two_ne_zero)]
  have value : ((k * 2 ^ r + 1 : ℕ) : ℚ) * 2 ^ (-(r : ℤ)) = k + 2 ^ (-(r : ℤ)) := by
    push_cast
    rw [add_mul, one_mul, mul_assoc, unit, mul_one]
  rwa [value] at double

/-- A whole number has a double above it that is less than two of `limit` parts away. -/
theorem exists_next {limit k : ℕ} (few : k * limit < 2 ^ 53) (narrow : limit < 2 ^ 1075)
    (positive : 0 < limit) : ∃ f : ℤ, IsDouble (k + 2 ^ f) ∧ (2 : ℚ) ^ f * limit < 2 := by
  rcases Nat.eq_zero_or_pos k with rfl | nonzero
  · refine ⟨minExponent, ?_, least_narrow narrow⟩
    have double := isDouble_scaled (m := 1) (e := minExponent) (by norm_num) le_rfl (by decide)
    simpa using double
  · have low : 2 ^ k.log2 ≤ k := Nat.log2_self_le nonzero.ne'
    have short : k.log2 < 53 :=
      (Nat.log2_lt nonzero.ne').mpr ((Nat.le_mul_of_pos_right k positive).trans_lt few)
    obtain ⟨r, places⟩ : ∃ r, k.log2 + r = 52 := ⟨52 - k.log2, by omega⟩
    refine ⟨-r, isDouble_next places Nat.lt_log2_self, ?_⟩
    have leading : limit < 2 * 2 ^ r := by
      have product : 2 ^ k.log2 * limit < 2 ^ k.log2 * (2 * 2 ^ r) := by
        calc 2 ^ k.log2 * limit ≤ k * limit := Nat.mul_le_mul_right limit low
          _ < 2 ^ 53 := few
          _ = 2 ^ k.log2 * (2 * 2 ^ r) := by
            rw [← Nat.pow_succ', ← pow_add]
            congr 1
            omega
      exact Nat.lt_of_mul_lt_mul_left product
    have wide : (limit : ℚ) < 2 * 2 ^ r := by exact_mod_cast leading
    rw [zpow_neg, zpow_natCast, inv_mul_lt_iff₀ (pow_pos two_pos r), mul_comm]
    exact wide

theorem ceil_of_gap {x : ℚ} {k : ℕ} (above : k < x) (le : x ≤ k + 1) : ⌈x⌉ = k + 1 := by
  rw [Int.ceil_eq_iff]
  push_cast
  exact ⟨by linarith, le⟩

/-- The fraction has the whole number below it, at least one part in `limit` away. -/
theorem exists_gap {total limit : ℕ} (filled : 0 < total) (positive : 0 < limit) :
    ∃ k : ℕ, k * limit < total ∧ 1 ≤ (total / limit - k : ℚ) * limit ∧ (total / limit : ℚ) ≤ k + 1 := by
  have wide : (0 : ℚ) < limit := by exact_mod_cast positive
  have parts : limit * ((total - 1) / limit) + (total - 1) % limit = total - 1 :=
    Nat.div_add_mod (total - 1) limit
  have small : (total - 1) % limit < limit := Nat.mod_lt _ positive
  generalize (total - 1) / limit = k at parts
  have below : k * limit + 1 ≤ total := by
    rw [mul_comm]
    omega
  have above : total ≤ (k + 1) * limit := by
    rw [add_one_mul, mul_comm]
    omega
  refine ⟨k, below, ?_, ?_⟩
  · rw [sub_mul, div_mul_cancel₀ _ wide.ne']
    have cast : (k * limit + 1 : ℚ) ≤ total := by exact_mod_cast below
    linarith
  · rw [div_le_iff₀ wide]
    exact_mod_cast above

/-- Rounding a fraction leaves its ceiling alone if its parts are small enough. -/
theorem Nearest.ceil_eq {total limit m : ℕ} {e : ℤ} (nearest : Nearest (total / limit) m e)
    (few : total ≤ 2 ^ 53) (narrow : limit < 2 ^ 1075) (positive : 0 < limit) :
    ⌈(m * 2 ^ e : ℚ)⌉ = ⌈(total / limit : ℚ)⌉ := by
  have wide : (0 : ℚ) < limit := by exact_mod_cast positive
  rcases Nat.eq_zero_or_pos total with rfl | filled
  · have fraction : ((0 : ℕ) / limit : ℚ) = 0 := by rw [Nat.cast_zero, zero_div]
    rw [fraction] at nearest ⊢
    have le := nearest.le_of_le (k := 0) (Nat.zero_le _) (by rw [Nat.cast_zero])
    have ge := nearest.ge_of_ge (k := 0) (Nat.zero_le _) (by rw [Nat.cast_zero])
    rw [le_antisymm le ge, Nat.cast_zero]
  · obtain ⟨k, less, gap, le⟩ := exists_gap filled positive
    have bits : k < 2 ^ 53 := (Nat.le_mul_of_pos_right k positive).trans_lt (less.trans_le few)
    have above : (k : ℚ) < total / limit := by
      have gap := (mul_pos_iff_of_pos_right wide).mp (one_pos.trans_le gap)
      linarith
    obtain ⟨f, double, close⟩ := exists_next (less.trans_le few) narrow positive
    have unit : (0 : ℚ) < 2 ^ f := zpow_pos two_pos f
    have kept : (k : ℚ) < m * 2 ^ e := by
      refine nearest.gt_of_double double (by linarith) ?_
      have half : (2 : ℚ) ^ f * limit < 2 * (total / limit - k) * limit := by linarith
      have less := lt_of_mul_lt_mul_right half wide.le
      linarith
    have under : (m * 2 ^ e : ℚ) ≤ (k + 1 : ℕ) :=
      nearest.le_of_le bits (by push_cast; exact le)
    rw [ceil_of_gap above le, ceil_of_gap kept (by push_cast at under; exact under)]

end TableQuery.Binary64

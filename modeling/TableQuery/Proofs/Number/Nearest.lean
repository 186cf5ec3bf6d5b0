import Mathlib
import TableQuery.Number.Binary64

/-!
# The double nearest to a fraction

`round` works with natural numbers only: it finds the place of the last bit, divides there, and
carries. `round_nearest` says what comes out, which is the double that is nearest to the fraction,
and `round_infinite` from where on there is none.
-/

namespace TableQuery

namespace Binary64

/-- The numbers that doubles stand for. -/
def IsDouble (x : ℚ) : Prop :=
  ∃ m e : ℤ, |m| < 2 ^ 53 ∧ minExponent ≤ e ∧ e ≤ maxExponent ∧ x = m * 2 ^ e

/-- Half a place above the greatest double. -/
def overflow : ℚ := (2 ^ 53 - 1 / 2) * 2 ^ maxExponent

/-- No double is nearer to `q` than `m * 2 ^ e`, and if another one is as near then `m` is even. -/
structure Nearest (q : ℚ) (m : ℕ) (e : ℤ) : Prop where
  significand : m < 2 ^ 53
  lowest : minExponent ≤ e
  highest : e ≤ maxExponent
  normal : 2 ^ 52 ≤ m ∨ e = minExponent
  nearest : ∀ y, IsDouble y → |q - m * 2 ^ e| ≤ |q - y|
  even : ∀ y, IsDouble y → y ≠ m * 2 ^ e → |q - m * 2 ^ e| = |q - y| → Even m

/-! ### Rounding at one place -/

theorem roundDiv_near (num : ℕ) {den : ℕ} (positive : 0 < den) :
    let m := roundDiv num den
    2 * num ≤ (2 * m + 1) * den ∧ 2 * m * den ≤ 2 * num + den ∧
      (2 * num = (2 * m + 1) * den ∨ 2 * m * den = 2 * num + den → Even m) := by
  have parts : den * (num / den) + num % den = num := Nat.div_add_mod num den
  have small : num % den < den := Nat.mod_lt num positive
  unfold roundDiv
  generalize num / den = q at parts ⊢
  generalize num % den = r at parts small ⊢
  subst parts
  dsimp only
  split
  · refine ⟨by nlinarith, by nlinarith, ?_⟩
    rintro (tie | tie) <;> nlinarith
  · split
    · refine ⟨by nlinarith, by nlinarith, ?_⟩
      rintro (tie | tie) <;> nlinarith
    · have half : 2 * r = den := by omega
      refine ⟨?_, ?_, fun _ => ?_⟩
      · rcases Nat.mod_two_eq_zero_or_one q with even | odd <;> simp only [*] <;> nlinarith
      · rcases Nat.mod_two_eq_zero_or_one q with even | odd <;> simp only [*] <;> nlinarith
      · rw [Nat.even_iff]
        omega

/-- The natural number next to `t`, the even one of two. -/
structure Rounds (t : ℚ) (m : ℕ) : Prop where
  near : |t - m| ≤ 1 / 2
  even : |t - m| = 1 / 2 → Even m

theorem roundDiv_rounds {num den : ℕ} (positive : 0 < den) :
    Rounds (num / den : ℚ) (roundDiv num den) := by
  obtain ⟨above, below, tie⟩ := roundDiv_near num positive
  generalize roundDiv num den = m at above below tie ⊢
  have wide : (0 : ℚ) < den := by exact_mod_cast positive
  have high : (2 * num : ℚ) ≤ (2 * m + 1) * den := by exact_mod_cast above
  have low : (2 * m * den : ℚ) ≤ 2 * num + den := by exact_mod_cast below
  have upper : (num / den : ℚ) ≤ m + 1 / 2 := by
    rw [div_le_iff₀ wide]
    linarith
  have lower : (m - 1 / 2 : ℚ) ≤ num / den := by
    rw [le_div_iff₀ wide]
    linarith
  refine ⟨abs_le.mpr ⟨by linarith, by linarith⟩, fun half => tie ?_⟩
  rcases (abs_eq (by norm_num)).mp half with up | down
  · left
    have equal : (num / den : ℚ) = m + 1 / 2 := by linarith
    rw [div_eq_iff wide.ne'] at equal
    have doubled : (2 * num : ℚ) = (2 * m + 1) * den := by linarith
    exact_mod_cast doubled
  · right
    have equal : (num / den : ℚ) = m - 1 / 2 := by linarith
    rw [div_eq_iff wide.ne'] at equal
    have doubled : (2 * m * den : ℚ) = 2 * num + den := by linarith
    exact_mod_cast doubled

theorem Rounds.apart {t : ℚ} {m : ℕ} (rounds : Rounds t m) {j : ℤ} (other : j ≠ m) :
    1 / 2 ≤ |t - j| ∧ (|t - m| = |t - j| → Even m) := by
  have whole : 1 ≤ |j - m| := Int.one_le_abs (sub_ne_zero.mpr other)
  have apart : (1 : ℚ) ≤ |(j : ℚ) - m| := by exact_mod_cast whole
  have way : |(j : ℚ) - m| ≤ |(j : ℚ) - t| + |t - m| := abs_sub_le (j : ℚ) t m
  rw [abs_sub_comm (j : ℚ) t] at way
  have near := rounds.near
  exact ⟨by linarith, fun tie => rounds.even (by linarith)⟩

theorem Rounds.nearest {t : ℚ} {m : ℕ} (rounds : Rounds t m) (j : ℤ) : |t - m| ≤ |t - j| := by
  by_cases same : j = m
  · rw [same, Int.cast_natCast]
  · exact rounds.near.trans (rounds.apart same).1

/-! ### The place of the last bit -/

theorem two_mul_zpow_le {e f : ℤ} (lower : e < f) : (2 : ℚ) * 2 ^ e ≤ 2 ^ f := by
  rw [← zpow_one_add₀ two_ne_zero]
  exact zpow_le_zpow_right₀ one_le_two (by omega)

theorem scaleDown_pos {num den : ℕ} (positive : 0 < den) (e : ℤ) :
    0 < (scaleDown num den e).2 := by
  cases e with
  | ofNat k => exact Nat.mul_pos positive (Nat.two_pow_pos k)
  | negSucc k => exact positive

theorem scaleDown_eq (num den : ℕ) (e : ℤ) :
    ((scaleDown num den e).1 / (scaleDown num den e).2 : ℚ) = num / den / 2 ^ e := by
  cases e with
  | ofNat k =>
    simp only [scaleDown, Nat.pow_eq, Int.ofNat_eq_natCast, zpow_natCast]
    push_cast
    rw [div_div]
  | negSucc k =>
    simp only [scaleDown, Nat.pow_eq, zpow_negSucc]
    push_cast
    rw [div_inv_eq_mul, div_mul_eq_mul_div]

theorem log2_bounds {n : ℕ} (positive : 0 < n) :
    (2 : ℚ) ^ (n.log2 : ℤ) ≤ n ∧ (n : ℚ) < 2 ^ ((n.log2 : ℤ) + 1) := by
  constructor
  · rw [zpow_natCast]
    exact_mod_cast Nat.log2_self_le positive.ne'
  · have above : n < 2 ^ (n.log2 + 1) := Nat.lt_log2_self
    exact_mod_cast above

/-- The quotient of the leading bits misses the quotient by less than one bit on either side. -/
theorem lead_bounds {num den : ℕ} (some : 0 < num) (positive : 0 < den) :
    let lead := (num.log2 : ℤ) - den.log2 - 53
    (2 ^ 52 * 2 ^ lead : ℚ) ≤ num / den ∧ (num / den : ℚ) < 2 ^ 54 * 2 ^ lead := by
  intro lead
  have wide : (0 : ℚ) < den := by exact_mod_cast positive
  obtain ⟨num_low, num_high⟩ := log2_bounds some
  obtain ⟨den_low, den_high⟩ := log2_bounds positive
  constructor
  · rw [le_div_iff₀ wide]
    calc (2 : ℚ) ^ 52 * 2 ^ lead * den ≤ 2 ^ 52 * 2 ^ lead * 2 ^ ((den.log2 : ℤ) + 1) := by gcongr
      _ = 2 ^ (num.log2 : ℤ) := by
        rw [← zpow_natCast, ← zpow_add₀ two_ne_zero, ← zpow_add₀ two_ne_zero]
        congr 1
        simp only [lead]
        push_cast
        ring
      _ ≤ num := num_low
  · rw [div_lt_iff₀ wide]
    calc (num : ℚ) < 2 ^ ((num.log2 : ℤ) + 1) := num_high
      _ = 2 ^ 54 * 2 ^ lead * 2 ^ (den.log2 : ℤ) := by
        rw [← zpow_natCast, ← zpow_add₀ two_ne_zero, ← zpow_add₀ two_ne_zero]
        congr 1
        simp only [lead]
        push_cast
        ring
      _ ≤ 2 ^ 54 * 2 ^ lead * den := by gcongr

theorem scaleDown_lt_iff (num : ℕ) {den : ℕ} (positive : 0 < den) (e : ℤ) (k : ℕ) :
    (scaleDown num den e).1 / (scaleDown num den e).2 < k ↔ (num / den : ℚ) < k * 2 ^ e := by
  have unit : (0 : ℚ) < 2 ^ e := zpow_pos two_pos e
  have below : (0 : ℚ) < (scaleDown num den e).2 := by exact_mod_cast scaleDown_pos positive e
  rw [Nat.div_lt_iff_lt_mul (scaleDown_pos positive e), ← div_lt_iff₀ unit, ← scaleDown_eq,
    div_lt_iff₀ below]
  exact_mod_cast Iff.rfl

/-- The fraction lies in the range of significands of 53 bits at that place, or below it if there is
no lower place. -/
theorem lastPlace_bounds {num den : ℕ} (some : 0 < num) (positive : 0 < den) :
    let e := lastPlace num den
    let q : ℚ := num / den
    minExponent ≤ e ∧ q < 2 ^ 53 * 2 ^ e ∧ (e = minExponent ∨ 2 ^ 52 * 2 ^ e ≤ q) := by
  intro e q
  obtain ⟨low, high⟩ := lead_bounds some positive
  generalize at_lead : (num.log2 : ℤ) - den.log2 - 53 = lead at low high
  have short := scaleDown_lt_iff num positive lead (2 ^ 53)
  rw [Nat.cast_pow, Nat.cast_ofNat] at short
  have step : (2 : ℚ) ^ (lead + 1) = 2 * 2 ^ lead := zpow_add_one₀ two_ne_zero lead |>.trans (mul_comm _ _)
  -- One test decides between the two places that are left.
  obtain ⟨e', low', high', placed⟩ : ∃ e' : ℤ, 2 ^ 52 * (2 : ℚ) ^ e' ≤ q ∧ q < 2 ^ 53 * 2 ^ e' ∧
      e = max minExponent e' := by
    subst at_lead
    by_cases fits : q < 2 ^ 53 * 2 ^ ((num.log2 : ℤ) - den.log2 - 53)
    · exact ⟨_, low, fits, congrArg (max minExponent) (if_pos (short.mpr fits))⟩
    · refine ⟨_, ?_, ?_, congrArg (max minExponent) (if_neg (mt short.mp fits))⟩
      · rw [step]
        linarith [not_lt.mp fits]
      · rw [step]
        linarith
  have reached : (2 : ℚ) ^ e' ≤ 2 ^ e := by
    rw [placed]
    exact zpow_le_zpow_right₀ one_le_two (le_max_right _ _)
  refine ⟨placed ▸ le_max_left _ _, by linarith, ?_⟩
  rcases max_choice minExponent e' with lowest | here
  · exact .inl (placed.trans lowest)
  · exact .inr (by rw [placed, here]; exact low')

/-! ### Rounding -/

/-- A fraction between two neighbours of 53 bits, and the natural number next to it there. -/
structure Placed (q : ℚ) (m : ℕ) (e : ℤ) : Prop where
  lowest : minExponent ≤ e
  below : q < 2 ^ 53 * 2 ^ e
  above : e = minExponent ∨ 2 ^ 52 * 2 ^ e ≤ q
  rounds : Rounds (q / 2 ^ e) m

namespace Placed

variable {q y : ℚ} {m : ℕ} {e : ℤ}

theorem le (placed : Placed q m e) : m ≤ 2 ^ 53 := by
  have unit : (0 : ℚ) < 2 ^ e := zpow_pos two_pos e
  have below : q / 2 ^ e < 2 ^ 53 := (div_lt_iff₀ unit).mpr placed.below
  have near := abs_le.mp placed.rounds.near
  have less : (m : ℚ) < 2 ^ 53 + 1 := by linarith
  have whole : m < 2 ^ 53 + 1 := by exact_mod_cast less
  omega

theorem normal (placed : Placed q m e) : 2 ^ 52 ≤ m ∨ e = minExponent := by
  have unit : (0 : ℚ) < 2 ^ e := zpow_pos two_pos e
  rcases placed.above with lowest | above
  · exact .inr lowest
  · have above : 2 ^ 52 ≤ q / 2 ^ e := (le_div_iff₀ unit).mpr above
    have near := abs_le.mp placed.rounds.near
    have less : (2 ^ 52 : ℚ) < m + 1 := by linarith
    have whole : 2 ^ 52 < m + 1 := by exact_mod_cast less
    exact .inl (by omega)

theorem distance (q : ℚ) (e : ℤ) (j : ℚ) : |q - j * 2 ^ e| = |q / 2 ^ e - j| * 2 ^ e := by
  have unit : (0 : ℚ) < 2 ^ e := zpow_pos two_pos e
  rw [← abs_of_pos unit, ← abs_mul, abs_of_pos unit, sub_mul, div_mul_cancel₀ q unit.ne']

/-- A double is a multiple of the last place, or it is less than all that have 53 bits there. -/
theorem double_cases (placed : Placed q m e) (double : IsDouble y) :
    (∃ j : ℤ, y = j * 2 ^ e) ∨ y < 2 ^ 52 * 2 ^ e ∧ 2 ^ 52 * 2 ^ e ≤ q := by
  obtain ⟨k, f, bits, low, -, rfl⟩ := double
  rcases le_or_gt e f with coarse | fine
  · left
    obtain ⟨n, rfl⟩ : ∃ n : ℕ, f = e + n := ⟨(f - e).toNat, by omega⟩
    refine ⟨k * 2 ^ n, ?_⟩
    rw [zpow_add₀ two_ne_zero, zpow_natCast]
    push_cast
    ring
  · right
    have above : 2 ^ 52 * 2 ^ e ≤ q := by
      rcases placed.above with lowest | above
      · omega
      · exact above
    have half : (2 : ℚ) * 2 ^ f ≤ 2 ^ e := two_mul_zpow_le fine
    have bits : (k : ℚ) < 2 ^ 53 := by exact_mod_cast (le_abs_self k).trans_lt bits
    refine ⟨?_, above⟩
    calc (k : ℚ) * 2 ^ f < 2 ^ 53 * 2 ^ f := by gcongr
      _ = 2 ^ 52 * (2 * 2 ^ f) := by ring
      _ ≤ 2 ^ 52 * 2 ^ e := by gcongr

theorem nearest (placed : Placed q m e) (double : IsDouble y) :
    |q - m * 2 ^ e| ≤ |q - y| ∧ (y ≠ m * 2 ^ e → |q - m * 2 ^ e| = |q - y| → Even m) := by
  have unit : (0 : ℚ) < 2 ^ e := zpow_pos two_pos e
  rcases placed.double_cases double with ⟨j, rfl⟩ | ⟨less, above⟩
  · rw [distance, distance]
    refine ⟨mul_le_mul_of_nonneg_right (placed.rounds.nearest j) unit.le, fun other tie => ?_⟩
    have different : j ≠ m := by
      rintro rfl
      exact other (by rw [Int.cast_natCast])
    exact (placed.rounds.apart different).2 (mul_right_cancel₀ unit.ne' tie)
  · -- The least multiple of 53 bits lies between `y` and the fraction.
    have between : |q - m * 2 ^ e| < |q - y| := by
      calc |q - m * 2 ^ e| ≤ |q - ((2 ^ 52 : ℤ) : ℚ) * 2 ^ e| := by
            rw [distance, distance]
            exact mul_le_mul_of_nonneg_right (placed.rounds.nearest _) unit.le
        _ = q - 2 ^ 52 * 2 ^ e := by
            push_cast
            exact abs_of_nonneg (by linarith)
        _ < q - y := by linarith
        _ ≤ |q - y| := le_abs_self _
    exact ⟨between.le, fun _ tie => (between.ne tie).elim⟩

/-- The rounding carries from half a place above the greatest significand on. That one is odd, so a
tie does not stay with it. -/
theorem carry_iff (placed : Placed q m e) : 2 ^ 53 - 1 / 2 ≤ q / 2 ^ e ↔ m = 2 ^ 53 := by
  have near := abs_le.mp placed.rounds.near
  constructor
  · intro high
    by_contra short
    have last : m ≤ 9007199254740991 := by
      have := placed.le
      omega
    have most : (m : ℚ) ≤ 9007199254740991 := by exact_mod_cast last
    have same : (m : ℚ) = 9007199254740991 := by linarith
    have half : |q / 2 ^ e - m| = 1 / 2 := by
      rw [abs_of_nonneg (by linarith)]
      linarith
    have even := placed.rounds.even half
    have odd : m = 9007199254740991 := by exact_mod_cast same
    rw [odd] at even
    exact absurd even (by decide)
  · rintro rfl
    push_cast at near
    linarith

/-- A fraction overflows when its last place or the carry does. -/
theorem overflow_le_iff (placed : Placed q m e) :
    overflow ≤ q ↔ maxExponent < e ∨ e = maxExponent ∧ m = 2 ^ 53 := by
  unfold overflow
  rcases lt_trichotomy e maxExponent with lower | rfl | higher
  · have small : q < (2 ^ 53 - 1 / 2) * 2 ^ maxExponent := by
      have twice := two_mul_zpow_le lower
      linarith [placed.below, zpow_pos (two_pos (α := ℚ)) e]
    refine ⟨fun large => (small.not_ge large).elim, ?_⟩
    rintro (above | ⟨same, -⟩) <;> omega
  · rw [← le_div_iff₀ (zpow_pos two_pos _), placed.carry_iff]
    simp
  · have large : (2 ^ 53 - 1 / 2) * 2 ^ maxExponent ≤ q := by
      have twice := two_mul_zpow_le higher
      have positive : (0 : ℚ) < 2 ^ maxExponent := zpow_pos two_pos _
      have lowest : e ≠ minExponent := by
        unfold minExponent
        unfold maxExponent at higher
        omega
      linarith [placed.above.resolve_left lowest]
    exact ⟨fun _ => .inl higher, fun _ => large⟩

end Placed

/-- The natural number next to a fraction at its last place. -/
def significand (num den : ℕ) : ℕ :=
  let q := scaleDown num den (lastPlace num den)
  roundDiv q.1 q.2

theorem placed_significand {num den : ℕ} (some : 0 < num) (positive : 0 < den) :
    Placed (num / den) (significand num den) (lastPlace num den) := by
  obtain ⟨lowest, below, above⟩ := lastPlace_bounds some positive
  refine ⟨lowest, below, above, ?_⟩
  rw [← scaleDown_eq]
  exact roundDiv_rounds (scaleDown_pos positive _)

theorem round_eq (negative : Bool) {num : ℕ} (some : 0 < num) (den : ℕ) :
    let m := significand num den
    let e := lastPlace num den
    round negative num den =
      if m = 2 ^ 53 then if maxExponent < e + 1 then infinity negative else finite negative (2 ^ 52) (e + 1)
      else if maxExponent < e then infinity negative else finite negative m e := by
  intro m e
  have same : roundDiv (scaleDown num den e).1 (scaleDown num den e).2 = m := rfl
  unfold round
  simp only [if_neg some.ne', same, e, beq_iff_eq, Nat.pow_eq]
  by_cases carry : m = 2 ^ 53
  · simp only [if_pos carry]
  · simp only [if_neg carry]

/-- What rounds at its last place is the nearest double, also if the rounding carries. -/
theorem Placed.double {q : ℚ} {m : ℕ} {e : ℤ} (placed : Placed q m e) (small : q < overflow) :
    if m = 2 ^ 53 then e + 1 ≤ maxExponent ∧ Nearest q (2 ^ 52) (e + 1)
    else e ≤ maxExponent ∧ Nearest q m e := by
  have within := mt placed.overflow_le_iff.mpr small.not_ge
  rw [not_or, not_and, not_lt] at within
  obtain ⟨within, uncarried⟩ := within
  have nearest : ∀ y, IsDouble y → _ := fun y double => placed.nearest (y := y) double
  split
  · rename_i carry
    have inside : e + 1 ≤ maxExponent := by
      have other : e ≠ maxExponent := fun last => uncarried last carry
      omega
    have value : ((2 ^ 52 : ℕ) : ℚ) * 2 ^ (e + 1) = m * 2 ^ e := by
      rw [carry, zpow_add_one₀ two_ne_zero]
      push_cast
      ring
    refine ⟨inside, by norm_num, by have := placed.lowest; omega, inside, .inl le_rfl, ?_, ?_⟩
    · intro y double
      rw [value]
      exact (nearest y double).1
    · intro _ _ _ _
      decide
  · rename_i uncarry
    refine ⟨within, ?_, placed.lowest, within, placed.normal, ?_, ?_⟩
    · have := placed.le
      omega
    · exact fun y double => (nearest y double).1
    · exact fun y double => (nearest y double).2

theorem round_nearest (negative : Bool) {num den : ℕ} (positive : 0 < den)
    (small : (num / den : ℚ) < overflow) :
    ∃ m e, round negative num den = finite negative m e ∧ Nearest (num / den) m e := by
  rcases Nat.eq_zero_or_pos num with rfl | some
  · refine ⟨0, minExponent, rfl, by norm_num, le_rfl, by decide, .inr rfl, ?_, fun _ _ _ _ => ⟨0, rfl⟩⟩
    intro y _
    simp
  · have double := (placed_significand some positive).double small
    rw [round_eq negative some]
    split at double
    · rename_i carry
      rw [if_pos carry, if_neg double.1.not_gt]
      exact ⟨_, _, rfl, double.2⟩
    · rename_i uncarry
      rw [if_neg uncarry, if_neg double.1.not_gt]
      exact ⟨_, _, rfl, double.2⟩

theorem round_infinite (negative : Bool) {num den : ℕ} (positive : 0 < den)
    (large : overflow ≤ (num / den : ℚ)) : round negative num den = infinity negative := by
  have some : 0 < num := by
    rcases Nat.eq_zero_or_pos num with rfl | some
    · have above : (0 : ℚ) < overflow := mul_pos (by norm_num) (zpow_pos two_pos _)
      simp only [Nat.cast_zero, zero_div] at large
      linarith
    · exact some
  have placed := placed_significand some positive
  rw [round_eq negative some]
  rcases placed.overflow_le_iff.mp large with above | ⟨last, carry⟩
  · have carried : maxExponent < lastPlace num den + 1 := by omega
    rw [if_pos above, if_pos carried, ite_self]
  · rw [if_pos carry, if_pos (by omega)]

end Binary64

end TableQuery

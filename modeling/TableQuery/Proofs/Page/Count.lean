import TableQuery.Page
import TableQuery.Proofs.Except
import TableQuery.Proofs.Number.Ceiling

/-!
# The number of pages

The number of pages is the ceiling of a double. `totalPages_rounded` says which double that is, and
where the rounding does not show: up to `2 ^ 53` rows the number is the least one of pages that hold
them all, and the last page is the one that has no next.
-/

namespace TableQuery.Page

open Binary64 (Nearest overflow)

theorem totalPages_eq (total limit : ℤ) (current : Value) (items : List Value) :
    totalPages ⟨.int total, .int limit, current, items⟩ =
      (Number.quotient total limit).mapError .number >>= fun q =>
        (q.toInteger Binary64.ceil?).mapError .number := rfl

section Naturals

variable {total limit : ℕ} (positive : 0 < limit)
include positive

theorem quotient_natCast (total : ℕ) :
    Number.quotient total limit =
      match Binary64.round false total limit with
      | .infinity _ => .error .quotientTooLarge
      | x => .ok x := by
  have nonzero : (limit : ℤ) ≠ 0 := by omega
  have unsigned (n : ℕ) : decide ((n : ℤ) < 0) = false := decide_eq_false (by omega)
  unfold Number.quotient
  rw [if_neg nonzero, unsigned, unsigned]
  rfl

theorem totalPages_nearest (current : Value) (items : List Value)
    (small : (total / limit : ℚ) < overflow) :
    ∃ m e, Nearest (total / limit) m e ∧
      totalPages ⟨.int total, .int limit, current, items⟩ = .ok ⌈(m * 2 ^ e : ℚ)⌉ := by
  obtain ⟨m, e, rounded, nearest⟩ := Binary64.round_nearest false positive small
  have ceiling : Binary64.ceil? (.finite false m e) = some ⌈(m * 2 ^ e : ℚ)⌉ :=
    Binary64.ceil?_finite false m e
  refine ⟨m, e, nearest, ?_⟩
  rw [totalPages_eq, quotient_natCast positive, rounded]
  show (Binary64.toInteger Binary64.ceil? (.finite false m e)).mapError Fault.number = _
  simp only [Binary64.toInteger, ceiling]
  rfl

theorem totalPages_overflow (current : Value) (items : List Value)
    (large : overflow ≤ (total / limit : ℚ)) :
    totalPages ⟨.int total, .int limit, current, items⟩ = .error (.number .quotientTooLarge) := by
  rw [totalPages_eq, quotient_natCast positive, Binary64.round_infinite false positive large]
  rfl

/-- The ceiling of the exact fraction is the least number of pages that hold all rows. -/
theorem isLeast_ceil (total : ℕ) :
    IsLeast {k : ℤ | (total : ℤ) ≤ k * limit} ⌈(total / limit : ℚ)⌉ := by
  have wide : (0 : ℚ) < limit := by exact_mod_cast positive
  have holds (k : ℤ) : (total : ℤ) ≤ k * limit ↔ ⌈(total / limit : ℚ)⌉ ≤ k := by
    rw [Int.ceil_le, div_le_iff₀ wide]
    exact_mod_cast Iff.rfl
  exact ⟨(holds _).mpr le_rfl, fun k held => (holds k).mp held⟩

theorem fraction_lt_overflow (few : total ≤ 2 ^ 53) : (total / limit : ℚ) < overflow := by
  have whole : (total / limit : ℚ) ≤ 2 ^ 53 := by
    have least : (1 : ℚ) ≤ limit := by exact_mod_cast positive
    have most : (total : ℚ) ≤ 2 ^ 53 := by exact_mod_cast few
    exact (div_le_self (Nat.cast_nonneg _) least).trans most
  have above : (2 : ℚ) ^ (1 : ℤ) ≤ 2 ^ Binary64.maxExponent :=
    zpow_le_zpow_right₀ one_le_two (by decide)
  unfold overflow
  rw [zpow_one] at above
  linarith

/-- Up to `2 ^ 53` rows the rounding does not show. -/
theorem totalPages_exact (current : Value) (items : List Value) (few : total ≤ 2 ^ 53)
    (narrow : limit < 2 ^ 1075) :
    totalPages ⟨.int total, .int limit, current, items⟩ = .ok ⌈(total / limit : ℚ)⌉ := by
  obtain ⟨m, e, nearest, counted⟩ :=
    totalPages_nearest positive current items (fraction_lt_overflow positive few)
  rw [counted, nearest.ceil_eq few narrow positive]

end Naturals

/-! ### The pages before and after -/

theorem less_whole (i j : ℤ) : Number.less (.whole i) (.whole j) = decide (i < j) := by
  rw [Bool.eq_iff_iff, decide_eq_true_iff]
  simp only [Number.less, Number.compare?, beq_iff_eq, Option.some.injEq, compare_lt_iff_lt]

theorem nextPage_eq {total limit : Value} {items : List Value} {n : ℤ} (current : ℤ)
    (counted : totalPages ⟨total, limit, .int current, items⟩ = .ok n) :
    nextPage ⟨total, limit, .int current, items⟩ =
      .ok (if current < n then .int (current + 1) else .none) := by
  have next : (Number.whole current).add (.whole 1) = .ok (.whole (current + 1)) := rfl
  simp only [nextPage, counted, number?, Value.number?, ok_bind, less_whole, next, decide_eq_true_eq]
  split
  · rfl
  · rfl

theorem prevPage_eq (total limit : Value) (current : ℤ) (items : List Value) :
    prevPage ⟨total, limit, .int current, items⟩ =
      .ok (if 1 < current then .int (current - 1) else .none) := by
  have back : (Number.whole current).sub (.whole 1) = .ok (.whole (current - 1)) := rfl
  simp only [prevPage, before, number?, Value.number?, ok_bind, less_whole, back, decide_eq_true_eq]
  split
  · rfl
  · rfl

theorem nextPage_error {p : Page} {f : Fault} (uncounted : p.totalPages = .error f) :
    p.nextPage = .error f := by
  rw [nextPage, uncounted, error_bind]

theorem nextPage_eq_none_iff {total limit : Value} {items : List Value} {n : ℤ} (current : ℤ)
    (counted : totalPages ⟨total, limit, .int current, items⟩ = .ok n) :
    nextPage ⟨total, limit, .int current, items⟩ = .ok .none ↔ n ≤ current := by
  rw [nextPage_eq current counted]
  split
  · rename_i before
    exact ⟨nofun, fun passed => (before.not_ge passed).elim⟩
  · rename_i reached
    exact ⟨fun _ => not_lt.mp reached, fun _ => rfl⟩

/-- The pages are counted by the ceiling of the double nearest to the fraction of total and limit. A
fraction that overflows is a fault. Up to a count of `2 ^ 53` one page may be missing. Up to a total of
`2 ^ 53` none is: their number is the least that holds all rows, and the pages from there on have no
next. -/
theorem totalPages_rounded (total : ℕ) {limit : ℕ} (positive : 0 < limit) (current : ℤ)
    (items : List Value) :
    let p : Page := ⟨.int total, .int limit, .int current, items⟩
    let q : ℚ := total / limit
    let least := {k : ℤ | (total : ℤ) ≤ k * limit}
    (overflow ≤ q → p.totalPages = .error (.number .quotientTooLarge) ∧
      p.nextPage = .error (.number .quotientTooLarge)) ∧
    (q < overflow → ∃ m e n, Nearest q m e ∧ n = ⌈(m * 2 ^ e : ℚ)⌉ ∧ p.totalPages = .ok n ∧
      (p.nextPage = .ok .none ↔ n ≤ current) ∧
      ∃ exact, IsLeast least exact ∧ (exact ≤ 2 ^ 53 → exact ≤ n + 1 ∧ n ≤ exact)) ∧
    (total ≤ 2 ^ 53 → limit < 2 ^ 1075 → ∃ n, p.totalPages = .ok n ∧ IsLeast least n ∧
      (p.nextPage = .ok .none ↔ total ≤ current * limit)) := by
  intro p q least
  have ceiling : IsLeast least ⌈q⌉ := isLeast_ceil positive total
  refine ⟨fun large => ?_, fun small => ?_, fun few narrow => ?_⟩
  · have uncounted : p.totalPages = _ := totalPages_overflow positive (.int current) items large
    exact ⟨uncounted, nextPage_error uncounted⟩
  · obtain ⟨m, e, nearest, counted⟩ := totalPages_nearest positive (.int current) items small
    refine ⟨m, e, _, nearest, rfl, counted, nextPage_eq_none_iff current counted, ⌈q⌉, ceiling, ?_⟩
    exact nearest.ceil_bounds (by positivity)
  · have counted : p.totalPages = .ok ⌈q⌉ :=
      totalPages_exact positive (.int current) items few narrow
    refine ⟨⌈q⌉, counted, ceiling, (nextPage_eq_none_iff current counted).trans ⟨?_, ?_⟩⟩
    · intro passed
      exact ceiling.1.trans (mul_le_mul_of_nonneg_right passed (Int.natCast_nonneg limit))
    · intro held
      exact ceiling.2 held

/-- The most rows for which no page is missing, three to a page. -/
theorem totalPages_rounded_most :
    let p : Page := ⟨.int 9007199254740992, .int 3, .int 3002399751580330, []⟩
    p.totalPages = .ok 3002399751580331 ∧
      IsLeast {k : ℤ | 9007199254740992 ≤ k * 3} 3002399751580331 ∧ p.nextPage ≠ .ok .none := by
  intro p
  have narrow (k : ℕ) (many : 2 ≤ k) : 3 < 2 ^ k :=
    (by decide : 3 < 2 ^ 2).trans_le (Nat.pow_le_pow_right (by decide) many)
  obtain ⟨-, -, exact⟩ :=
    @totalPages_rounded 9007199254740992 3 (by decide) 3002399751580330 []
  obtain ⟨n, counted, least, last⟩ := exact le_rfl (narrow 1075 (by decide))
  have known : p.totalPages = .ok 3002399751580331 := rfl
  obtain rfl : n = 3002399751580331 := Except.ok.inj (counted.symm.trans known)
  exact ⟨known, least, mt last.mp (by decide)⟩

/-- With one row more a page is missing: the last row is on no page that is reached. -/
theorem totalPages_rounded_missing :
    let p : Page := ⟨.int 9007199254740993, .int 1, .int 9007199254740992, []⟩
    p.totalPages = .ok 9007199254740992 ∧ p.nextPage = .ok .none ∧
      ¬ (9007199254740993 : ℤ) ≤ 9007199254740992 * 1 ∧
      IsLeast {k : ℤ | (9007199254740993 : ℤ) ≤ k * 1} 9007199254740993 := by
  refine ⟨rfl, rfl, by decide, by simp, fun k held => ?_⟩
  simpa using held

end TableQuery.Page

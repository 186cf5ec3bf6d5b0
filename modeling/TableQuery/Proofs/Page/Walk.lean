import TableQuery.Proofs.Page.Count

/-!
# From page to page

Who starts at the first page and goes on to the next as long as there is one sees every row once.
`visits_partition` says so for up to `2 ^ 53` rows.
-/

namespace TableQuery.Page

/-- The pages seen on the way from a page to one that has no next. -/
inductive Visits : Page → List Page → Prop
  | last {p : Page} (ends : p.nextPage = .ok .none) : Visits p [p]
  | next {p : Page} {k : ℤ} {ps : List Page} (goes : p.nextPage = .ok (.int k))
      (rest : Visits { p with current := .int k } ps) : Visits p (p :: ps)

/-- The positions of the rows of a page: from its offset on as many as its limit, cut at the total. -/
def rows (p : Page) : Set ℤ :=
  {i | ∃ first limit total, p.offset = .ok (.int first) ∧ p.limit = .int limit ∧
    p.total = .int total ∧ first ≤ i ∧ i < first + limit ∧ i < total}

section Numbered

variable (total limit : ℕ) (items : List Value)

/-- The pages of one result by their numbers. -/
def numbered (k : ℕ) : Page := ⟨.int total, .int limit, .int k, items⟩

variable {total limit items}

theorem mem_rows {k : ℕ} {i : ℤ} :
    i ∈ (numbered total limit items (k + 1)).rows ↔
      (limit * k : ℤ) ≤ i ∧ i < limit * k + limit ∧ i < total := by
  have first : (numbered total limit items (k + 1)).offset = .ok (.int (limit * k)) := by
    have placed : (numbered total limit items (k + 1)).offset =
        .ok (.int ((limit : ℤ) * (((k + 1 : ℕ) : ℤ) - 1))) := rfl
    rw [placed, Nat.cast_add_one, add_sub_cancel_right]
  constructor
  · rintro ⟨_, _, _, placed, sized, counted, low, high, within⟩
    rw [first] at placed
    cases placed
    cases sized
    cases counted
    exact ⟨low, high, within⟩
  · rintro ⟨low, high, within⟩
    exact ⟨_, _, _, first, rfl, rfl, low, high, within⟩

/-! ### The way -/

theorem nextPage_numbered {n : ℕ} (counted : ∀ k, (numbered total limit items k).totalPages = .ok n)
    (k : ℕ) : (numbered total limit items k).nextPage =
      .ok (if k < n then .int (k + 1 : ℕ) else .none) := by
  have next := nextPage_eq (k : ℤ) (counted k)
  rw [numbered, next]
  simp

theorem visits_numbered {n : ℕ} (counted : ∀ k, (numbered total limit items k).totalPages = .ok n)
    (k : ℕ) (ps : List Page) :
    Visits (numbered total limit items k) ps ↔
      ps = (List.range' k (max 1 (n + 1 - k))).map (numbered total limit items) := by
  have next := nextPage_numbered counted
  generalize left : n - k = d
  induction d generalizing k ps with
  | zero =>
    have one : max 1 (n + 1 - k) = 1 := by omega
    have ends : (numbered total limit items k).nextPage = .ok .none := by
      rw [next, if_neg (by omega)]
    rw [one]
    constructor
    · intro way
      cases way with
      | last => rfl
      | next goes => rw [ends] at goes; cases goes
    · rintro rfl
      exact .last ends
  | succ d ih =>
    have more : max 1 (n + 1 - k) = max 1 (n + 1 - (k + 1)) + 1 := by omega
    have goes : (numbered total limit items k).nextPage = .ok (.int (k + 1 : ℕ)) := by
      rw [next, if_pos (by omega)]
    have rest := ih (k + 1)
    rw [more, List.range'_succ, List.map_cons]
    constructor
    · intro way
      cases way with
      | last ends => rw [goes] at ends; cases ends
      | next goes' rest' =>
        rw [goes] at goes'
        cases goes'
        rw [(rest _ (by omega)).mp rest']
    · rintro rfl
      exact .next goes ((rest _ (by omega)).mpr rfl)

theorem back_numbered {n k : ℕ} (counted : ∀ k, (numbered total limit items k).totalPages = .ok n)
    (numbers : 1 ≤ k) (more : (numbered total limit items k).nextPage ≠ .ok .none) :
    (numbered total limit items k).nextPage = .ok (.int (k + 1 : ℕ)) ∧
      (numbered total limit items (k + 1)).prevPage = .ok (.int k) := by
  have back : (numbered total limit items (k + 1)).prevPage = _ := prevPage_eq _ _ _ _
  rw [if_pos (by omega), Nat.cast_add_one, add_sub_cancel_right] at back
  rw [nextPage_numbered counted] at more ⊢
  split
  · exact ⟨rfl, back⟩
  · rename_i reached
    rw [if_neg reached] at more
    exact (more rfl).elim

/-! ### The rows -/

/-- A row lies on the page that its position falls on, and on no other. -/
theorem mem_rows_iff {k : ℕ} {i : ℤ} (positive : 1 ≤ limit) (numbers : 1 ≤ k) :
    i ∈ (numbered total limit items k).rows ↔ 0 ≤ i ∧ i < total ∧ i / limit + 1 = k := by
  obtain ⟨j, rfl⟩ : ∃ j, k = j + 1 := ⟨k - 1, by omega⟩
  have wide : (0 : ℤ) < limit := by exact_mod_cast positive
  have same : i / limit = j ↔ (limit * j : ℤ) ≤ i ∧ i < limit * j + limit := by
    rw [le_antisymm_iff, ← Int.lt_add_one_iff, Int.ediv_lt_iff_lt_mul wide, Int.le_ediv_iff_mul_le wide,
      add_one_mul, mul_comm (j : ℤ), and_comm]
  rw [mem_rows, ← and_assoc, ← same, Nat.cast_add_one, add_left_inj]
  constructor
  · rintro ⟨page, within⟩
    have first : 0 ≤ (limit * j : ℤ) := by positivity
    exact ⟨first.trans (same.mp page).1, within, page⟩
  · rintro ⟨-, within, page⟩
    exact ⟨page, within⟩

theorem rows_disjoint (positive : 1 ≤ limit) (n : ℕ) :
    (Set.Icc 1 n).PairwiseDisjoint fun k => (numbered total limit items k).rows := by
  intro k ⟨numbers, _⟩ j ⟨numbers', _⟩ other
  refine Set.disjoint_left.mpr fun i here there => other ?_
  obtain ⟨-, -, first⟩ := (mem_rows_iff positive numbers).mp here
  obtain ⟨-, -, second⟩ := (mem_rows_iff positive numbers').mp there
  exact_mod_cast first.symm.trans second

section Held

variable {n : ℕ} (positive : 1 ≤ limit) (held : (total : ℤ) ≤ n * limit)
include positive held

theorem page_le {i : ℤ} (row : i < total) : i / limit + 1 ≤ n := by
  have wide : (0 : ℤ) < limit := by exact_mod_cast positive
  exact (Int.ediv_lt_iff_lt_mul wide).mpr (row.trans_le held)

theorem iUnion_rows :
    ⋃ k ∈ Set.Icc 1 n, (numbered total limit items k).rows = Set.Ico 0 (total : ℤ) := by
  ext i
  simp only [Set.mem_iUnion, exists_prop]
  constructor
  · rintro ⟨k, ⟨numbers, -⟩, here⟩
    obtain ⟨first, within, -⟩ := (mem_rows_iff positive numbers).mp here
    exact ⟨first, within⟩
  · rintro ⟨first, within⟩
    have number := page_le positive held within
    have some : 0 ≤ i / limit := Int.ediv_nonneg first (Int.natCast_nonneg limit)
    refine ⟨(i / limit + 1).toNat, ⟨by omega, by omega⟩, ?_⟩
    exact (mem_rows_iff positive (by omega)).mpr ⟨first, within, by omega⟩

theorem rows_past {k : ℕ} (past : n < k) : (numbered total limit items k).rows = ∅ := by
  apply Set.eq_empty_of_forall_notMem
  intro i here
  obtain ⟨-, within, page⟩ := (mem_rows_iff positive (by omega)).mp here
  have number := page_le positive held within
  omega

end Held

/-- Without rows on a page, the pages before it would hold all. -/
theorem rows_nonempty {n k : ℕ} (positive : 1 ≤ limit)
    (least : ∀ j : ℤ, (total : ℤ) ≤ j * limit → (n : ℤ) ≤ j) (numbers : 1 ≤ k) (counts : k ≤ n) :
    (numbered total limit items k).rows.Nonempty := by
  obtain ⟨j, rfl⟩ : ∃ j, k = j + 1 := ⟨k - 1, by omega⟩
  refine ⟨limit * j, mem_rows.mpr ⟨le_rfl, by omega, ?_⟩⟩
  by_contra full
  have enough := least j (by rw [mul_comm]; exact not_lt.mp full)
  omega

/-- Up to `2 ^ 53` rows, the way from the first page on goes through all pages in their order, and back
again. Each of them has rows, and every row is on one of them. Behind them there are neither rows nor
pages. -/
theorem visits_partition (few : total ≤ 2 ^ 53) (positive : 1 ≤ limit) (narrow : limit ≤ 2 ^ 53)
    (items : List Value) :
    let page := numbered total limit items
    ∃ n : ℕ, (∀ k, (page k).totalPages = .ok n) ∧
      (∀ ps, Visits (page 1) ps ↔ ps = (List.range' 1 (max 1 n)).map page) ∧
      (∀ k, 1 ≤ k → (page k).nextPage ≠ .ok .none →
        (page k).nextPage = .ok (.int (k + 1 : ℕ)) ∧ (page (k + 1)).prevPage = .ok (.int k)) ∧
      (∀ k ∈ Set.Icc 1 n, (page k).rows.Nonempty) ∧
      (Set.Icc 1 n).PairwiseDisjoint (fun k => (page k).rows) ∧
      ⋃ k ∈ Set.Icc 1 n, (page k).rows = Set.Ico 0 (total : ℤ) ∧
      ∀ k, n < k → (page k).rows = ∅ ∧ (page k).nextPage = .ok .none := by
  intro page
  obtain ⟨held, least⟩ := isLeast_ceil positive total
  have below (k : ℕ) (more : 53 < k) : limit < 2 ^ k :=
    narrow.trans_lt (Nat.pow_lt_pow_right (by decide) more)
  have counted (k : ℕ) : (page k).totalPages = .ok ⌈(total / limit : ℚ)⌉ :=
    totalPages_exact positive (.int k) items few (below 1075 (by decide))
  obtain ⟨n, number⟩ : ∃ n : ℕ, ⌈(total / limit : ℚ)⌉ = n :=
    Int.eq_ofNat_of_zero_le (Int.ceil_nonneg (by positivity))
  rw [number] at held least counted
  refine ⟨n, counted, visits_numbered counted 1, ?_, ?_, rows_disjoint positive n,
    iUnion_rows positive held, ?_⟩
  · intro k numbers more
    exact back_numbered counted numbers more
  · intro k ⟨numbers, counts⟩
    exact rows_nonempty positive (fun j enough => least enough) numbers counts
  · intro k past
    refine ⟨rows_past positive held past, ?_⟩
    rw [nextPage_numbered counted, if_neg (by omega)]

end Numbered

/-- The last of three pages has one row only. -/
theorem visits_partition_short_last :
    let page := numbered 7 3 []
    Visits (page 1) [page 1, page 2, page 3] ∧ (page 3).prevPage = .ok (.int 2) ∧
      (page 3).rows = {6} ∧ (page 4).rows = ∅ := by
  intro page
  obtain ⟨n, counted, way, back, -, -, all, past⟩ :=
    @visits_partition 7 3 (by decide) (by decide) (by decide) []
  obtain rfl : n = 3 := by
    have known : (page 1).totalPages = .ok 3 := rfl
    exact_mod_cast Except.ok.inj ((counted 1).symm.trans known)
  refine ⟨(way _).mpr rfl, (back 2 (by decide) nofun).2, ?_, (past 4 (by decide)).1⟩
  ext i
  rw [mem_rows, Set.mem_singleton_iff]
  push_cast
  omega

end TableQuery.Page

import TableQuery.Proofs.Condition.Reading

/-!
# The truth of conditions

A condition is true, false or unknown, as its atoms are. A product is true when its factors are, and
a sum when one of its products is, so the condition that two conditions with `AND` between them are
read as need not be true exactly when both are. It is when neither has an `OR` outside brackets
(`glueAll_closed`), and a condition without one never makes more true (`holds_of_glue`).
-/

namespace TableQuery.Condition

/-- Truth values, where no value is the unknown one. -/
abbrev Truth := Option Bool

namespace Truth

def negate : Truth → Truth := Option.map (!·)

def both : Truth → Truth → Truth
  | some true, y => y
  | some false, _ => some false
  | none, some false => some false
  | none, _ => none

def either : Truth → Truth → Truth
  | some false, y => y
  | some true, _ => some true
  | none, some true => some true
  | none, _ => none

theorem both_eq_true {x y : Truth} : both x y = some true ↔ x = some true ∧ y = some true := by
  rcases x with _ | _ | _ <;> rcases y with _ | _ | _ <;> decide

theorem either_eq_true {x y : Truth} : either x y = some true ↔ x = some true ∨ y = some true := by
  rcases x with _ | _ | _ <;> rcases y with _ | _ | _ <;> decide

end Truth

mutual

def Factor.value (v : List Mark → Truth) : Factor → Truth
  | .atom ms => v ms
  | .not f => (f.value v).negate
  | .group sum => valueOfSum v sum

def valueOfProduct (v : List Mark → Truth) : List Factor → Truth
  | [] => some true
  | f :: fs => (f.value v).both (valueOfProduct v fs)

def valueOfSum (v : List Mark → Truth) : List (List Factor) → Truth
  | [] => some false
  | p :: ps => (valueOfProduct v p).either (valueOfSum v ps)

end

/-- The condition is true when its atoms have these values. -/
def Holds (v : List Mark → Truth) (e : Expression) : Prop := valueOfSum v e = some true

variable {v : List Mark → Truth}

theorem valueOfProduct_eq_true {p : Product} :
    valueOfProduct v p = some true ↔ ∀ f ∈ p, f.value v = some true := by
  induction p with
  | nil => exact ⟨fun _ f never => (List.not_mem_nil never).elim, fun _ => rfl⟩
  | cons f p ih => rw [valueOfProduct, Truth.both_eq_true, ih, List.forall_mem_cons]

theorem holds_iff {e : Expression} :
    Holds v e ↔ ∃ p ∈ e, ∀ f ∈ p, f.value v = some true := by
  unfold Holds
  induction e with
  | nil => exact ⟨nofun, fun ⟨p, never, _⟩ => (List.not_mem_nil never).elim⟩
  | cons p e ih =>
    rw [valueOfSum, Truth.either_eq_true, valueOfProduct_eq_true, ih]
    simp only [List.mem_cons, exists_eq_or_imp]

theorem holds_one {p : Product} : Holds v [p] ↔ ∀ f ∈ p, f.value v = some true := by
  rw [holds_iff]
  exact ⟨fun ⟨q, there, all⟩ => List.mem_singleton.mp there ▸ all,
    fun all => ⟨p, List.mem_singleton.mpr rfl, all⟩⟩

/-! ### Conditions with `AND` between them -/

/-- A condition with no `OR` outside brackets. -/
def Expression.Closed (e : Expression) : Prop := ∃ p, e = [p]

/-- What the texts of conditions with `AND` between them are read as. -/
def glueAll (e : Expression) (es : List Expression) : Expression := es.foldl glue e

/-- A condition without an `OR` outside brackets never makes more true. -/
theorem holds_of_glue {e e' : Expression} (filled : e ≠ []) (closed : e'.Closed)
    (holds : Holds v (glue e e')) : Holds v e := by
  obtain ⟨q, rfl⟩ := closed
  rcases List.eq_nil_or_concat e with rfl | ⟨sums, product, rfl⟩
  · exact (filled rfl).elim
  · rw [List.concat_eq_append] at holds ⊢
    rw [glue_last] at holds
    obtain ⟨p, there, all⟩ := holds_iff.mp holds
    rw [holds_iff]
    rcases List.mem_append.mp there with there | there
    · exact ⟨p, List.mem_append_left _ there, all⟩
    · rw [List.mem_singleton.mp there] at all
      exact ⟨product, List.mem_append_right _ (List.mem_singleton.mpr rfl),
        fun f within => all f (List.mem_append_left _ within)⟩

theorem glueAll_closed {e : Expression} (first : e.Closed) {es : List Expression}
    (closed : ∀ e ∈ es, e.Closed) :
    (glueAll e es).Closed ∧ (Holds v (glueAll e es) ↔ Holds v e ∧ ∀ e ∈ es, Holds v e) := by
  induction es generalizing e with
  | nil => exact ⟨first, ⟨fun holds => ⟨holds, nofun⟩, fun both => both.1⟩⟩
  | cons e' es ih =>
    obtain ⟨p, rfl⟩ := first
    obtain ⟨q, rfl⟩ := closed e' List.mem_cons_self
    have glued : glue [p] [q] = [p ++ q] := rfl
    obtain ⟨closed', holds⟩ := ih (e := [p ++ q]) ⟨_, rfl⟩
      fun e there => closed e (List.mem_cons_of_mem _ there)
    refine ⟨closed', ?_⟩
    show Holds v (glueAll (glue [p] [q]) es) ↔ _
    rw [glued, holds, List.forall_mem_cons, holds_one, holds_one, holds_one, List.forall_mem_append,
      and_assoc]

/-- Behind a condition that is true, one condition is true as it is. -/
theorem holds_glue_first {p : Product} (true' : Holds v [p]) {e : Expression} (filled : e ≠ []) :
    Holds v (glue [p] e) ↔ Holds v e := by
  cases e with
  | nil => exact (filled rfl).elim
  | cons q e =>
    have glued : glue [p] (q :: e) = (p ++ q) :: e := rfl
    rw [holds_one] at true'
    rw [glued, holds_iff, holds_iff]
    simp only [List.mem_cons, exists_eq_or_imp, List.forall_mem_append]
    exact or_congr_left ⟨fun all => all.2, fun all => ⟨true', all⟩⟩

end TableQuery.Condition

import TableQuery.Builder.Terminal
import TableQuery.Proofs.Except

/-!
# Terminal calls of one statement

All terminal calls but the paginated one add their clauses, compile one statement and read its
reply. `start_single` says so for all of them at once. A recorded misuse goes before everything
else that can be wrong with a statement, which is `compile_misuse`.
-/

namespace TableQuery

/-- The statement that a call compiles of a builder that has its clauses. -/
def Terminal.compile : Terminal → Builder → Except Fault Statement
  | .get, b => b.compileSelect .none
  | .getFirst, b => b.compileSelect .none
  | .find _, b => b.compileSelect .none
  | .getCount, b => b.compileCount
  | .create data upsert, b => b.compileInsert data upsert
  | .update data, b => b.compileUpdate data
  | .delete, b => b.compileDelete
  | .getPaginated .., b => b.compileSelect .none

/-- How a call of one statement reads its reply. -/
def Terminal.single? : Terminal → Option Reading
  | .get => some .rows
  | .getFirst => some .firstRow
  | .find _ => some .firstRow
  | .getCount => some .count
  | .create .. => some .outcome
  | .update _ => some .outcome
  | .delete => some .outcome
  | .getPaginated .. => none

theorem Terminal.single?_eq_none {t : Terminal} :
    t.single? = none ↔ ∃ size number, t = .getPaginated size number := by
  cases t <;> simp [single?]

theorem Builder.start_single (b : Builder) {t : Terminal} {reading : Reading}
    (single : t.single? = some reading) :
    b.start t =
      let r := b.handWith t.clauses t.compile reading
      (r.1, r.2.1, .leg r.2.2) := by
  cases t <;> cases single <;> rfl

/-! ### Recorded misuses -/

namespace Builder

variable {b : Builder} {m : Misuse}

theorem check_misuse (recorded : b.misuse = some m) (kind : Kind) :
    b.check kind = .error (.misuse m) := by
  unfold check
  rw [recorded]

theorem compileSelect_misuse (recorded : b.misuse = some m) (fields : Value) :
    b.compileSelect fields = .error (.misuse m) := by
  unfold compileSelect
  rw [check_misuse recorded, error_bind]

theorem compileInsert_misuse (recorded : b.misuse = some m) (data upsert : Value) :
    b.compileInsert data upsert = .error (.misuse m) := by
  unfold compileInsert
  rw [check_misuse recorded, error_bind]

theorem compileUpdate_misuse (recorded : b.misuse = some m) (data : Value) :
    b.compileUpdate data = .error (.misuse m) := by
  unfold compileUpdate
  rw [check_misuse recorded, error_bind]

theorem compileDelete_misuse (recorded : b.misuse = some m) :
    b.compileDelete = .error (.misuse m) := by
  unfold compileDelete
  rw [check_misuse recorded, error_bind]

end Builder

theorem Terminal.compile_misuse {b : Builder} {m : Misuse} (recorded : b.misuse = some m)
    (t : Terminal) : t.compile b = .error (.misuse m) := by
  cases t with
  | create data upsert => exact Builder.compileInsert_misuse recorded data upsert
  | update data => exact Builder.compileUpdate_misuse recorded data
  | delete => exact Builder.compileDelete_misuse recorded
  | _ => exact Builder.compileSelect_misuse recorded _

end TableQuery

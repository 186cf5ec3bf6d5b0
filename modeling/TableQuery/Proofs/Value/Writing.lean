import TableQuery.Proofs.Except
import TableQuery.Statement.Basic

/-!
# Texts that can be written

`writing_eq_ok` and `writing_eq_error` say when a text with values in it can be written, and the fault
if it cannot. From them follow the two outcomes of everything that is written so: a value alone, the
message of a misuse, a qualified name, the text of a clause.
-/

namespace TableQuery

namespace Value

theorem writing_ok {vs : List Value} (writable : ∀ v ∈ vs, v.isWritable = true) (text : String) :
    writing vs text = .ok text :=
  if_pos (List.all_eq_true.mpr writable)

theorem writing_error {vs : List Value} {v : Value} (shown : v ∈ vs) (long : v.isWritable = false)
    (text : String) : writing vs text = .error (.number .unwritable) := by
  refine if_neg fun all => ?_
  rw [List.all_eq_true.mp all v shown] at long
  cases long

/-- Values are all written, or there is one among them that cannot be. -/
theorem writable_cases (vs : List Value) :
    (∀ v ∈ vs, v.isWritable = true) ∨ ∃ v ∈ vs, v.isWritable = false := by
  cases all : vs.all isWritable with
  | true => exact .inl (List.all_eq_true.mp all)
  | false =>
    obtain ⟨v, shown, long⟩ := List.all_eq_false.mp all
    exact .inr ⟨v, shown, Bool.eq_false_iff.mpr long⟩

theorem writing_eq_ok {vs : List Value} {text s : String} :
    writing vs text = .ok s ↔ (∀ v ∈ vs, v.isWritable = true) ∧ s = text := by
  rcases writable_cases vs with writable | ⟨v, shown, long⟩
  · rw [writing_ok writable]
    exact ⟨fun written => ⟨writable, (Except.ok.inj written).symm⟩, fun written => by rw [written.2]⟩
  · rw [writing_error shown long]
    refine ⟨nofun, fun ⟨writable, _⟩ => ?_⟩
    rw [writable v shown] at long
    cases long

theorem writing_eq_error {vs : List Value} {text : String} {f : Fault} :
    writing vs text = .error f ↔ f = .number .unwritable ∧ ∃ v ∈ vs, v.isWritable = false := by
  rcases writable_cases vs with writable | ⟨v, shown, long⟩
  · rw [writing_ok writable]
    refine ⟨nofun, fun ⟨_, v, shown, long⟩ => ?_⟩
    rw [writable v shown] at long
    cases long
  · rw [writing_error shown long]
    exact ⟨fun failed => ⟨(Except.error.inj failed).symm, v, shown, long⟩, fun failed => by rw [failed.1]⟩

theorem write_eq_ok {v : Value} {s : String} :
    v.write = .ok s ↔ v.isWritable = true ∧ s = v.display := by
  simp [write, writing_eq_ok]

theorem write_eq_error {v : Value} {f : Fault} :
    v.write = .error f ↔ f = .number .unwritable ∧ v.isWritable = false := by
  simp [write, writing_eq_error]

@[simp] theorem write_text (s : String) : (Value.text s).write = .ok s := rfl

end Value

/-! ### Misuses -/

/-- The message of a misuse can be written. -/
def Misuse.Writable (m : Misuse) : Prop := ∀ v ∈ m.shown, v.isWritable = true

theorem Misuse.write_eq_ok {m : Misuse} {s : String} :
    m.write = .ok s ↔ m.Writable ∧ s = m.message :=
  Value.writing_eq_ok

theorem Misuse.write_cases (m : Misuse) :
    (m.Writable ∧ m.write = .ok m.message) ∨ (¬ m.Writable ∧ m.write = .error (.number .unwritable)) := by
  rcases Value.writable_cases m.shown with writable | ⟨v, shown, long⟩
  · exact .inl ⟨writable, Value.writing_ok writable _⟩
  · refine .inr ⟨fun writable => ?_, Value.writing_error shown long _⟩
    rw [writable v shown] at long
    cases long

theorem Misuse.fault_of_writable {m : Misuse} (writable : m.Writable) : m.fault = .misuse m := by
  rw [fault, write_eq_ok.mpr ⟨writable, rfl⟩]

theorem Misuse.fault_of_long {m : Misuse} (long : ¬ m.Writable) : m.fault = .number .unwritable := by
  rcases m.write_cases with ⟨writable, _⟩ | ⟨_, failed⟩
  · exact (long writable).elim
  · rw [fault, failed]

/-! ### Names and clauses -/

theorem Clause.written_eq_ok {shown : List Value} {c d : Clause} :
    c.written shown = .ok d ↔
      (∀ v ∈ shown, v.isWritable = true) ∧ d = ⟨.text c.sql.display, c.values⟩ := by
  simp only [written, bind_eq_ok, pure_eq_ok, Value.writing_eq_ok]
  constructor
  · rintro ⟨text, ⟨writable, rfl⟩, done⟩
    exact ⟨writable, (Except.ok.inj done).symm⟩
  · rintro ⟨writable, rfl⟩
    exact ⟨_, ⟨writable, rfl⟩, rfl⟩

theorem Clause.written_eq_error {shown : List Value} {c : Clause} {f : Fault} :
    c.written shown = .error f ↔ f = .number .unwritable ∧ ∃ v ∈ shown, v.isWritable = false := by
  rw [written, ← Value.writing_eq_error]
  cases Value.writing shown c.sql.display <;> simp

theorem qualify_eq_ok {table column name : Value} :
    qualify table column = .ok name ↔
      column.hasPoint? = .ok true ∧ name = column ∨
        column.hasPoint? = .ok false ∧ table.isWritable = true ∧ column.isWritable = true ∧
          name = .text (table.display ++ "." ++ column.display) := by
  unfold qualify
  cases column.hasPoint? with
  | error f => simp
  | ok pointed =>
    cases pointed with
    | true =>
      simp only [ok_bind, if_true, pure_eq_ok, Except.ok.injEq, true_and]
      exact ⟨fun same => .inl same.symm, fun either => either.elim Eq.symm fun other => nomatch other.1⟩
    | false =>
      have both : (∀ v ∈ [table, column], v.isWritable = true) ↔
          table.isWritable = true ∧ column.isWritable = true := by simp
      simp only [ok_bind, Bool.false_eq_true, if_false, bind_eq_ok, Value.writing_eq_ok, both,
        pure_eq_ok, Except.ok.injEq, false_and, false_or, true_and]
      constructor
      · rintro ⟨text, ⟨writable, rfl⟩, rfl⟩
        exact ⟨writable.1, writable.2, rfl⟩
      · rintro ⟨table_writable, column_writable, rfl⟩
        exact ⟨_, ⟨⟨table_writable, column_writable⟩, rfl⟩, rfl⟩

end TableQuery

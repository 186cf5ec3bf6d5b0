import Mathlib.Algebra.Group.Nat.Defs
import TableQuery.Proofs.Builder.Growth

/-!
# Arguments that cannot be read or written

A clause call faults when it comes to an argument that it cannot read, a collection of values without
items or a name that cannot be searched for a point, or to a text that it cannot write for an integer
with too many digits. `judge_eq_fault` says exactly when. What is refused first is neither read nor
written.
-/

namespace TableQuery

/-! ### Values that can be read -/

namespace Value

/-- Texts, bytes and collections have items. -/
def hasItems : Value → Bool
  | .text _ | .bytes _ | .list _ | .tuple _ | .map _ => true
  | _ => false

/-- Texts and collections can be searched for a point, bytes cannot. -/
def isSearchable : Value → Bool
  | .text _ | .list _ | .tuple _ | .map _ => true
  | _ => false

theorem items?_eq_error {v : Value} {f : Fault} :
    v.items? = .error f ↔ f = .shape .wrongType ∧ v.hasItems = false := by
  cases v <;> simp [items?, hasItems, eq_comm]

theorem hasPoint?_eq_error {v : Value} {f : Fault} :
    v.hasPoint? = .error f ↔ f = .shape .wrongType ∧ v.isSearchable = false := by
  cases v <;> simp [hasPoint?, isSearchable, eq_comm]

/-- What is not given is read as an empty tuple. -/
theorem items?_orElse_eq_error {v : Value} {f : Fault} :
    (v.orElse (.tuple [])).items? = .error f ↔
      f = .shape .wrongType ∧ v.truthy = true ∧ v.hasItems = false := by
  rw [items?_eq_error, orElse]
  cases v.truthy <;> simp [hasItems]

theorem items?_orElse_eq_ok {v : Value} :
    (∃ vs, (v.orElse (.tuple [])).items? = .ok vs) ↔ ¬ (v.truthy = true ∧ v.hasItems = false) := by
  cases read : (v.orElse (.tuple [])).items? with
  | error f => simp [(items?_orElse_eq_error.mp read).2]
  | ok vs =>
    have readable : ¬ (v.truthy = true ∧ v.hasItems = false) := fun itemless => by
      rw [items?_orElse_eq_error.mpr ⟨rfl, itemless⟩] at read
      cases read
    exact ⟨fun _ => readable, fun _ => ⟨vs, rfl⟩⟩

/-- A text, bytes, a list or a tuple. -/
def IsSequence : Value → Prop
  | .text _ | .bytes _ | .list _ | .tuple _ => True
  | _ => False

def IsText (v : Value) : Prop := ∃ s, v = .text s

def IsInteger (v : Value) : Prop := ∃ i, v = .int i

theorem IsSequence.hasItems {v : Value} (sequence : v.IsSequence) : v.hasItems = true := by
  cases v with
  | text | bytes | list | tuple => rfl
  | _ => exact sequence.elim

theorem IsText.isSearchable {v : Value} (text : v.IsText) : v.isSearchable = true := by
  obtain ⟨s, rfl⟩ := text
  rfl

theorem hasItems_of_given {v : Value} (given : v.truthy = true)
    (sequence : v = .none ∨ v.IsSequence) : v.hasItems = true := by
  rcases sequence with rfl | sequence
  · cases given
  · exact sequence.hasItems

end Value

/-! ### Names that can be written -/

/-- A name without a point that cannot be written behind the table. -/
def Value.LongBare (table column : Value) : Prop :=
  column.hasPoint? = .ok false ∧ (table.isWritable = false ∨ column.isWritable = false)

/-- A name that cannot be written as a column of the table. -/
def Value.LongColumn (table column : Value) : Prop :=
  LongBare table column ∨ column.hasPoint? = .ok true ∧ column.isWritable = false

theorem Value.LongColumn.searchable {table column : Value} (long : LongColumn table column) :
    column.isSearchable = true := by
  have asked : ∃ pointed, column.hasPoint? = .ok pointed := long.elim (⟨_, ·.1⟩) (⟨_, ·.1⟩)
  obtain ⟨pointed, asked⟩ := asked
  cases column with
  | text | list | tuple | map => rfl
  | _ => cases asked

theorem qualify_eq_error {table column : Value} {f : Fault} :
    qualify table column = .error f ↔
      f = .shape .wrongType ∧ column.isSearchable = false ∨
        f = .number .unwritable ∧ Value.LongBare table column := by
  rw [← Value.hasPoint?_eq_error, Value.LongBare, qualify, bind_eq_error]
  refine or_congr_right ?_
  cases column.hasPoint? with
  | error g => simp
  | ok pointed => cases pointed <;> simp [bind_eq_error, Value.writing_eq_error]

/-- A clause on a column, whatever else it says. -/
theorem written_column_eq_error {table column : Value} {clause : Value → Clause} {f : Fault} :
    (qualify table column >>= fun name => (clause name).written [name]) = .error f ↔
      f = .shape .wrongType ∧ column.isSearchable = false ∨
        f = .number .unwritable ∧ Value.LongColumn table column := by
  have written : (∃ name, qualify table column = .ok name ∧
      (clause name).written [name] = .error f) ↔
        f = .number .unwritable ∧ column.hasPoint? = .ok true ∧ column.isWritable = false := by
    simp only [Clause.written_eq_error, List.mem_singleton, exists_eq_left, qualify_eq_ok]
    constructor
    · rintro ⟨name, ⟨pointed, rfl⟩ | ⟨-, -, -, rfl⟩, unwritten, long⟩
      · exact ⟨unwritten, pointed, long⟩
      · cases long
    · rintro ⟨unwritten, pointed, long⟩
      exact ⟨column, .inl ⟨pointed, rfl⟩, unwritten, long⟩
  rw [bind_eq_error, qualify_eq_error, written, Value.LongColumn, or_assoc, ← and_or_left]

/-! ### Calls that fault -/

namespace ClauseCall

/-- A call comes to an argument that it cannot read. -/
def Misshapen (b : Builder) : ClauseCall → Prop
  | .matching field operator _ =>
    field.truthy = true ∧ operator.truthy = true ∧ operator.isWritable = true ∧
      Text.strip operator.display ≠ "" ∧ field.isSearchable = false
  | .raw sql values => sql.truthy = true ∧ values.truthy = true ∧ values.hasItems = false
  | .among field values =>
    field.truthy = true ∧
      (values.truthy = true ∧ values.hasItems = false ∨ field.isSearchable = false)
  | .like field _ => field.truthy = true ∧ field.isSearchable = false
  | .join .. => False
  | .only fields => b.selection = none ∧ fields.hasItems = false
  | .orderBy field direction =>
    direction.isWritable = true ∧ Direction.ofWord? direction.display ≠ none ∧ b.order = none ∧
      field.truthy = true ∧ field.isSearchable = false
  | .limit _ => False
  | .offset _ => False

/-- A call comes to a text that it cannot write: of a clause, or of the message of a misuse. -/
def Unwritable (b : Builder) : ClauseCall → Prop
  | .matching field operator _ =>
    field.truthy = true ∧
      if operator.truthy = true ∧ operator.isWritable = false then True
      else if operator.truthy = true ∧ Text.strip operator.display ≠ "" then
        Value.LongColumn b.table field
      else field.isWritable = false
  | .raw .. => False
  | .among field values =>
    field.truthy = true ∧ ¬ (values.truthy = true ∧ values.hasItems = false) ∧
      Value.LongColumn b.table field
  | .like field _ => field.truthy = true ∧ Value.LongColumn b.table field
  | .join _ table localField remoteField operator =>
    table.truthy = true ∧ localField.truthy = true ∧ remoteField.truthy = true ∧
      ∃ v ∈ [table, b.table, localField, operator.orElse (.text "="), remoteField],
        v.isWritable = false
  | .only _ => False
  | .orderBy field direction =>
    direction.isWritable = false ∨
      Direction.ofWord? direction.display ≠ none ∧ b.order = none ∧ field.truthy = true ∧
        Value.LongBare b.table field
  | .limit quantity => quantity.count? = none ∧ quantity.isWritable = false
  | .offset quantity => quantity.count? = none ∧ quantity.isWritable = false

/-- A call with arguments of the types that are asked for. -/
def Typed : ClauseCall → Prop
  | .matching field operator _ => field.IsText ∧ operator.IsText
  | .raw sql values => sql.IsText ∧ (values = .none ∨ values.IsSequence)
  | .among field values => field.IsText ∧ (values = .none ∨ values.IsSequence)
  | .like field _ => field.IsText
  | .join _ table localField remoteField operator =>
    table.IsText ∧ localField.IsText ∧ remoteField.IsText ∧ operator.IsText
  | .only fields => fields.IsSequence ∧ ∀ columns, Builder.selected? fields = .ok columns →
      ∀ column ∈ columns, column.IsText
  | .orderBy field direction => field.IsText ∧ direction.IsText
  | .limit quantity => quantity.IsInteger
  | .offset quantity => quantity.IsInteger

theorem Typed.not_misshapen {c : ClauseCall} (typed : c.Typed) (b : Builder) :
    ¬ c.Misshapen b := by
  have searchable {v : Value} (text : v.IsText) : ¬ v.isSearchable = false := by
    rw [text.isSearchable]
    decide
  have readable {v : Value} (sequence : v = .none ∨ v.IsSequence) :
      ¬ (v.truthy = true ∧ v.hasItems = false) := by
    rintro ⟨given, itemless⟩
    rw [Value.hasItems_of_given given sequence] at itemless
    cases itemless
  intro misshapen
  cases c with
  | matching field operator value => exact searchable typed.1 misshapen.2.2.2.2
  | raw sql values => exact readable typed.2 misshapen.2
  | among field values =>
    rcases misshapen.2 with itemless | unsearchable
    · exact readable typed.2 itemless
    · exact searchable typed.1 unsearchable
  | like field value => exact searchable typed misshapen.2
  | join side table localField remoteField operator => exact misshapen
  | only fields =>
    have itemless := misshapen.2
    rw [typed.1.hasItems] at itemless
    cases itemless
  | orderBy field direction => exact searchable typed.1 misshapen.2.2.2.2
  | limit quantity => exact misshapen
  | offset quantity => exact misshapen

/-- A negative bound that is too long to be written. -/
def LongBound (c : ClauseCall) : Prop :=
  ∃ n, 10 ^ Text.digitLimit ≤ n ∧ (c = .limit (.int (-(n : Nat))) ∨ c = .offset (.int (-(n : Nat))))

theorem long_iff {i : Int} :
    (Value.int i).count? = none ∧ (Value.int i).isWritable = false ↔
      ∃ n, 10 ^ Text.digitLimit ≤ n ∧ i = -(n : Nat) := by
  have short : (Value.int i).isWritable = false ↔ 10 ^ Text.digitLimit ≤ i.natAbs := by
    rw [Value.isWritable, Text.isWritable, decide_eq_false_iff_not, Nat.not_lt, Nat.pow_eq]
  have positive : 0 < 10 ^ Text.digitLimit := Nat.pow_pos (by decide)
  rw [short]
  -- The power is a number that nothing may evaluate.
  generalize 10 ^ Text.digitLimit = bound at positive ⊢
  cases i with
  | ofNat n =>
    refine ⟨fun ⟨counted, _⟩ => (nomatch counted), fun ⟨k, long, same⟩ => ?_⟩
    rw [Int.ofNat_eq_natCast] at same
    omega
  | negSucc n =>
    refine ⟨fun ⟨_, long⟩ => ⟨n + 1, long, rfl⟩, fun ⟨k, long, same⟩ => ⟨rfl, ?_⟩⟩
    rw [same, Int.natAbs_neg, Int.natAbs_natCast]
    exact long

/-- On a table that is a text, a call with arguments of the types that are asked for can be written
unless it is a bound. -/
theorem Typed.unwritable_iff {c : ClauseCall} (typed : c.Typed) {b : Builder} (named : b.table.IsText) :
    c.Unwritable b ↔ c.LongBound := by
  have column {v : Value} (text : v.IsText) : ¬ Value.LongColumn b.table v := by
    obtain ⟨s, rfl⟩ := text
    obtain ⟨t, table⟩ := named
    rw [Value.LongColumn, Value.LongBare, table]
    rintro (⟨-, long | long⟩ | ⟨-, long⟩) <;> cases long
  have short {v : Value} (text : v.IsText) : ¬ v.isWritable = false := by
    obtain ⟨s, rfl⟩ := text
    exact nofun
  cases c with
  | limit quantity =>
    obtain ⟨i, rfl⟩ := typed
    simp [Unwritable, LongBound, long_iff]
  | offset quantity =>
    obtain ⟨i, rfl⟩ := typed
    simp [Unwritable, LongBound, long_iff]
  | matching field operator value =>
    refine iff_of_false (fun ⟨_, long⟩ => ?_) (by simp [LongBound])
    split at long
    · rename_i written
      exact short typed.2 written.2
    · split at long
      · exact column typed.1 long
      · exact short typed.1 long
  | raw sql values => exact iff_of_false id (by simp [LongBound])
  | among field values =>
    exact iff_of_false (fun long => column typed.1 long.2.2) (by simp [LongBound])
  | like field value => exact iff_of_false (fun long => column typed long.2) (by simp [LongBound])
  | join side table localField remoteField operator =>
    refine iff_of_false ?_ (by simp [LongBound])
    rintro ⟨-, -, -, v, shown, long⟩
    have given : (operator.orElse (.text "=")).IsText := by
      rw [Value.orElse]
      split
      · exact typed.2.2.2
      · exact ⟨"=", rfl⟩
    simp only [List.mem_cons, List.not_mem_nil, or_false] at shown
    rcases shown with rfl | rfl | rfl | rfl | rfl
    · exact short typed.1 long
    · exact short named long
    · exact short typed.2.1 long
    · exact short given long
    · exact short typed.2.2.1 long
  | only fields => exact iff_of_false id (by simp [LongBound])
  | orderBy field direction =>
    refine iff_of_false ?_ (by simp [LongBound])
    rintro (long | ⟨-, -, -, long⟩)
    · exact short typed.2 long
    · exact column typed.1 (.inl long)

end ClauseCall

namespace Builder

variable {b : Builder} {f : Fault}

/-- A fault of a clause call, of one kind or the other. -/
def Faults (b : Builder) (c : ClauseCall) (f : Fault) : Prop :=
  f = .shape .wrongType ∧ c.Misshapen b ∨ f = .number .unwritable ∧ c.Unwritable b

theorem ofRead_eq_fault {α : Type} {x : Except Fault α} {accept : α → Builder} :
    Verdict.ofRead x accept = .fault f ↔ x = .error f := by
  cases x with
  | error g => simp [Verdict.ofRead]
  | ok a => simp [Verdict.ofRead]

theorem reject_eq_fault {m : Misuse} :
    Verdict.reject m = .fault f ↔ f = .number .unwritable ∧ ∃ v ∈ m.shown, v.isWritable = false := by
  have failed : m.write = .error f ↔ f = .number .unwritable ∧ ∃ v ∈ m.shown, v.isWritable = false :=
    Value.writing_eq_error
  rw [← failed, Verdict.reject]
  cases m.write <;> simp

theorem judgeMatching_eq_fault {field operator value : Value} :
    b.judgeMatching field operator value = .fault f ↔
      b.Faults (.matching field operator value) f := by
  simp only [judgeMatching, Faults, ClauseCall.Misshapen, ClauseCall.Unwritable]
  cases field.truthy with
  | false => simp
  | true =>
    cases operator.truthy with
    | false => simp [reject_eq_fault, Misuse.shown]
    | true =>
      cases long : operator.isWritable with
      | false =>
        rw [Value.write_eq_error.mpr ⟨rfl, long⟩]
        simp [@eq_comm _ f]
      | true =>
        rw [Value.write_eq_ok.mpr ⟨long, rfl⟩]
        by_cases blank : Text.strip operator.display = ""
        · simp [blank, reject_eq_fault, Misuse.shown]
        · simp [blank, ofRead_eq_fault, written_column_eq_error]

theorem judgeLike_eq_fault {field value : Value} :
    b.judgeMatching field (.text "LIKE") value = .fault f ↔ b.Faults (.like field value) f := by
  have blank : Text.strip "LIKE" ≠ "" := by decide
  rw [judgeMatching_eq_fault]
  simp [Faults, ClauseCall.Misshapen, ClauseCall.Unwritable, Value.truthy, Value.display_text,
    Value.isWritable_text, blank]

theorem judgeRaw_eq_fault {sql values : Value} :
    b.judgeRaw sql values = .fault f ↔ b.Faults (.raw sql values) f := by
  simp only [judgeRaw, Faults, ClauseCall.Misshapen, ClauseCall.Unwritable]
  cases sql.truthy with
  | false => simp
  | true => simp [ofRead_eq_fault, Value.items?_orElse_eq_error]

theorem judgeAmong_eq_fault {field values : Value} :
    b.judgeAmong field values = .fault f ↔ b.Faults (.among field values) f := by
  simp only [judgeAmong, Faults, ClauseCall.Misshapen, ClauseCall.Unwritable]
  cases field.truthy with
  | false => simp
  | true =>
    -- The values are read before the name is searched.
    have read : (do
        let vs ← (values.orElse (.tuple [])).items?
        let column ← qualify b.table field
        (membership column vs).written [column]) = Except.error f ↔
        (values.orElse (.tuple [])).items? = .error f ∨
          (∃ vs, (values.orElse (.tuple [])).items? = .ok vs) ∧
            (f = .shape .wrongType ∧ field.isSearchable = false ∨
              f = .number .unwritable ∧ Value.LongColumn b.table field) := by
      simp only [bind_eq_error (x := (values.orElse (.tuple [])).items?), written_column_eq_error,
        exists_and_right]
    simp only [Bool.not_true, Bool.false_eq_true, if_false, ofRead_eq_fault, read,
      Value.items?_orElse_eq_error, Value.items?_orElse_eq_ok, true_and]
    by_cases itemless : values.truthy = true ∧ values.hasItems = false
    · simp [itemless]
    · simp [itemless]

theorem judgeJoin_eq_fault {side : JoinSide} {table localField remoteField operator : Value} :
    b.judgeJoin side table localField remoteField operator = .fault f ↔
      b.Faults (.join side table localField remoteField operator) f := by
  simp only [judgeJoin, Faults, ClauseCall.Misshapen, ClauseCall.Unwritable]
  cases table.truthy with
  | false => simp
  | true =>
    cases localField.truthy with
    | false => simp
    | true =>
      cases remoteField.truthy with
      | false => simp
      | true => simp [ofRead_eq_fault, Value.writing_eq_error]

theorem selected?_eq_error {fields : Value} :
    selected? fields = .error f ↔ f = .shape .wrongType ∧ fields.hasItems = false := by
  rw [← Value.items?_eq_error]
  cases fields with
  | text s => exact ⟨nofun, nofun⟩
  | _ => exact Iff.rfl

theorem judgeOnly_eq_fault {fields : Value} :
    b.judgeOnly fields = .fault f ↔ b.Faults (.only fields) f := by
  simp only [judgeOnly, Faults, ClauseCall.Misshapen, ClauseCall.Unwritable]
  cases b.selection with
  | some columns => simp
  | none =>
    simp only [Option.isSome_none, Bool.false_eq_true, if_false, true_and, ← selected?_eq_error,
      and_false, or_false]
    cases selected? fields with
    | error g => simp
    | ok columns => cases columns <;> simp

theorem judgeOrderBy_eq_fault {field direction : Value} :
    b.judgeOrderBy field direction = .fault f ↔ b.Faults (.orderBy field direction) f := by
  simp only [judgeOrderBy, Faults, ClauseCall.Misshapen, ClauseCall.Unwritable]
  cases long : direction.isWritable with
  | false =>
    rw [Value.write_eq_error.mpr ⟨rfl, long⟩]
    simp [@eq_comm _ f]
  | true =>
    rw [Value.write_eq_ok.mpr ⟨long, rfl⟩]
    dsimp only
    cases Direction.ofWord? direction.display with
    | none => simp [reject_eq_fault, Misuse.shown, long]
    | some d =>
      cases b.order with
      | some order => simp
      | none =>
        cases field.truthy with
        | false => simp
        | true => simp [ofRead_eq_fault, qualify_eq_error]

theorem judgeLimit_eq_fault {quantity : Value} :
    b.judgeLimit quantity = .fault f ↔ b.Faults (.limit quantity) f := by
  simp only [judgeLimit, Faults, ClauseCall.Misshapen, ClauseCall.Unwritable]
  cases quantity.count? with
  | none => simp [reject_eq_fault, Misuse.shown]
  | some n => cases b.limit <;> simp

theorem judgeOffset_eq_fault {quantity : Value} :
    b.judgeOffset quantity = .fault f ↔ b.Faults (.offset quantity) f := by
  simp only [judgeOffset, Faults, ClauseCall.Misshapen, ClauseCall.Unwritable]
  cases quantity.count? with
  | none => simp [reject_eq_fault, Misuse.shown]
  | some n => cases b.offset <;> simp

/-- A call faults only for an argument that it cannot read or a text that it cannot write. -/
theorem judge_eq_fault {c : ClauseCall} : b.judge c = .fault f ↔ b.Faults c f := by
  cases c with
  | matching field operator value => exact judgeMatching_eq_fault
  | raw sql values => exact judgeRaw_eq_fault
  | among field values => exact judgeAmong_eq_fault
  | like field value => exact judgeLike_eq_fault
  | join side table localField remoteField operator => exact judgeJoin_eq_fault
  | only fields => exact judgeOnly_eq_fault
  | orderBy field direction => exact judgeOrderBy_eq_fault
  | limit quantity => exact judgeLimit_eq_fault
  | offset quantity => exact judgeOffset_eq_fault

end Builder

end TableQuery

import TableQuery.Proofs.Builder.Order
import TableQuery.Proofs.Builder.Text
import TableQuery.Proofs.Condition.Atoms
import TableQuery.Proofs.Condition.Truth
import TableQuery.Proofs.Condition.Writing

/-!
# The filter of a builder

The conditions of a builder stand one after the other with `AND` between them, each as it was given.
`read?_filterText` says what the whole is read as. A condition that a builder makes itself is one
atom; a raw condition keeps its text, so an `OR` outside brackets in it reaches over its neighbours.
`attemptAll_filter` says when the filter is true exactly when every condition is, and which calls
never let it be true more often.
-/

namespace TableQuery

/-- The comparison that a call asks for, if its field and its operator are given. -/
def ClauseCall.compared? (table field operator value : Value) : Option Clause :=
  if !field.truthy || !operator.truthy then none
  else
    operator.write.toOption.bind fun word =>
      if Text.strip word == "" then none
      else
        (do
          let column ← qualify table field
          (Builder.comparison column (Text.strip word) value).written [column]).toOption

/-- The condition that a call adds to a builder. -/
def ClauseCall.added? (table : Value) : ClauseCall → Option Clause
  | .matching field operator value => compared? table field operator value
  | .like field value => compared? table field (.text "LIKE") value
  | .among field values =>
    if !field.truthy then none
    else
      (do
        let vs ← (values.orElse (.tuple [])).items?
        let column ← qualify table field
        (Builder.membership column vs).written [column]).toOption
  | .raw sql values =>
    if !sql.truthy then none
    else ((values.orElse (.tuple [])).items?).toOption.map fun vs => ⟨sql, vs⟩
  | _ => none

theorem ClauseCall.added?_other {table : Value} {c : ClauseCall} (other : c.group ≠ .condition) :
    c.added? table = none := by
  cases c with
  | matching | raw | among | like => exact (other rfl).elim
  | _ => rfl

/-- A call for a condition on a column, with an operator that combines nothing. -/
def ClauseCall.IsAtomic : ClauseCall → Prop
  | .matching field operator _ =>
    field.IsPath ∧ Condition.IsOperator (Text.strip operator.display)
  | .like field _ => field.IsPath
  | .among field _ => field.IsPath
  | _ => False

namespace Builder
open Condition

variable {b : Builder}

/-! ### The conditions that calls add -/

/-- A verdict that adds a condition, or else accepts nothing. -/
def Adds (b : Builder) (added : Option Clause) : Verdict → Prop
  | .accepted b' => ∃ c, added = some c ∧ b' = b.addCondition c
  | .rejected _ => added = none
  | .fault _ => added = none

theorem adds_ofRead (read : Except Fault Clause) :
    b.Adds read.toOption (.ofRead read b.addCondition) := by
  cases read with
  | ok c => exact ⟨c, rfl, rfl⟩
  | error f => rfl

theorem adds_reject (m : Misuse) : b.Adds none (.reject m) := by
  rcases Verdict.reject_cases m with ⟨-, judged⟩ | ⟨-, judged⟩ <;> rw [judged] <;> rfl

theorem judgeMatching_adds (field operator value : Value) :
    b.Adds (ClauseCall.compared? b.table field operator value)
      (b.judgeMatching field operator value) := by
  unfold judgeMatching ClauseCall.compared?
  cases field.truthy with
  | false => rfl
  | true =>
    cases operator.truthy with
    | false => exact adds_reject _
    | true =>
      cases operator.write with
      | error f => rfl
      | ok word =>
        simp only [Bool.not_true, Bool.or_self, Bool.false_eq_true, if_false, Except.toOption,
          Option.bind_some]
        split
        · exact adds_reject _
        · exact adds_ofRead _

theorem judgeRaw_adds (sql values : Value) :
    b.Adds ((ClauseCall.raw sql values).added? b.table) (b.judgeRaw sql values) := by
  simp only [judgeRaw, ClauseCall.added?]
  split
  · rfl
  · cases (values.orElse (.tuple [])).items? with
    | ok vs => exact ⟨_, rfl, rfl⟩
    | error f => rfl

theorem judgeAmong_adds (field values : Value) :
    b.Adds ((ClauseCall.among field values).added? b.table) (b.judgeAmong field values) := by
  simp only [judgeAmong, ClauseCall.added?]
  split
  · rfl
  · exact adds_ofRead _

/-- A call for a condition adds what it asks for. -/
theorem judge_adds {c : ClauseCall} (asks : c.group = .condition) :
    b.Adds (c.added? b.table) (b.judge c) := by
  cases c with
  | matching field operator value => exact judgeMatching_adds field operator value
  | raw sql values => exact judgeRaw_adds sql values
  | among field values => exact judgeAmong_adds field values
  | like field value => exact judgeMatching_adds field (.text "LIKE") value
  | _ => cases asks

theorem attempt_conditions (b : Builder) (c : ClauseCall) :
    (b.attempt c).conditions = b.conditions ++ (c.added? b.table).toList := by
  by_cases asks : c.group = .condition
  · have adds := judge_adds (b := b) asks
    rw [attempt_eq]
    cases judged : b.judge c with
    | accepted b' =>
      rw [judged] at adds
      obtain ⟨clause, added, rfl⟩ := adds
      rw [added]
      rfl
    | rejected m =>
      rw [judged] at adds
      rw [show c.added? b.table = none from adds]
      show (b.record m).1.conditions = b.conditions ++ []
      rw [record_eq, List.append_nil]
    | fault f =>
      rw [judged] at adds
      rw [show c.added? b.table = none from adds]
      exact (List.append_nil _).symm
  · have part : (b.attempt c).part .condition = b.part .condition :=
      b.attempt_part_other (Ne.symm asks)
    have same : (b.attempt c).conditions = b.conditions :=
      (congrArg Builder.conditions part : ((b.attempt c).part .condition).conditions = _)
    rw [same, ClauseCall.added?_other asks]
    exact (List.append_nil _).symm

/-- The conditions of a builder are those that the calls have added, in their order. -/
theorem attemptAll_conditions (b : Builder) (cs : List ClauseCall) :
    (b.attemptAll cs).conditions = b.conditions ++ cs.filterMap (·.added? b.table) := by
  induction cs generalizing b with
  | nil => exact (List.append_nil _).symm
  | cons c cs ih =>
    show ((b.attempt c).attemptAll cs).conditions = _
    rw [ih, attempt_conditions, attempt_table, List.append_assoc, List.filterMap_cons]
    cases c.added? b.table <;> rfl

/-! ### The filter -/

/-- What stands behind `WHERE`. -/
def filterText (b : Builder) : String :=
  "1" ++ String.join (b.conditions.map fun c => " AND " ++ c.sql.display)

theorem whereText_eq (b : Builder) : b.whereText = "WHERE " ++ b.filterText := by
  rw [whereText_join, filterText, ← String.append_assoc]
  rfl

/-- The condition that is always true. -/
def always : Expression := [[.atom [.word ['1']]]]

theorem read?_join {s : String} {e : Expression} (read : read? s = some e) {cs : List Clause}
    {es : List Expression} (conditions : cs.mapM (fun c => read? c.sql.display) = some es) :
    read? (s ++ String.join (cs.map fun c => " AND " ++ c.sql.display)) = some (glueAll e es) := by
  induction cs generalizing s e es with
  | nil =>
    cases conditions
    rw [List.map_nil, String.join_nil, String.append_empty]
    exact read
  | cons c cs ih =>
    rw [List.mapM_cons] at conditions
    obtain ⟨e', read', conditions⟩ := Option.bind_eq_some_iff.mp conditions
    obtain ⟨es', rest, same⟩ := Option.bind_eq_some_iff.mp conditions
    cases same
    have next : read? (s ++ " AND " ++ c.sql.display) = some (glue e e') := by
      rw [read?_and read, read', Option.map_some]
    rw [List.map_cons, String.join_cons, ← String.append_assoc, ← String.append_assoc]
    exact ih next rest

/-- The filter is read as its conditions with `AND` between them. -/
theorem read?_filterText {es : List Expression}
    (conditions : b.conditions.mapM (fun c => read? c.sql.display) = some es) :
    read? b.filterText = some (glueAll always es) :=
  read?_join rfl conditions

theorem ne_nil_of_mapM {cs : List Clause} {es : List Expression}
    (readable : cs.mapM (fun c => read? c.sql.display) = some es) : ∀ e ∈ es, e ≠ [] := by
  induction cs generalizing es with
  | nil =>
    cases readable
    exact nofun
  | cons c cs ih =>
    rw [List.mapM_cons] at readable
    obtain ⟨e, read, readable⟩ := Option.bind_eq_some_iff.mp readable
    obtain ⟨es', rest, same⟩ := Option.bind_eq_some_iff.mp readable
    cases same
    exact List.forall_mem_cons.mpr ⟨read?_ne_nil read, ih rest⟩

theorem holds_filter {es : List Expression} (filled : ∀ e ∈ es, e ≠ []) {v : List Mark → Truth}
    (one : v [.word ['1']] = some true)
    (alone : (∀ e ∈ es, e.Closed) ∨ ∃ e, es = [e]) :
    Holds v (glueAll always es) ↔ ∀ e ∈ es, Holds v e := by
  have first : Holds v always :=
    holds_one.mpr fun f there => by
      rw [List.mem_singleton.mp there]
      exact one
  rcases alone with closed | ⟨e, rfl⟩
  · exact (glueAll_closed (e := always) ⟨_, rfl⟩ closed).2.trans (and_iff_right first)
  · rw [List.forall_mem_singleton]
    exact holds_glue_first first (filled e (List.mem_singleton.mpr rfl))

theorem filterText_attempt (b : Builder) (c : ClauseCall) :
    (b.attempt c).filterText = b.filterText ++
      String.join ((c.added? b.table).toList.map fun d => " AND " ++ d.sql.display) := by
  unfold filterText
  rw [attempt_conditions, List.map_append, String.join_append, String.append_assoc]

/-- A call whose condition has no `OR` outside brackets never lets the filter be true more often. -/
theorem holds_of_attempt {e : Expression} (read : read? b.filterText = some e) {c : ClauseCall}
    (closed : ∀ d, c.added? b.table = some d → ∃ e', read? d.sql.display = some e' ∧ e'.Closed) :
    ∃ e', read? (b.attempt c).filterText = some e' ∧ ∀ v, Holds v e' → Holds v e := by
  rw [filterText_attempt]
  cases added : c.added? b.table with
  | none => exact ⟨e, by simpa using read, fun v holds => holds⟩
  | some d =>
    obtain ⟨e', read', one⟩ := closed d added
    refine ⟨glue e e', ?_, fun v => holds_of_glue (read?_ne_nil read) one⟩
    have text : b.filterText ++ String.join ([d].map fun d => " AND " ++ d.sql.display) =
        b.filterText ++ " AND " ++ d.sql.display := by
      simp [String.append_assoc]
    rw [Option.toList_some, text, read?_and read, read', Option.map_some]

/-! ### Conditions that a builder makes -/

/-- A qualified column has a point. -/
theorem qualify_pointed {table field column : Value} (tables : table.IsPath) (fields : field.IsPath)
    (qualified : qualify table field = .ok column) :
    Sql.IsPath column.display.toList ∧ '.' ∈ column.display.toList := by
  obtain ⟨column', qualified', path⟩ := qualify_path tables fields
  rw [qualified] at qualified'
  cases qualified'
  refine ⟨path.display, ?_⟩
  obtain ⟨f, rfl, -⟩ := fields.exists_text
  rcases qualify_eq_ok.mp qualified with ⟨pointed, rfl⟩ | ⟨-, -, -, rfl⟩
  · exact List.contains_iff_mem.mp (Except.ok.inj pointed)
  · simp [Value.display_text]

theorem compared?_atom {table field operator value : Value} {d : Clause} (tables : table.IsPath)
    (fields : field.IsPath) (known : IsOperator (Text.strip operator.display))
    (compared : ClauseCall.compared? table field operator value = some d) :
    ∃ ms, read? d.sql.display = some [[.atom ms]] := by
  unfold ClauseCall.compared? at compared
  split at compared
  · cases compared
  · obtain ⟨word, written, compared⟩ := Option.bind_eq_some_iff.mp compared
    obtain rfl := (Value.write_eq_ok.mp (toOption_eq_some.mp written)).2
    split at compared
    · cases compared
    · obtain ⟨column, qualified, written⟩ := bind_eq_ok.mp (toOption_eq_some.mp compared)
      obtain rfl := (Clause.written_eq_ok.mp written).2
      obtain ⟨path, point⟩ := qualify_pointed tables fields qualified
      exact read?_comparison path point known

/-- A condition that a builder makes itself is one atom. -/
theorem added?_atom {table : Value} {c : ClauseCall} {d : Clause} (tables : table.IsPath)
    (atomic : c.IsAtomic) (added : c.added? table = some d) :
    ∃ ms, read? d.sql.display = some [[.atom ms]] := by
  cases c with
  | matching field operator value => exact compared?_atom tables atomic.1 atomic.2 added
  | like field value =>
    exact compared?_atom tables atomic (isOperator_of_comparator (by decide)) added
  | among field values =>
    simp only [ClauseCall.added?] at added
    split at added
    · cases added
    · obtain ⟨vs, -, added⟩ := bind_eq_ok.mp (toOption_eq_some.mp added)
      obtain ⟨column, qualified, written⟩ := bind_eq_ok.mp added
      obtain rfl := (Clause.written_eq_ok.mp written).2
      obtain ⟨path, point⟩ := qualify_pointed tables atomic qualified
      exact read?_membership path point vs
  | _ => exact atomic.elim

/-! ### Statements with a filter -/

/-- A text stands behind `WHERE` in every selection, update and deletion, and nothing but the order
and the bounds of a selection stands behind it. -/
structure FilteredBy (b : Builder) (text : String) : Prop where
  select : ∀ fields s, b.compileSelect fields = .ok s → ∃ names limit offset,
    s.sql = "SELECT " ++ ", ".intercalate names ++ " FROM " ++ b.table.display ++ b.joinsText ++
      " WHERE " ++ text ++ spaced b.orderText ++ spaced limit ++ spaced offset
  update : ∀ data s, b.compileUpdate data = .ok s → ∃ set,
    s.sql = "UPDATE " ++ b.table.display ++ b.joinsText ++ " SET " ++ set ++ " WHERE " ++ text
  delete : ∀ s, b.compileDelete = .ok s →
    s.sql = "DELETE FROM " ++ b.table.display ++ b.joinsText ++ " WHERE " ++ text

theorem selectText_filter (b : Builder) (names : List String) (limit offset : String) :
    b.selectText names limit offset =
      "SELECT " ++ ", ".intercalate names ++ " FROM " ++ b.table.display ++ b.joinsText ++
        " WHERE " ++ b.filterText ++ spaced b.orderText ++ spaced limit ++ spaced offset := by
  unfold selectText scopeText
  rw [whereText_eq]
  simp only [String.append_assoc]
  rfl

theorem updateText_filter (b : Builder) (set : String) :
    b.updateText set =
      "UPDATE " ++ b.table.display ++ b.joinsText ++ " SET " ++ set ++ " WHERE " ++
        b.filterText := by
  unfold updateText
  rw [whereText_eq]
  simp only [String.append_assoc]
  rfl

theorem deleteText_filter (b : Builder) :
    "DELETE FROM " ++ b.table.display ++ b.scopeText =
      "DELETE FROM " ++ b.table.display ++ b.joinsText ++ " WHERE " ++ b.filterText := by
  unfold scopeText
  rw [whereText_eq]
  simp only [String.append_assoc]
  rfl

theorem filteredBy_filterText (b : Builder) : b.FilteredBy b.filterText where
  select fields s compiled := by
    obtain ⟨-, -, -, limit, offset, -, names, -, -, -, -, rfl⟩ := compileSelect_eq_ok.mp compiled
    exact ⟨names, limit, offset, b.selectText_filter names limit offset⟩
  update data s compiled := by
    obtain ⟨-, -, -, set, -, rfl⟩ := compileUpdate_eq_ok.mp compiled
    exact ⟨_, b.updateText_filter _⟩
  delete s compiled := by
    obtain ⟨-, -, rfl⟩ := compileDelete_eq_ok.mp compiled
    exact b.deleteText_filter

/-- Calls for conditions leave the other clauses as they are. -/
theorem attemptAll_of_conditions (table : Value) {calls : List ClauseCall}
    (asks : ∀ c ∈ calls, c.group = .condition) :
    ({ table } : Builder).attemptAll calls =
      { table, conditions := calls.filterMap (·.added? table),
        misuse := (({ table } : Builder).attemptAll calls).misuse } := by
  have conditions := attemptAll_conditions { table } calls
  have tables := attemptAll_table { table } calls
  refine eq_of_parts (fun g => ?_) rfl (attemptAll_executed _ calls)
  by_cases own : g = .condition
  · subst own
    simp only [part, tables, conditions, List.nil_append]
  · have nobody : ClauseCall.ofGroup g calls = [] := by
      refine List.filter_eq_nil_iff.mpr fun c there => ?_
      simpa [asks c there] using Ne.symm own
    rw [attemptAll_part (rfl : part { table } g = part { table } g), nobody]
    cases g with
    | condition => exact (own rfl).elim
    | _ => rfl

/-- A builder with nothing but conditions compiles if it can be written. -/
theorem compiles_conditions (table : Value) (conditions : List Clause) :
    let b : Builder := { table, conditions }
    b.ScopeFits →
    b.compileSelect .none = .ok ⟨"SELECT * FROM " ++ table.display ++ " WHERE " ++ b.filterText,
      Clause.allValues conditions, .select⟩ ∧
    (∀ data set, data.truthy = true → assignments data (qualify table) = .ok set →
      b.compileUpdate data = .ok ⟨"UPDATE " ++ table.display ++ " SET " ++ set.sql.display ++
        " WHERE " ++ b.filterText, set.values ++ Clause.allValues conditions, .update⟩) ∧
    b.compileDelete = .ok ⟨"DELETE FROM " ++ table.display ++ " WHERE " ++ b.filterText,
      Clause.allValues conditions, .delete⟩ := by
  intro b fits
  have joins : b.joinsText = "" := rfl
  refine ⟨?_, fun data set given assigned => ?_, ?_⟩
  · refine compileSelect_eq_ok.mpr ⟨rfl, fits, nofun, "", "", [.text "*"], ["*"], rfl, rfl, rfl, rfl, ?_⟩
    have order : b.orderText = "" := rfl
    rw [selectText_filter, joins, order, spaced_empty]
    simp [b]
  · refine compileUpdate_eq_ok.mpr ⟨rfl, given, fits, set, assigned, ?_⟩
    rw [updateText_filter, joins, String.append_empty]
  · refine compileDelete_eq_ok.mpr ⟨rfl, fits, ?_⟩
    rw [deleteText_filter, joins, String.append_empty]

theorem writeScope_eq_error {words : String} {statement : String → String → Statement} {f : Fault}
    (failed : (do
      let head ← b.writeHead words
      let filter ← b.writeWhere
      return statement head filter) = .error f) : f = .number .unwritable := by
  rcases bind_eq_error.mp failed with table | ⟨head, -, failed⟩
  · exact (Value.writing_eq_error.mp table).1
  · rcases bind_eq_error.mp failed with conditions | ⟨filter, -, none⟩
    · exact (Value.writing_eq_error.mp conditions).1
    · cases none

/-- A builder that cannot be written compiles into no statement with a filter. -/
theorem unwritable_conditions (table : Value) (conditions : List Clause) :
    let b : Builder := { table, conditions }
    ¬ b.ScopeFits →
    b.compileSelect .none = .error (.number .unwritable) ∧
    (∀ data set, data.truthy = true → assignments data (qualify table) = .ok set →
      b.compileUpdate data = .error (.number .unwritable)) ∧
    b.compileDelete = .error (.number .unwritable) := by
  intro b unfit
  refine ⟨?_, fun data set given assigned => ?_, ?_⟩
  · exact compileSelect_unwritable rfl rfl (rfl : [Value.text "*"].mapM Value.text? = .ok ["*"])
      fun fits => unfit fits.1
  · cases compiled : b.compileUpdate data with
    | ok s => exact (unfit (compileUpdate_eq_ok.mp compiled).2.2.1).elim
    | error f =>
      have checked : b.check .update = .ok () := rfl
      simp only [compileUpdate, checked, requireData_eq_ok.mpr given, ok_bind] at compiled
      rw [show assignments data (qualify b.table) = .ok set from assigned, ok_bind] at compiled
      rw [writeScope_eq_error compiled]
  · cases compiled : b.compileDelete with
    | ok s => exact (unfit (compileDelete_eq_ok.mp compiled).2.1).elim
    | error f =>
      have checked : b.check .delete = .ok () := rfl
      simp only [compileDelete, checked, ok_bind] at compiled
      rw [writeScope_eq_error compiled]

/-- The rows of a selection, an update or a deletion are those for which the filter is true, and a
valid builder with nothing but conditions compiles into each of them if it can be written. The filter
is read as the conditions with `AND` between them. It is true exactly when every condition is, if no
condition has an `OR` outside brackets or there is one condition only, and a call whose condition has
none never lets it be true more often. A condition that a builder makes itself has none, and the text
of every expression can be a condition. -/
theorem attemptAll_filter (table : Value) (calls : List ClauseCall) {es : List Expression}
    (readable : (calls.filterMap (·.added? table)).mapM (fun d => read? d.sql.display) = some es) :
    let b : Builder := ({ table } : Builder).attemptAll calls
    let values : List Value := Clause.allValues (calls.filterMap (·.added? table))
    b.FilteredBy b.filterText ∧
    ((∀ c ∈ calls, c.group = .condition) → b.isValid = true →
      (b.ScopeFits →
        b.compileSelect .none = .ok ⟨"SELECT * FROM " ++ table.display ++ " WHERE " ++ b.filterText,
          values, .select⟩ ∧
        (∀ data set, data.truthy = true → assignments data (qualify table) = .ok set →
          b.compileUpdate data = .ok ⟨"UPDATE " ++ table.display ++ " SET " ++ set.sql.display ++
            " WHERE " ++ b.filterText, set.values ++ values, .update⟩) ∧
        b.compileDelete = .ok ⟨"DELETE FROM " ++ table.display ++ " WHERE " ++ b.filterText,
          values, .delete⟩) ∧
      (¬ b.ScopeFits →
        b.compileSelect .none = .error (.number .unwritable) ∧
        (∀ data set, data.truthy = true → assignments data (qualify table) = .ok set →
          b.compileUpdate data = .error (.number .unwritable)) ∧
        b.compileDelete = .error (.number .unwritable))) ∧
    read? b.filterText = some (glueAll always es) ∧
    (∀ v, v [.word ['1']] = some true → (∀ e ∈ es, e.Closed) ∨ (∃ e, es = [e]) →
      (Holds v (glueAll always es) ↔ ∀ e ∈ es, Holds v e)) ∧
    (∀ c, (∀ d, c.added? table = some d → ∃ e, read? d.sql.display = some e ∧ e.Closed) →
      ∃ e, read? (b.attempt c).filterText = some e ∧
        ∀ v, Holds v e → Holds v (glueAll always es)) ∧
    (table.IsPath → ∀ (c : ClauseCall) (d : Clause), c.IsAtomic → c.added? table = some d →
      ∃ ms, read? d.sql.display = some [[.atom ms]]) ∧
    (∀ e, ProperSum e → (∀ m ∈ marksOfSum e, marks? m.text = some [m]) →
      read? (textOf e) = some e) := by
  intro b values
  have tables : b.table = table := attemptAll_table _ calls
  have conditions : b.conditions = calls.filterMap (·.added? table) := attemptAll_conditions _ calls
  have read : read? b.filterText = some (glueAll always es) :=
    read?_filterText (by rw [conditions]; exact readable)
  refine ⟨b.filteredBy_filterText, fun asks valid => ?_, read,
    fun v => holds_filter (ne_nil_of_mapM readable), fun c closed => ?_,
    fun path c d => added?_atom path, fun e => read?_textOf⟩
  · have whole : b = { table, conditions := calls.filterMap (·.added? table) } := by
      have same := attemptAll_of_conditions table asks
      rwa [Option.isNone_iff_eq_none.mp valid] at same
    rw [whole]
    exact ⟨compiles_conditions table _, unwritable_conditions table _⟩
  · rw [← tables] at closed
    exact holds_of_attempt read closed

/-- An `OR` in brackets stays in its condition. -/
theorem attemptAll_filter_bracketed :
    let calls : List ClauseCall :=
      [.matching (.text "age") (.text ">") (.int 18),
        .raw (.text "(a = 1 OR NOT b = 2)") .none]
    let b : Builder := ({ table := .text "users" } : Builder).attemptAll calls
    b.compileDelete = .ok ⟨"DELETE FROM users WHERE 1 AND users.age > ? AND (a = 1 OR NOT b = 2)",
      [.int 18], .delete⟩ ∧
    ∃ older either, read? "users.age > ?" = some older ∧
      read? "(a = 1 OR NOT b = 2)" = some either ∧
      ∃ e, read? b.filterText = some e ∧
        ∀ v, v [.word ['1']] = some true → (Holds v e ↔ Holds v older ∧ Holds v either) := by
  intro calls b
  obtain ⟨older, read⟩ : ∃ p, read? "users.age > ?" = some [p] := ⟨_, rfl⟩
  obtain ⟨either, read'⟩ : ∃ p, read? "(a = 1 OR NOT b = 2)" = some [p] := ⟨_, rfl⟩
  have readable : (calls.filterMap (·.added? (.text "users"))).mapM
      (fun d => read? d.sql.display) = some [[older], [either]] := by
    show [(⟨.text "users.age > ?", [.int 18]⟩ : Clause), ⟨.text "(a = 1 OR NOT b = 2)", []⟩].mapM
      (fun d => read? d.sql.display) = _
    rw [List.mapM_cons, List.mapM_cons]
    simp only [Value.display_text, read, read']
    rfl
  obtain ⟨-, compiles, filter, truth, -⟩ := attemptAll_filter (.text "users") calls readable
  have asks : ∀ c ∈ calls, c.group = .condition :=
    List.forall_mem_cons.mpr ⟨rfl, List.forall_mem_singleton.mpr rfl⟩
  have fits : b.ScopeFits := ⟨rfl, by simp [b, calls]; decide⟩
  obtain ⟨-, -, delete⟩ := (compiles asks rfl).1 fits
  refine ⟨delete, [older], [either], read, read', _, filter, fun v one => ?_⟩
  have closed : ∀ e ∈ ([[older], [either]] : List Expression), e.Closed :=
    List.forall_mem_cons.mpr ⟨⟨older, rfl⟩, List.forall_mem_singleton.mpr ⟨either, rfl⟩⟩
  rw [truth v one (.inl closed), List.forall_mem_cons, List.forall_mem_singleton]

/-- An `OR` outside brackets takes a row into a deletion that the other condition leaves out, and
that was not in it before. -/
theorem filterText_or_reaches_over :
    let first : Builder :=
      ({ table := .text "t" } : Builder).attempt (.matching (.text "c") (.text "=") (.int 3))
    let b : Builder := first.attempt (.raw (.text "a = 1 OR b = 2") .none)
    b.compileDelete =
      .ok ⟨"DELETE FROM t WHERE 1 AND t.c = ? AND a = 1 OR b = 2", [.int 3], .delete⟩ ∧
    ∃ c ab before after, read? "t.c = ?" = some c ∧ read? "a = 1 OR b = 2" = some ab ∧
      read? first.filterText = some before ∧ read? b.filterText = some after ∧
      ∃ v, v [.word ['1']] = some true ∧ ¬ Holds v c ∧ Holds v ab ∧
        ¬ Holds v before ∧ Holds v after := by
  intro first b
  let v : List Mark → Truth := fun ms =>
    some (decide (ms = [.word ['1']] ∨ ms = [.word ['b'], .signs ['='], .word ['2']]))
  have text : first.filterText = "1 AND t.c = ?" := rfl
  have text' : b.filterText = "1 AND t.c = ? AND a = 1 OR b = 2" := rfl
  rw [text, text']
  refine ⟨rfl, _, _, _, _, rfl, rfl, rfl, rfl, v, ?_⟩
  unfold Holds
  decide

end Builder

end TableQuery

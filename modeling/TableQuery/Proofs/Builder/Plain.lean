import TableQuery.Builder.Clause
import TableQuery.Proofs.Sql.Word
import TableQuery.Proofs.Value.Writing

/-!
# Plain builders

A plain builder names its table, its columns and the tables it joins by paths and compares with
known operators; what it binds may be any value. `attemptAll_extends` shows that clause calls with
plain arguments keep a builder plain, and that its conditions are those that the calls have asked
for, in their order.
-/

namespace TableQuery

/-! ### Paths -/

def Value.IsPath : Value → Prop
  | .text s => Sql.IsPath s.toList
  | _ => False

theorem Value.IsPath.exists_text {v : Value} (h : v.IsPath) :
    ∃ s, v = .text s ∧ Sql.IsPath s.toList := by
  cases v with
  | text s => exact ⟨s, rfl, h⟩
  | _ => exact h.elim

theorem Value.IsPath.truthy {v : Value} (h : v.IsPath) : v.truthy = true := by
  obtain ⟨s, rfl, path⟩ := h.exists_text
  have filled : s ≠ "" := by
    rintro rfl
    exact path.ne_nil rfl
  simpa [Value.truthy] using filled

theorem Value.IsPath.display {v : Value} (h : v.IsPath) : Sql.IsPath v.display.toList := by
  obtain ⟨s, rfl, path⟩ := h.exists_text
  exact path

theorem Value.IsPath.isWritable {v : Value} (h : v.IsPath) : v.isWritable = true := by
  obtain ⟨s, rfl, -⟩ := h.exists_text
  rfl

theorem Sql.IsPath.dotted {s t : String} (hs : IsPath s.toList) (ht : IsPath t.toList) :
    IsPath (s ++ "." ++ t).toList := by
  have letters : (s ++ "." ++ t).toList = s.toList ++ '.' :: t.toList := by
    simp only [String.toList_append, List.append_assoc]
    rfl
  rw [letters]
  exact hs.append ht

theorem qualify_path {table column : Value} (ht : table.IsPath) (hc : column.IsPath) :
    ∃ qualified, qualify table column = .ok qualified ∧ qualified.IsPath := by
  obtain ⟨t, rfl, path⟩ := ht.exists_text
  obtain ⟨c, rfl, path'⟩ := hc.exists_text
  have asked : (Value.text c).hasPoint? = .ok (c.toList.contains '.') := rfl
  unfold qualify
  rw [asked, ok_bind]
  split
  · exact ⟨.text c, rfl, path'⟩
  · exact ⟨.text (t ++ "." ++ c), rfl, path.dotted path'⟩

/-! ### Refusals -/

/-- A misuse is refused, or its message cannot be written. -/
theorem Verdict.reject_cases (m : Misuse) :
    (m.Writable ∧ Verdict.reject m = .rejected m) ∨
      (¬ m.Writable ∧ Verdict.reject m = .fault (.number .unwritable)) := by
  unfold reject
  rcases m.write_cases with ⟨writable, written⟩ | ⟨long, failed⟩
  · exact .inl ⟨writable, by rw [written]⟩
  · exact .inr ⟨long, by rw [failed]⟩

theorem Verdict.reject_ne_accepted {m : Misuse} {b : Builder} : Verdict.reject m ≠ .accepted b := by
  rcases reject_cases m with ⟨-, judged⟩ | ⟨-, judged⟩ <;> rw [judged] <;> exact nofun

/-! ### Plain calls -/

def comparators : List String := ["=", "!=", "<>", "<", "<=", ">", ">=", "<=>", "LIKE"]

def Value.IsComparator : Value → Prop
  | .text s => Text.strip s ∈ comparators
  | _ => False

theorem Value.IsComparator.display {v : Value} (h : v.IsComparator) :
    Text.strip v.display ∈ comparators := by
  cases v with
  | text s => exact h
  | _ => exact h.elim

/-- A clause call whose names are paths and whose operators are comparators. The values are
arbitrary. -/
def ClauseCall.Plain : ClauseCall → Prop
  | .matching field operator _ => field.IsPath ∧ operator.IsComparator
  | .raw .. => False
  | .among field _ => field.IsPath
  | .like field _ => field.IsPath
  | .join _ table localField remoteField operator =>
    table.IsPath ∧ localField.IsPath ∧ remoteField.IsPath ∧
      (operator.orElse (.text "=")).display ∈ comparators
  | .only fields => ∀ columns, Builder.selected? fields = .ok columns → ∀ v ∈ columns, v.IsPath
  | .orderBy field _ => field.IsPath
  | .limit _ => True
  | .offset _ => True

/-- The condition that a call asks for, with the values that were given to it. -/
def ClauseCall.condition? (table : Value) : ClauseCall → Option Clause
  | .matching field operator value =>
    (qualify table field).toOption.map fun column =>
      Builder.comparison column (Text.strip operator.display) value
  | .like field value =>
    (qualify table field).toOption.map fun column => Builder.comparison column "LIKE" value
  | .among field values =>
    (qualify table field).toOption.bind fun column =>
      ((values.orElse (.tuple [])).items?).toOption.map (Builder.membership column)
  | _ => none

inductive Clause.Plain : Clause → Prop where
  | comparison {column : Value} {operator : String} (value : Value) (path : column.IsPath)
      (known : operator ∈ comparators) : Plain (Builder.comparison column operator value)
  | membership {column : Value} (values : List Value) (path : column.IsPath) :
      Plain (Builder.membership column values)

namespace Builder

/-- The text of a join of tables that are paths, on fields that are paths. -/
def IsJoin (b : Builder) (text : String) : Prop :=
  ∃ side table localField remoteField operator,
    table.IsPath ∧ localField.IsPath ∧ remoteField.IsPath ∧
      (operator.orElse (.text "=")).display ∈ comparators ∧
      text = b.joinText side table localField remoteField operator

structure Plain (b : Builder) : Prop where
  table : b.table.IsPath
  selection : ∀ columns, b.selection = some columns → ∀ v ∈ columns, v.IsPath
  conditions : ∀ c ∈ b.conditions, c.Plain
  joins : ∀ text ∈ b.joins, b.IsJoin text
  order : ∀ column direction, b.order = some (column, direction) → column.IsPath

/-- A builder after a clause call. A call that faults leaves the builder as it is. -/
def attempt (b : Builder) (c : ClauseCall) : Builder :=
  match b.call c with
  | .ok (b', _) => b'
  | .error _ => b

/-- A builder after clause calls, each made on what the ones before have left. -/
def attemptAll (b : Builder) (cs : List ClauseCall) : Builder := cs.foldl attempt b

/-! ### One call -/

theorem attempt_eq (b : Builder) (c : ClauseCall) :
    b.attempt c =
      match b.judge c with
      | .accepted b' => b'
      | .rejected m => (b.record m).1
      | .fault _ => b := by
  unfold attempt call
  cases b.judge c <;> rfl

theorem record_eq (b : Builder) (m : Misuse) :
    (b.record m).1 = { b with misuse := some (b.misuse.getD m) } := by
  unfold record
  rcases b with ⟨_, _, _, _, _, _, _, _ | _, _⟩ <;> rfl

theorem judgeMatching_plain {b : Builder} {field operator : Value} (value : Value)
    (table : b.table.IsPath) (path : field.IsPath) (known : operator.IsComparator) :
    ∃ column, qualify b.table field = .ok column ∧ column.IsPath ∧
      b.judgeMatching field operator value =
        .accepted (b.addCondition (comparison column (Text.strip operator.display) value)) := by
  obtain ⟨column, qualified, path'⟩ := qualify_path table path
  refine ⟨column, qualified, path', ?_⟩
  cases operator with
  | text s =>
    have stripped : Text.strip s ≠ "" := by
      intro empty
      exact absurd (empty ▸ known : "" ∈ comparators) (by decide)
    have filled : (Value.text s).truthy = true := by
      refine bne_iff_ne.mpr ?_
      rintro rfl
      exact stripped rfl
    have written : (comparison column (Text.strip s) value).written [column] =
        .ok (comparison column (Text.strip s) value) :=
      Clause.written_eq_ok.mpr ⟨by simpa using path'.isWritable, rfl⟩
    simp [judgeMatching, path.truthy, filled, Value.display_text, stripped, qualified, written,
      Verdict.ofRead]
  | _ => exact known.elim

theorem judgeAmong_plain {b : Builder} {field : Value} (values : Value) (table : b.table.IsPath)
    (path : field.IsPath) :
    ∃ column, qualify b.table field = .ok column ∧ column.IsPath ∧
      b.judgeAmong field values =
        .ofRead (values.orElse (.tuple [])).items? fun vs =>
          b.addCondition (membership column vs) := by
  obtain ⟨column, qualified, path'⟩ := qualify_path table path
  refine ⟨column, qualified, path', ?_⟩
  have written (vs : List Value) : (membership column vs).written [column] =
      .ok (membership column vs) :=
    Clause.written_eq_ok.mpr ⟨by simpa using path'.isWritable, rfl⟩
  simp only [judgeAmong, path.truthy, qualified]
  cases (values.orElse (.tuple [])).items? with
  | error f => rfl
  | ok vs => simp [written, Verdict.ofRead]

/-- What a call that adds the conditions `cs` makes of a builder. -/
structure Extends (b : Builder) (cs : List Clause) (b' : Builder) : Prop where
  plain : b'.Plain
  table : b'.table = b.table
  conditions : b'.conditions = b.conditions ++ cs

/-- A verdict that adds conditions if it accepts, and else leaves none to add. -/
def Allows (b : Builder) (cs : List Clause) : Verdict → Prop
  | .accepted b' => b.Extends cs b'
  | .rejected _ => cs = []
  | .fault _ => cs = []

theorem allows_reject (b : Builder) (m : Misuse) : b.Allows [] (.reject m) := by
  rcases Verdict.reject_cases m with ⟨-, judged⟩ | ⟨-, judged⟩ <;> rw [judged] <;> rfl

theorem Plain.addCondition {b : Builder} (plain : b.Plain) {c : Clause} (known : c.Plain) :
    b.Extends [c] (b.addCondition c) := by
  refine ⟨⟨plain.table, plain.selection, fun d member => ?_, plain.joins, plain.order⟩, rfl, rfl⟩
  rcases List.mem_append.mp member with before | last
  · exact plain.conditions d before
  · rw [List.mem_singleton.mp last]
    exact known

/-- Bounds and a misuse are no clauses. -/
theorem Plain.unclaused {b : Builder} (plain : b.Plain) (limit offset : Option Nat)
    (misuse : Option Misuse) : b.Extends [] { b with limit, offset, misuse } :=
  ⟨⟨plain.table, plain.selection, plain.conditions, plain.joins, plain.order⟩, rfl,
    (List.append_nil _).symm⟩

theorem judgeJoin_plain {b : Builder} (plain : b.Plain) {side : JoinSide}
    {table localField remoteField operator : Value}
    (joined : b.IsJoin (b.joinText side table localField remoteField operator)) :
    b.Allows [] (b.judgeJoin side table localField remoteField operator) := by
  unfold judgeJoin
  split
  · rfl
  · cases written : Value.writing [table, b.table, localField, operator.orElse (.text "="),
        remoteField] (b.joinText side table localField remoteField operator) with
    | error f => rfl
    | ok text =>
      obtain rfl := (Value.writing_eq_ok.mp written).2
      refine ⟨⟨plain.table, plain.selection, plain.conditions, fun text member => ?_, plain.order⟩,
        rfl, (List.append_nil _).symm⟩
      rcases List.mem_append.mp member with before | last
      · exact plain.joins text before
      · rw [List.mem_singleton.mp last]
        exact joined

theorem judgeOnly_plain {b : Builder} (plain : b.Plain) {fields : Value}
    (paths : ∀ columns, selected? fields = .ok columns → ∀ v ∈ columns, v.IsPath) :
    b.Allows [] (b.judgeOnly fields) := by
  unfold judgeOnly
  split
  · rfl
  · split
    · rfl
    · rfl
    · rename_i columns _ read
      refine ⟨⟨plain.table, ?_, plain.conditions, plain.joins, plain.order⟩, rfl,
        (List.append_nil _).symm⟩
      rintro _ ⟨⟩
      exact paths columns read

theorem judgeOrderBy_plain {b : Builder} (plain : b.Plain) {field : Value} (direction : Value)
    (path : field.IsPath) : b.Allows [] (b.judgeOrderBy field direction) := by
  obtain ⟨column, qualified, path'⟩ := qualify_path plain.table path
  unfold judgeOrderBy
  split
  · rfl
  · split
    · exact b.allows_reject _
    · split
      · rfl
      · rw [path.truthy, qualified]
        refine ⟨⟨plain.table, plain.selection, plain.conditions, plain.joins, ?_⟩, rfl,
          (List.append_nil _).symm⟩
        rintro _ _ ⟨⟩
        exact path'

theorem judgeLimit_plain {b : Builder} (plain : b.Plain) (quantity : Value) :
    b.Allows [] (b.judgeLimit quantity) := by
  unfold judgeLimit
  split
  · exact b.allows_reject _
  · split
    · rfl
    · exact plain.unclaused (some _) b.offset b.misuse

theorem judgeOffset_plain {b : Builder} (plain : b.Plain) (quantity : Value) :
    b.Allows [] (b.judgeOffset quantity) := by
  unfold judgeOffset
  split
  · exact b.allows_reject _
  · split
    · rfl
    · exact plain.unclaused b.limit (some _) b.misuse

theorem judge_plain {b : Builder} {c : ClauseCall} (plain : b.Plain) (asked : c.Plain) :
    b.Allows (c.condition? b.table).toList (b.judge c) := by
  cases c with
  | matching field operator value =>
    obtain ⟨column, qualified, path, judged⟩ :=
      judgeMatching_plain value plain.table asked.1 asked.2
    simp only [judge, judged, ClauseCall.condition?, qualified]
    exact plain.addCondition (.comparison value path asked.2.display)
  | like field value =>
    have known : (Value.text "LIKE").IsComparator := by
      show Text.strip "LIKE" ∈ comparators
      decide
    obtain ⟨column, qualified, path, judged⟩ := judgeMatching_plain value plain.table asked known
    simp only [judge, judged, ClauseCall.condition?, qualified]
    exact plain.addCondition (.comparison value path known)
  | among field values =>
    obtain ⟨column, qualified, path, judged⟩ := judgeAmong_plain values plain.table asked
    simp only [judge, judged, ClauseCall.condition?, qualified]
    cases (values.orElse (.tuple [])).items? with
    | error f => rfl
    | ok vs => exact plain.addCondition (.membership vs path)
  | raw => exact asked.elim
  | join side table localField remoteField operator =>
    obtain ⟨path, path', path'', known⟩ := asked
    exact judgeJoin_plain plain ⟨side, table, localField, remoteField, operator, path, path', path'',
      known, rfl⟩
  | only fields => exact judgeOnly_plain plain asked
  | orderBy field direction => exact judgeOrderBy_plain plain direction asked
  | limit quantity => exact judgeLimit_plain plain quantity
  | offset quantity => exact judgeOffset_plain plain quantity

/-- A plain call keeps a builder plain and adds the condition that it asks for. -/
theorem attempt_extends {b : Builder} {c : ClauseCall} (plain : b.Plain) (asked : c.Plain) :
    b.Extends (c.condition? b.table).toList (b.attempt c) := by
  have allowed := judge_plain plain asked
  rw [attempt_eq]
  cases judged : b.judge c with
  | accepted b' =>
    rw [judged] at allowed
    exact allowed
  | rejected m =>
    rw [judged] at allowed
    rw [show (c.condition? b.table).toList = [] from allowed]
    show b.Extends [] (b.record m).1
    rw [record_eq]
    exact plain.unclaused b.limit b.offset _
  | fault f =>
    rw [judged] at allowed
    rw [show (c.condition? b.table).toList = [] from allowed]
    exact ⟨plain, rfl, (List.append_nil _).symm⟩

/-! ### Calls in turn -/

theorem attemptAll_extends {b : Builder} {cs : List ClauseCall} (plain : b.Plain)
    (asked : ∀ c ∈ cs, c.Plain) :
    b.Extends (cs.filterMap fun c => c.condition? b.table) (b.attemptAll cs) := by
  induction cs generalizing b with
  | nil => exact ⟨plain, rfl, (List.append_nil _).symm⟩
  | cons c cs ih =>
    have first := attempt_extends plain (asked c List.mem_cons_self)
    have rest := ih first.plain fun d member => asked d (List.mem_cons_of_mem _ member)
    -- The later calls see the table of the builder that the first one left, which is the same.
    have conditions := rest.conditions
    rw [first.conditions, first.table, List.append_assoc] at conditions
    refine ⟨rest.plain, rest.table.trans first.table, conditions.trans ?_⟩
    rw [List.filterMap_cons]
    cases c.condition? b.table <;> rfl

end Builder

end TableQuery

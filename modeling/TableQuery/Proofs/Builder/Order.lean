import TableQuery.Proofs.Builder.Growth

/-!
# Clause calls in another order

A clause call looks at one part of a builder only, that of its group, and changes no other:
`judge_eq_rejoin` says both at once. So what a sequence of calls makes of a part, and which calls of
a group it rejects, hangs on the calls of that group alone (`attemptAll_part`, `refused_filter`). Two
sequences that differ only in how the groups are mixed make the same builder, but for the misuse
that is recorded, which is `attemptAll_reordered`.
-/

namespace TableQuery

/-- The group of clauses that a call adds to or sets. -/
def ClauseCall.group : ClauseCall → ClauseGroup
  | .matching .. => .condition
  | .raw .. => .condition
  | .among .. => .condition
  | .like .. => .condition
  | .join .. => .join
  | .only _ => .only
  | .orderBy .. => .orderBy
  | .limit _ => .limit
  | .offset _ => .offset

/-- The calls of one group, in their order. -/
def ClauseCall.ofGroup (g : ClauseGroup) (cs : List ClauseCall) : List ClauseCall :=
  cs.filter fun c => c.group = g

theorem ClauseCall.ofGroup_cons_self (c : ClauseCall) (cs : List ClauseCall) :
    ofGroup c.group (c :: cs) = c :: ofGroup c.group cs :=
  List.filter_cons_of_pos (decide_eq_true rfl)

theorem ClauseCall.ofGroup_cons_other {c : ClauseCall} {g : ClauseGroup} (other : c.group ≠ g)
    (cs : List ClauseCall) : ofGroup g (c :: cs) = ofGroup g cs :=
  List.filter_cons_of_neg (by simpa using other)

namespace Builder

/-! ### Parts -/

/-- A fresh builder with the clauses of one group. -/
def part (b : Builder) : ClauseGroup → Builder
  | .only => { table := b.table, selection := b.selection }
  | .orderBy => { table := b.table, order := b.order }
  | .limit => { table := b.table, limit := b.limit }
  | .offset => { table := b.table, offset := b.offset }
  | .condition => { table := b.table, conditions := b.conditions }
  | .join => { table := b.table, joins := b.joins }

/-- A builder with the clauses of one group taken from another. -/
def rejoin (b : Builder) (g : ClauseGroup) (p : Builder) : Builder :=
  match g with
  | .only => { b with selection := p.selection }
  | .orderBy => { b with order := p.order }
  | .limit => { b with limit := p.limit }
  | .offset => { b with offset := p.offset }
  | .condition => { b with conditions := p.conditions }
  | .join => { b with joins := p.joins }

variable {b b' : Builder} {g : ClauseGroup}

theorem part_part (b : Builder) (g : ClauseGroup) : (b.part g).part g = b.part g := by
  cases g <;> rfl

theorem part_rejoin_self {p : Builder} (table : p.table = b.table) :
    (b.rejoin g p).part g = p.part g := by
  cases g <;> simp only [part, rejoin, table]

theorem part_rejoin_other {g' : ClauseGroup} (other : g' ≠ g) (p : Builder) :
    (b.rejoin g p).part g' = b.part g' := by
  cases g <;> cases g' <;> first | rfl | exact absurd rfl other

/-- A misuse is in no part. -/
theorem part_record (b : Builder) (m : Misuse) (g : ClauseGroup) :
    (b.record m).1.part g = b.part g := by
  rw [record_eq]
  cases g <;> rfl

/-! ### One call -/

/-- A verdict on a part as a verdict on the whole. -/
def rejoinVerdict (b : Builder) (g : ClauseGroup) : Verdict → Verdict
  | .accepted p => .accepted (b.rejoin g p)
  | .rejected m => .rejected m
  | .fault f => .fault f

theorem rejoinVerdict_ofRead {α : Type} (x : Except Fault α) (accept : α → Builder) :
    b.rejoinVerdict g (.ofRead x accept) = .ofRead x fun a => b.rejoin g (accept a) := by
  cases x <;> rfl

theorem rejoinVerdict_reject (m : Misuse) : b.rejoinVerdict g (.reject m) = .reject m := by
  unfold Verdict.reject
  cases m.write <;> rfl

theorem judgeMatching_rejoin (b : Builder) (field operator value : Value) :
    b.judgeMatching field operator value =
      b.rejoinVerdict .condition ((b.part .condition).judgeMatching field operator value) := by
  unfold judgeMatching
  split
  · rfl
  · split
    · exact (rejoinVerdict_reject _).symm
    · split
      · rfl
      · split
        · exact (rejoinVerdict_reject _).symm
        · rw [rejoinVerdict_ofRead]
          rfl

theorem judgeRaw_rejoin (b : Builder) (sql values : Value) :
    b.judgeRaw sql values =
      b.rejoinVerdict .condition ((b.part .condition).judgeRaw sql values) := by
  unfold judgeRaw
  split
  · rfl
  · rw [rejoinVerdict_ofRead]
    rfl

theorem judgeAmong_rejoin (b : Builder) (field values : Value) :
    b.judgeAmong field values =
      b.rejoinVerdict .condition ((b.part .condition).judgeAmong field values) := by
  unfold judgeAmong
  split
  · rfl
  · rw [rejoinVerdict_ofRead]
    rfl

theorem judgeJoin_rejoin (b : Builder) (side : JoinSide)
    (table localField remoteField operator : Value) :
    b.judgeJoin side table localField remoteField operator =
      b.rejoinVerdict .join
        ((b.part .join).judgeJoin side table localField remoteField operator) := by
  unfold judgeJoin
  split
  · rfl
  · rw [rejoinVerdict_ofRead]
    rfl

theorem judgeOnly_rejoin (b : Builder) (fields : Value) :
    b.judgeOnly fields = b.rejoinVerdict .only ((b.part .only).judgeOnly fields) := by
  unfold judgeOnly
  show (if b.selection.isSome then _ else _) =
    b.rejoinVerdict .only (if b.selection.isSome then _ else _)
  split
  · rfl
  · split <;> rfl

theorem judgeOrderBy_rejoin (b : Builder) (field direction : Value) :
    b.judgeOrderBy field direction =
      b.rejoinVerdict .orderBy ((b.part .orderBy).judgeOrderBy field direction) := by
  unfold judgeOrderBy
  split
  · rfl
  · split
    · exact (rejoinVerdict_reject _).symm
    · show (if b.order.isSome then _ else _) =
        b.rejoinVerdict .orderBy (if b.order.isSome then _ else _)
      split
      · rfl
      · split
        · rfl
        · rw [rejoinVerdict_ofRead]
          rfl

theorem judgeLimit_rejoin (b : Builder) (quantity : Value) :
    b.judgeLimit quantity = b.rejoinVerdict .limit ((b.part .limit).judgeLimit quantity) := by
  unfold judgeLimit
  split
  · exact (rejoinVerdict_reject _).symm
  · show (if b.limit.isSome then _ else _) =
      b.rejoinVerdict .limit (if b.limit.isSome then _ else _)
    split <;> rfl

theorem judgeOffset_rejoin (b : Builder) (quantity : Value) :
    b.judgeOffset quantity = b.rejoinVerdict .offset ((b.part .offset).judgeOffset quantity) := by
  unfold judgeOffset
  split
  · exact (rejoinVerdict_reject _).symm
  · show (if b.offset.isSome then _ else _) =
      b.rejoinVerdict .offset (if b.offset.isSome then _ else _)
    split <;> rfl

/-- A call is judged by the part of its group, and changes that part or nothing. -/
theorem judge_eq_rejoin (b : Builder) (c : ClauseCall) :
    b.judge c = b.rejoinVerdict c.group ((b.part c.group).judge c) := by
  cases c with
  | matching field operator value => exact b.judgeMatching_rejoin field operator value
  | raw sql values => exact b.judgeRaw_rejoin sql values
  | among field values => exact b.judgeAmong_rejoin field values
  | like field value => exact b.judgeMatching_rejoin field (.text "LIKE") value
  | join side table localField remoteField operator =>
    exact b.judgeJoin_rejoin side table localField remoteField operator
  | only fields => exact b.judgeOnly_rejoin fields
  | orderBy field direction => exact b.judgeOrderBy_rejoin field direction
  | limit quantity => exact b.judgeLimit_rejoin quantity
  | offset quantity => exact b.judgeOffset_rejoin quantity

/-- Tests whether a call is refused as a misuse. -/
def rejects (b : Builder) (c : ClauseCall) : Bool :=
  match b.judge c with
  | .rejected _ => true
  | _ => false

theorem rejects_part (b : Builder) (c : ClauseCall) :
    b.rejects c = (b.part c.group).rejects c := by
  unfold rejects
  rw [b.judge_eq_rejoin c]
  cases (b.part c.group).judge c <;> rfl

theorem attempt_table (b : Builder) (c : ClauseCall) : (b.attempt c).table = b.table := by
  rw [attempt_eq]
  cases judged : b.judge c with
  | accepted b' => exact (judge_grows judged).table
  | rejected m =>
    show (b.record m).1.table = b.table
    rw [record_eq]
  | fault f => rfl

theorem attemptAll_table (b : Builder) (cs : List ClauseCall) :
    (b.attemptAll cs).table = b.table := by
  induction cs generalizing b with
  | nil => rfl
  | cons c cs ih => exact (ih (b.attempt c)).trans (b.attempt_table c)

theorem attempt_part_self (b : Builder) (c : ClauseCall) :
    (b.attempt c).part c.group = ((b.part c.group).attempt c).part c.group := by
  rw [attempt_eq, attempt_eq, b.judge_eq_rejoin c]
  cases judged : (b.part c.group).judge c with
  | accepted p =>
    have table : p.table = b.table := by
      rw [(judge_grows judged).table]
      cases c.group <;> rfl
    exact part_rejoin_self table
  | rejected m =>
    show (b.record m).1.part c.group = ((b.part c.group).record m).1.part c.group
    rw [part_record, part_record, part_part]
  | fault f => exact (part_part b c.group).symm

theorem attempt_part_other (b : Builder) {c : ClauseCall} (other : g ≠ c.group) :
    (b.attempt c).part g = b.part g := by
  rw [attempt_eq, b.judge_eq_rejoin c]
  cases (b.part c.group).judge c with
  | accepted p => exact part_rejoin_other other p
  | rejected m => exact b.part_record m g
  | fault f => rfl

theorem attempt_isValid (b : Builder) (c : ClauseCall) :
    (b.attempt c).isValid = (b.isValid && !b.rejects c) := by
  rw [attempt_eq]
  unfold rejects isValid
  cases judged : b.judge c with
  | accepted b' => simp only [(judge_grows judged).misuse, Bool.not_false, Bool.and_true]
  | rejected m =>
    show (b.record m).1.misuse.isNone = _
    rw [record_eq]
    simp only [Option.isNone_some, Bool.not_true, Bool.and_false]
  | fault f => simp only [Bool.not_false, Bool.and_true]

/-! ### Calls in turn -/

/-- The calls that a builder refuses as misuses, each judged after the ones before. -/
def refused (b : Builder) : List ClauseCall → List ClauseCall
  | [] => []
  | c :: cs => (if b.rejects c then [c] else []) ++ (b.attempt c).refused cs

theorem attemptAll_isValid (b : Builder) (cs : List ClauseCall) :
    (b.attemptAll cs).isValid = (b.isValid && (b.refused cs).isEmpty) := by
  induction cs generalizing b with
  | nil => exact (Bool.and_true _).symm
  | cons c cs ih =>
    show ((b.attempt c).attemptAll cs).isValid = _
    rw [ih, attempt_isValid, refused]
    cases b.rejects c <;> simp

/-- A part of a builder hangs on the calls of its group alone. -/
theorem attemptAll_part {cs : List ClauseCall} (same : b.part g = b'.part g) :
    (b.attemptAll cs).part g = (b'.attemptAll (ClauseCall.ofGroup g cs)).part g := by
  induction cs generalizing b b' with
  | nil => exact same
  | cons c cs ih =>
    show ((b.attempt c).attemptAll cs).part g = _
    by_cases own : c.group = g
    · subst own
      rw [ClauseCall.ofGroup_cons_self]
      apply ih
      rw [b.attempt_part_self, b'.attempt_part_self, same]
    · rw [ClauseCall.ofGroup_cons_other own]
      apply ih
      rw [b.attempt_part_other (Ne.symm own), same]

/-- Which calls of a group are refused hangs on the calls of that group alone. -/
theorem refused_filter {cs : List ClauseCall} (same : b.part g = b'.part g) :
    ClauseCall.ofGroup g (b.refused cs) = b'.refused (ClauseCall.ofGroup g cs) := by
  induction cs generalizing b b' with
  | nil => rfl
  | cons c cs ih =>
    rw [refused, ClauseCall.ofGroup, List.filter_append]
    by_cases own : c.group = g
    · subst own
      have next : (b.attempt c).part c.group = (b'.attempt c).part c.group := by
        rw [b.attempt_part_self, b'.attempt_part_self, same]
      have judged : b.rejects c = b'.rejects c := by
        rw [b.rejects_part, b'.rejects_part, same]
      rw [ClauseCall.ofGroup_cons_self, refused, ← ih next, judged]
      cases b'.rejects c <;> simp [ClauseCall.ofGroup]
    · have next : (b.attempt c).part g = b'.part g := by
        rw [b.attempt_part_other (Ne.symm own), same]
      rw [ClauseCall.ofGroup_cons_other own, ← ih next]
      cases b.rejects c <;> simp [ClauseCall.ofGroup, own]

theorem attemptAll_executed (b : Builder) (cs : List ClauseCall) :
    (b.attemptAll cs).executed = b.executed := by
  induction cs generalizing b with
  | nil => rfl
  | cons c cs ih =>
    show ((b.attempt c).attemptAll cs).executed = _
    rw [ih]
    unfold attempt
    split
    · exact call_executed ‹_›
    · rfl

/-! ### Reordered calls -/

/-- Two sequences with the same calls of each group in the same order. One is then the other with
the groups mixed in another way. -/
def Reordered (cs ds : List ClauseCall) : Prop :=
  ∀ g, ClauseCall.ofGroup g cs = ClauseCall.ofGroup g ds

theorem refused_reordered {cs ds : List ClauseCall} (same : Reordered cs ds) (b : Builder) :
    b.refused cs = [] ↔ b.refused ds = [] := by
  have none_of {cs ds : List ClauseCall} (same : Reordered cs ds) (quiet : b.refused cs = []) :
      b.refused ds = [] := by
    apply List.eq_nil_iff_forall_not_mem.mpr
    intro c member
    -- A call that is refused in one order is refused among the calls of its group.
    have there : c ∈ ClauseCall.ofGroup c.group (b.refused ds) :=
      List.mem_filter.mpr ⟨member, decide_eq_true rfl⟩
    have self : b.part c.group = b.part c.group := rfl
    rw [refused_filter self, ← same, ← refused_filter self, quiet] at there
    exact List.not_mem_nil there
  exact ⟨none_of same, none_of fun g => (same g).symm⟩

theorem part_reordered {cs ds : List ClauseCall} (same : Reordered cs ds) (b : Builder)
    (g : ClauseGroup) : (b.attemptAll cs).part g = (b.attemptAll ds).part g := by
  have self : b.part g = b.part g := rfl
  rw [attemptAll_part self, same g, ← attemptAll_part self]

theorem clauses_of_parts (parts : ∀ g, b.part g = b'.part g) :
    b.table = b'.table ∧ b.selection = b'.selection ∧ b.conditions = b'.conditions ∧
      b.joins = b'.joins ∧ b.order = b'.order ∧ b.limit = b'.limit ∧ b.offset = b'.offset := by
  have only := Builder.mk.inj (parts .only)
  have condition := Builder.mk.inj (parts .condition)
  have join := Builder.mk.inj (parts .join)
  have orderBy := Builder.mk.inj (parts .orderBy)
  have limit := Builder.mk.inj (parts .limit)
  have offset := Builder.mk.inj (parts .offset)
  obtain ⟨table, selection, -⟩ := only
  obtain ⟨-, -, conditions, -⟩ := condition
  obtain ⟨-, -, -, joins, -⟩ := join
  obtain ⟨-, -, -, -, order, -⟩ := orderBy
  obtain ⟨-, -, -, -, -, limit, -⟩ := limit
  obtain ⟨-, -, -, -, -, -, offset, -⟩ := offset
  exact ⟨table, selection, conditions, joins, order, limit, offset⟩

theorem eq_of_parts (parts : ∀ g, b.part g = b'.part g) (misuse : b.misuse = b'.misuse)
    (executed : b.executed = b'.executed) : b = b' := by
  obtain ⟨table, selection, conditions, joins, order, limit, offset⟩ := clauses_of_parts parts
  cases b
  cases b'
  simp_all only

/-- However the groups of calls are mixed, a fresh builder ends with the same clauses, and in all
orders it is valid or in none. If it is valid it compiles into the same statements or faults. -/
theorem attemptAll_reordered (table : Value) {cs ds : List ClauseCall} (same : Reordered cs ds) :
    let b : Builder := ({ table } : Builder).attemptAll cs
    let b' : Builder := ({ table } : Builder).attemptAll ds
    b.selection = b'.selection ∧ b.conditions = b'.conditions ∧ b.joins = b'.joins ∧
    b.order = b'.order ∧ b.limit = b'.limit ∧ b.offset = b'.offset ∧ b.isValid = b'.isValid ∧
    (b.isValid = true →
      (∀ fields, b.compileSelect fields = b'.compileSelect fields) ∧
      (∀ data upsert, b.compileInsert data upsert = b'.compileInsert data upsert) ∧
      (∀ data, b.compileUpdate data = b'.compileUpdate data) ∧
      b.compileDelete = b'.compileDelete) := by
  intro b b'
  have parts := part_reordered same { table }
  obtain ⟨-, selection, conditions, joins, order, limit, offset⟩ := clauses_of_parts parts
  have valid : b.isValid = b'.isValid := by
    rw [attemptAll_isValid, attemptAll_isValid, Bool.eq_iff_iff]
    simp only [Bool.and_eq_true, List.isEmpty_iff, refused_reordered same]
  refine ⟨selection, conditions, joins, order, limit, offset, valid, fun holds => ?_⟩
  -- Without a misuse the two are the same builder.
  have misuse : b.misuse = b'.misuse := by
    have holds' : b'.isValid = true := valid ▸ holds
    rw [Option.isNone_iff_eq_none.mp holds, Option.isNone_iff_eq_none.mp holds']
  have executed : b.executed = b'.executed := by
    rw [attemptAll_executed, attemptAll_executed]
  have one : b = b' := eq_of_parts parts misuse executed
  rw [one]
  exact ⟨fun _ => rfl, fun _ _ => rfl, fun _ => rfl, rfl⟩

/-- The bounds may come before the conditions, and a call that faults may stand anywhere. -/
theorem attemptAll_reordered_bounds_first :
    let cs : List ClauseCall :=
      [.matching (.text "age") (.text ">") (.int 18), .among (.text "id") (.int 5),
        .only (.text "id"), .limit (.int 3)]
    let ds : List ClauseCall :=
      [.limit (.int 3), .matching (.text "age") (.text ">") (.int 18), .only (.text "id"),
        .among (.text "id") (.int 5)]
    let b : Builder := ({ table := .text "users" } : Builder).attemptAll cs
    let b' : Builder := ({ table := .text "users" } : Builder).attemptAll ds
    Reordered cs ds ∧ b.isValid = true ∧ b.compileSelect .none = b'.compileSelect .none ∧
      b.compileDelete = b'.compileDelete := by
  intro cs ds b b'
  have same : Reordered cs ds := by
    intro g
    cases g <;> rfl
  have valid : b.isValid = true := rfl
  obtain ⟨-, -, -, -, -, -, -, compiles⟩ := attemptAll_reordered (.text "users") same
  obtain ⟨select, -, -, delete⟩ := compiles valid
  exact ⟨same, valid, select .none, delete⟩

end Builder

end TableQuery

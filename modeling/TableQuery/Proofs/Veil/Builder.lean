import TableQuery.Proofs.Except
import TableQuery.Proofs.Session.Run

/-!
# Veiled builders

A veil puts nothing in the place of every bound value and leaves all else as it is: texts, column
names, the number of values. Everything a builder does commutes with the veil, so what a builder
makes of a call says nothing of the values that the call binds. `start_veil` and `counted_veil` are
the terminal calls.
-/

namespace TableQuery

/-! ### What is bound -/

namespace Value

/-- As many values, all nothing. -/
def veil (vs : List Value) : List Value := vs.map fun _ => .none

@[simp] theorem length_veil (vs : List Value) : (veil vs).length = vs.length := by
  simp [veil]

@[simp] theorem veil_append (vs ws : List Value) : veil (vs ++ ws) = veil vs ++ veil ws := by
  simp only [veil, List.map_append]

theorem map_const_veil {α : Type} (a : α) (vs : List Value) :
    ((veil vs).map fun _ => a) = vs.map fun _ => a := by
  simp [veil]

/-- A list of values to bind with all its values veiled. A value that holds no values is kept. -/
def veilItems (v : Value) : Value :=
  match (v.orElse (.tuple [])).items? with
  | .ok vs => .tuple (veil vs)
  | .error _ => v

theorem orElse_tuple (vs : List Value) : (Value.tuple vs).orElse (.tuple []) = .tuple vs := by
  cases vs <;> rfl

theorem items?_veilItems (v : Value) :
    (v.veilItems.orElse (.tuple [])).items? = ((v.orElse (.tuple [])).items?).map veil := by
  unfold veilItems
  split
  · rename_i vs read
    rw [read, orElse_tuple]
    rfl
  · rename_i f read
    rw [read]
    rfl

def veilEntries : Value → Value
  | .map es => .map (es.map fun e => (e.1, .none))
  | v => v

@[simp] theorem truthy_veilEntries (v : Value) : v.veilEntries.truthy = v.truthy := by
  cases v <;> simp [veilEntries, truthy]

@[simp] theorem items?_veilEntries (v : Value) : v.veilEntries.items? = v.items? := by
  cases v <;> simp [veilEntries, items?]

end Value

def Clause.veil (c : Clause) : Clause := { c with values := Value.veil c.values }

theorem Clause.allValues_veil (cs : List Clause) :
    Clause.allValues (cs.map Clause.veil) = Value.veil (Clause.allValues cs) := by
  induction cs with
  | nil => rfl
  | cons c cs ih =>
    simp only [Clause.allValues, List.map_cons, List.flatMap_cons, Value.veil_append] at ih ⊢
    rw [ih]
    rfl

/-- The values of a clause are not shown in its text. -/
theorem Clause.written_veil (shown : List Value) (c : Clause) :
    c.veil.written shown = (c.written shown).map Clause.veil := by
  unfold written
  show (do return { c.veil with sql := .text (← Value.writing shown c.sql.display) }) = _
  cases Value.writing shown c.sql.display <;> rfl

def Statement.veil (s : Statement) : Statement := { s with values := Value.veil s.values }

def ClauseCall.veil : ClauseCall → ClauseCall
  | .matching field operator _ => .matching field operator .none
  | .raw sql values => .raw sql values.veilItems
  | .among field values => .among field values.veilItems
  | .like field _ => .like field .none
  | c => c

def Terminal.veil : Terminal → Terminal
  | .find _ => .find .none
  | .create data upsert => .create data.veilEntries upsert
  | .update data => .update data.veilEntries
  | t => t

namespace Builder

def veil (b : Builder) : Builder := { b with conditions := b.conditions.map Clause.veil }

@[simp] theorem veil_table (b : Builder) : b.veil.table = b.table := rfl

@[simp] theorem veil_misuse (b : Builder) : b.veil.misuse = b.misuse := rfl

@[simp] theorem veil_executed (b : Builder) : b.veil.executed = b.executed := rfl

@[simp] theorem veil_selection (b : Builder) : b.veil.selection = b.selection := rfl

@[simp] theorem veil_order (b : Builder) : b.veil.order = b.order := rfl

@[simp] theorem veil_limit (b : Builder) : b.veil.limit = b.limit := rfl

@[simp] theorem veil_offset (b : Builder) : b.veil.offset = b.offset := rfl

theorem scope_veil (b : Builder) : b.veil.scope = b.scope.veil := rfl

theorem present_veil (b : Builder) : b.veil.present = b.present := by
  funext group
  cases group <;> simp [present, veil]

end Builder

/-! ### Clause calls -/

def Verdict.veil : Verdict → Verdict
  | .accepted b => .accepted b.veil
  | v => v

theorem Verdict.veil_ofRead {α : Type} (x : Except Fault α) (accept : α → Builder) :
    (Verdict.ofRead x accept).veil = .ofRead x fun a => (accept a).veil := by
  cases x <;> rfl

theorem Verdict.veil_reject (m : Misuse) : (Verdict.reject m).veil = .reject m := by
  unfold reject
  cases m.write <;> rfl

/-- A clause that is read and added is veiled as it is read. -/
theorem Verdict.veil_addCondition (x : Except Fault Clause) (b : Builder) :
    (Verdict.ofRead x b.addCondition).veil = .ofRead (x.map Clause.veil) b.veil.addCondition := by
  cases x with
  | error f => rfl
  | ok c => simp [Verdict.ofRead, Verdict.veil, Builder.veil, Builder.addCondition]

namespace Builder

theorem veil_addCondition (b : Builder) (c : Clause) :
    (b.addCondition c).veil = b.veil.addCondition c.veil := by
  simp [veil, addCondition]

theorem membership_veil (column : Value) (vs : List Value) :
    membership column (Value.veil vs) = (membership column vs).veil := by
  simp only [membership, Clause.veil, Value.map_const_veil]

theorem judgeMatching_veil (b : Builder) (field operator value : Value) :
    b.veil.judgeMatching field operator .none = (b.judgeMatching field operator value).veil := by
  unfold judgeMatching
  split
  · rfl
  split
  · exact (Verdict.veil_reject _).symm
  cases operator.write with
  | error f => rfl
  | ok word =>
    dsimp only
    split
    · exact (Verdict.veil_reject _).symm
    · rw [Verdict.veil_addCondition, veil_table]
      cases qualify b.table field with
      | error f => rfl
      | ok column =>
        rw [ok_bind, ok_bind, ← Clause.written_veil]
        rfl

theorem judgeRaw_veil (b : Builder) (sql values : Value) :
    b.veil.judgeRaw sql values.veilItems = (b.judgeRaw sql values).veil := by
  unfold judgeRaw
  split
  · rfl
  · rw [Value.items?_veilItems, Verdict.veil_ofRead]
    cases (values.orElse (.tuple [])).items? with
    | error f => rfl
    | ok vs =>
      simp only [map_ok, Verdict.ofRead, veil_addCondition]
      rfl

theorem judgeAmong_veil (b : Builder) (field values : Value) :
    b.veil.judgeAmong field values.veilItems = (b.judgeAmong field values).veil := by
  unfold judgeAmong
  split
  · rfl
  · rw [Value.items?_veilItems, Verdict.veil_addCondition]
    cases (values.orElse (.tuple [])).items? with
    | error f => rfl
    | ok vs =>
      simp only [map_ok, ok_bind, veil_table]
      cases qualify b.table field with
      | error f => rfl
      | ok column => rw [ok_bind, ok_bind, membership_veil, Clause.written_veil]

theorem judgeJoin_veil (b : Builder) (side : JoinSide)
    (table localField remoteField operator : Value) :
    b.veil.judgeJoin side table localField remoteField operator =
      (b.judgeJoin side table localField remoteField operator).veil := by
  unfold judgeJoin
  split
  · rfl
  · rw [Verdict.veil_ofRead]
    rfl

theorem judgeOnly_veil (b : Builder) (fields : Value) :
    b.veil.judgeOnly fields = (b.judgeOnly fields).veil := by
  unfold judgeOnly
  rw [veil_selection]
  split
  · rfl
  · rcases selected? fields with f | _ | ⟨v, vs⟩ <;> rfl

theorem judgeOrderBy_veil (b : Builder) (field direction : Value) :
    b.veil.judgeOrderBy field direction = (b.judgeOrderBy field direction).veil := by
  unfold judgeOrderBy
  rw [veil_order]
  cases direction.write with
  | error f => rfl
  | ok word =>
    dsimp only
    cases Direction.ofWord? word with
    | none => exact (Verdict.veil_reject _).symm
    | some d =>
      dsimp only
      split
      · rfl
      · split
        · rfl
        · rw [Verdict.veil_ofRead]
          rfl

theorem judgeLimit_veil (b : Builder) (quantity : Value) :
    b.veil.judgeLimit quantity = (b.judgeLimit quantity).veil := by
  unfold judgeLimit
  rw [veil_limit]
  cases quantity.count? with
  | none => exact (Verdict.veil_reject _).symm
  | some n =>
    dsimp only
    split <;> rfl

theorem judgeOffset_veil (b : Builder) (quantity : Value) :
    b.veil.judgeOffset quantity = (b.judgeOffset quantity).veil := by
  unfold judgeOffset
  rw [veil_offset]
  cases quantity.count? with
  | none => exact (Verdict.veil_reject _).symm
  | some n =>
    dsimp only
    split <;> rfl

theorem judge_veil (b : Builder) (c : ClauseCall) : b.veil.judge c.veil = (b.judge c).veil := by
  cases c with
  | matching field operator value => exact b.judgeMatching_veil field operator value
  | raw sql values => exact b.judgeRaw_veil sql values
  | among field values => exact b.judgeAmong_veil field values
  | like field value => exact b.judgeMatching_veil field _ value
  | join side table localField remoteField operator =>
    exact b.judgeJoin_veil side table localField remoteField operator
  | only fields => exact b.judgeOnly_veil fields
  | orderBy field direction => exact b.judgeOrderBy_veil field direction
  | limit quantity => exact b.judgeLimit_veil quantity
  | offset quantity => exact b.judgeOffset_veil quantity

theorem record_veil (b : Builder) (m : Misuse) :
    b.veil.record m = ((b.record m).1.veil, (b.record m).2) := by
  unfold record
  rw [veil_misuse]
  split <;> rfl

theorem call_veil (b : Builder) (c : ClauseCall) :
    b.veil.call c.veil = (b.call c).map fun r => (r.1.veil, r.2) := by
  unfold call
  rw [judge_veil]
  cases b.judge c with
  | accepted b' => rfl
  | rejected m => simp only [Verdict.veil, record_veil, map_ok]
  | fault f => rfl

theorem callAll_veil (b : Builder) (cs : List ClauseCall) :
    b.veil.callAll (cs.map ClauseCall.veil) = (b.callAll cs).map fun r => (r.1.veil, r.2) := by
  induction cs generalizing b with
  | nil => rfl
  | cons c cs ih =>
    simp only [List.map_cons, callAll, call_veil]
    cases b.call c with
    | error f => rfl
    | ok r =>
      simp only [map_ok, ok_bind, ih]
      cases r.1.callAll cs <;> rfl

end Builder

end TableQuery

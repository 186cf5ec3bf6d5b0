import TableQuery.Builder.Basic

/-!
# Clause calls

A clause call is data. `Builder.judge` says what becomes of it: it is accepted and changes one
part of the builder, it is rejected as a misuse, or an argument has the wrong shape or cannot be
written. `Builder.call` records a misuse unless one is recorded already.
-/

namespace TableQuery

inductive ClauseCall where
  | matching (field operator value : Value)
  | raw (sql values : Value)
  | among (field values : Value)
  | like (field value : Value)
  | join (side : JoinSide) (table localField remoteField operator : Value)
  | only (fields : Value)
  | orderBy (field direction : Value)
  | limit (quantity : Value)
  | offset (quantity : Value)

inductive Verdict where
  | accepted (b : Builder)
  | rejected (m : Misuse)
  | fault (f : Fault)

/-- The verdict on a misuse. One whose message cannot be written is not rejected. -/
def Verdict.reject (m : Misuse) : Verdict :=
  match m.write with
  | .ok _ => .rejected m
  | .error f => .fault f

def Verdict.ofRead {α : Type} (x : Except Fault α) (accept : α → Builder) : Verdict :=
  match x with
  | .ok a => .accepted (accept a)
  | .error f => .fault f

namespace Builder

def addCondition (b : Builder) (c : Clause) : Builder :=
  { b with conditions := b.conditions ++ [c] }

def comparison (column : Value) (operator : String) (value : Value) : Clause :=
  ⟨.text (column.display ++ " " ++ operator ++ " ?"), [value]⟩

/-- The condition `column IN (?, ...)`, with one placeholder for each value. -/
def membership (column : Value) (values : List Value) : Clause :=
  ⟨.text (column.display ++ " IN (" ++ ", ".intercalate (values.map fun _ => "?") ++ ")"), values⟩

def judgeMatching (b : Builder) (field operator value : Value) : Verdict :=
  if !field.truthy then .rejected .noField
  else if !operator.truthy then .reject (.noOperator field)
  else
    match operator.write with
    | .error f => .fault f
    | .ok word =>
      if Text.strip word == "" then .reject (.noOperator field)
      else
        .ofRead (do
          let column ← qualify b.table field
          (comparison column (Text.strip word) value).written [column]) b.addCondition

def judgeRaw (b : Builder) (sql values : Value) : Verdict :=
  if !sql.truthy then .rejected .noCondition
  else .ofRead (values.orElse (.tuple [])).items? fun vs => b.addCondition ⟨sql, vs⟩

def judgeAmong (b : Builder) (field values : Value) : Verdict :=
  if !field.truthy then .rejected .noMemberField
  else
    .ofRead (do
      let vs ← (values.orElse (.tuple [])).items?
      let column ← qualify b.table field
      (membership column vs).written [column]) b.addCondition

def joinText (b : Builder) (side : JoinSide) (table localField remoteField operator : Value) :
    String :=
  side.keyword ++ " JOIN " ++ table.display ++ " ON " ++ b.table.display ++ "." ++
    localField.display ++ " " ++ (operator.orElse (.text "=")).display ++ " " ++ table.display ++
    "." ++ remoteField.display

def judgeJoin (b : Builder) (side : JoinSide) (table localField remoteField operator : Value) :
    Verdict :=
  if !table.truthy || !localField.truthy || !remoteField.truthy then
    .rejected (.incompleteJoin side)
  else
    .ofRead (Value.writing [table, b.table, localField, operator.orElse (.text "="), remoteField]
      (b.joinText side table localField remoteField operator)) fun text =>
        { b with joins := b.joins ++ [text] }

/-- The columns that a selection names: one text, or the items of a value. -/
def selected? : Value → Except Fault (List Value)
  | .text s => .ok [.text s]
  | v => v.items?

def judgeOnly (b : Builder) (fields : Value) : Verdict :=
  if b.selection.isSome then .rejected .selectionSet
  else
    match selected? fields with
    | .error f => .fault f
    | .ok [] => .rejected .emptySelection
    | .ok columns => .accepted { b with selection := some columns }

def judgeOrderBy (b : Builder) (field direction : Value) : Verdict :=
  match direction.write with
  | .error f => .fault f
  | .ok word =>
    match Direction.ofWord? word with
    | none => .reject (.badDirection direction)
    | some d =>
      if b.order.isSome then .rejected .orderSet
      else if !field.truthy then .rejected .noOrderField
      else .ofRead (qualify b.table field) fun column => { b with order := some (column, d) }

def judgeLimit (b : Builder) (quantity : Value) : Verdict :=
  match quantity.count? with
  | none => .reject (.badLimit quantity)
  | some n => if b.limit.isSome then .rejected .limitSet else .accepted { b with limit := some n }

def judgeOffset (b : Builder) (quantity : Value) : Verdict :=
  match quantity.count? with
  | none => .reject (.badOffset quantity)
  | some n =>
    if b.offset.isSome then .rejected .offsetSet else .accepted { b with offset := some n }

def judge (b : Builder) : ClauseCall → Verdict
  | .matching field operator value => b.judgeMatching field operator value
  | .raw sql values => b.judgeRaw sql values
  | .among field values => b.judgeAmong field values
  | .like field value => b.judgeMatching field (.text "LIKE") value
  | .join side table localField remoteField operator =>
    b.judgeJoin side table localField remoteField operator
  | .only fields => b.judgeOnly fields
  | .orderBy field direction => b.judgeOrderBy field direction
  | .limit quantity => b.judgeLimit quantity
  | .offset quantity => b.judgeOffset quantity

/-- Records a misuse unless one is recorded, and logs only what it records. -/
def record (b : Builder) (m : Misuse) : Builder × List Event :=
  match b.misuse with
  | some _ => (b, [])
  | none => ({ b with misuse := some m }, [.rejected b.table m])

def call (b : Builder) (c : ClauseCall) : Except Fault (Builder × List Event) :=
  match b.judge c with
  | .accepted b' => .ok (b', [])
  | .rejected m => .ok (b.record m)
  | .fault f => .error f

def callAll (b : Builder) : List ClauseCall → Except Fault (Builder × List Event)
  | [] => .ok (b, [])
  | c :: cs => do
    let (b', es) ← b.call c
    let (b'', es') ← b'.callAll cs
    return (b'', es ++ es')

end Builder

end TableQuery

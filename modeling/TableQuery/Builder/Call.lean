import TableQuery.Arguments
import TableQuery.Builder.Terminal

/-!
# Calls by name

A method of a builder is called by its name with arguments by position and by keyword. `Call.read`
gives the call that they make, and `Call.method` the name again. Three of the names stand for values
that are read without a call.
-/

namespace TableQuery

inductive Call where
  | clause (c : ClauseCall)
  | buildSelect (fields : Value)
  | buildInsert (data upsert : Value)
  | buildUpdate (data : Value)
  | buildDelete
  | terminal (t : Terminal)
  | scope
  | table
  | isValid
  | error

namespace Arguments

def bind0 (a : Arguments) (c : Call) : Except Fault Call := do
  match ← a.bindTo [] with
  | [] => .ok c
  | _ => .error (.shape .wrongType)

def bind1 (a : Arguments) (p : Parameter) (f : Value → Call) : Except Fault Call := do
  match ← a.bindTo [p] with
  | [x] => .ok (f x)
  | _ => .error (.shape .wrongType)

def bind2 (a : Arguments) (p q : Parameter) (f : Value → Value → Call) : Except Fault Call := do
  match ← a.bindTo [p, q] with
  | [x, y] => .ok (f x y)
  | _ => .error (.shape .wrongType)

def bind3 (a : Arguments) (p q r : Parameter) (f : Value → Value → Value → Call) :
    Except Fault Call := do
  match ← a.bindTo [p, q, r] with
  | [x, y, z] => .ok (f x y z)
  | _ => .error (.shape .wrongType)

def bindJoin (a : Arguments) (side : JoinSide) : Except Fault Call := do
  match ← a.bindTo [required "table", required "local_field", required "remote_field",
      optional "comparator" (.text "=")] with
  | [t, l, r, o] => .ok (.clause (.join side t l r o))
  | _ => .error (.shape .wrongType)

end Arguments

def Call.read (method : String) (a : Arguments) : Except Fault Call :=
  match method with
  | "where" =>
    a.bind3 (required "field") (required "comparator") (required "value") fun f o v =>
      .clause (.matching f o v)
  | "where_raw" =>
    a.bind2 (required "sql") (optional "parameters" .none) fun s vs => .clause (.raw s vs)
  | "where_in" => a.bind2 (required "field") (required "values") fun f vs => .clause (.among f vs)
  | "like" => a.bind2 (required "field") (required "value") fun f v => .clause (.like f v)
  | "left_join" => a.bindJoin .left
  | "right_join" => a.bindJoin .right
  | "inner_join" => a.bindJoin .inner
  | "only" => a.bind1 (required "fields") fun f => .clause (.only f)
  | "order_by" =>
    a.bind2 (required "field") (optional "direction" (.text "ASC")) fun f d =>
      .clause (.orderBy f d)
  | "limit" => a.bind1 (required "quantity") fun n => .clause (.limit n)
  | "offset" => a.bind1 (required "quantity") fun n => .clause (.offset n)
  | "build_select" => a.bind1 (optional "fields" .none) .buildSelect
  | "build_insert" =>
    a.bind2 (required "data") (optional "with_update" (.bool false)) .buildInsert
  | "build_update" => a.bind1 (required "data") .buildUpdate
  | "build_delete" => a.bind0 .buildDelete
  | "get" => a.bind0 (.terminal .get)
  | "get_first" => a.bind0 (.terminal .getFirst)
  | "find" => a.bind1 (required "id") fun v => .terminal (.find v)
  | "get_count" => a.bind0 (.terminal .getCount)
  | "create" =>
    a.bind2 (required "data") (optional "with_update" (.bool false)) fun d u =>
      .terminal (.create d u)
  | "update" => a.bind1 (required "data") fun d => .terminal (.update d)
  | "delete" => a.bind0 (.terminal .delete)
  | "get_paginated" =>
    a.bind2 (required "page_size") (optional "page" (.int 1)) fun s n =>
      .terminal (.getPaginated s n)
  | "clone_scope" => a.bind0 .scope
  | "table" => .ok .table
  | "is_valid" => .ok .isValid
  | "error" => .ok .error
  | _ => .error (.shape .noSuchMember)

def JoinSide.method : JoinSide → String
  | .left => "left_join"
  | .right => "right_join"
  | .inner => "inner_join"

def ClauseCall.method : ClauseCall → String
  | .matching .. => "where"
  | .raw .. => "where_raw"
  | .among .. => "where_in"
  | .like .. => "like"
  | .join side .. => side.method
  | .only _ => "only"
  | .orderBy .. => "order_by"
  | .limit _ => "limit"
  | .offset _ => "offset"

def Terminal.method : Terminal → String
  | .get => "get"
  | .getFirst => "get_first"
  | .find _ => "find"
  | .getCount => "get_count"
  | .create .. => "create"
  | .update _ => "update"
  | .delete => "delete"
  | .getPaginated .. => "get_paginated"

def Call.method : Call → String
  | .clause c => c.method
  | .buildSelect _ => "build_select"
  | .buildInsert .. => "build_insert"
  | .buildUpdate _ => "build_update"
  | .buildDelete => "build_delete"
  | .terminal t => t.method
  | .scope => "clone_scope"
  | .table => "table"
  | .isValid => "is_valid"
  | .error => "error"

/-- Tests whether a name stands for a value, so that there is nothing to be called. -/
def Call.isValue : Call → Bool
  | .table => true
  | .isValid => true
  | .error => true
  | _ => false

end TableQuery

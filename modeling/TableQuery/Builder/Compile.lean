import TableQuery.Builder.Basic

/-!
# Compiling statements

A builder compiles into a statement of each kind, unless a misuse is recorded, the kind refuses
a clause that the builder holds, or something cannot be written. The values come out in the order of
their placeholders.
-/

namespace TableQuery.Builder

/-- A recorded misuse goes before a clause that the kind refuses. -/
def check (b : Builder) (kind : Kind) : Except Fault Unit :=
  match b.misuse with
  | some m => .error (.misuse m)
  | none =>
    match kind.forbidden.find? b.present with
    | some group => .error (.misuse (.forbidden group kind))
    | none => .ok ()

/-- The parts of a statement that are there, with single spaces between them. -/
def assemble (parts : List String) : String := " ".intercalate (parts.filter (· != ""))

/-- All conditions, each after its own `AND`. -/
def whereText (b : Builder) : String :=
  " ".intercalate ("WHERE 1" :: b.conditions.map fun c => "AND " ++ c.sql.display)

def orderText (b : Builder) : String :=
  match b.order with
  | some (column, direction) => "ORDER BY " ++ column.display ++ " " ++ direction.keyword
  | none => ""

/-- What a statement begins with, and the table. -/
def writeHead (b : Builder) (words : String) : Except Fault String :=
  Value.writing [b.table] (words ++ b.table.display)

def writeWhere (b : Builder) : Except Fault String :=
  Value.writing (b.conditions.map Clause.sql) b.whereText

def writeOrder (b : Builder) : Except Fault String :=
  Value.writing (b.order.map Prod.fst).toList b.orderText

/-- A bound after its keyword. -/
def boundText (keyword : String) : Option Nat → Except Fault String
  | none => .ok ""
  | some n => Value.writing [.int n] (keyword ++ " " ++ Text.decimal n)

/-- The columns to select: those asked for, else the selection, else all. -/
def columns (b : Builder) (fields : Value) : Except Fault (List Value) :=
  if fields.truthy then fields.items? else .ok (b.selection.getD [.text "*"])

def compileSelect (b : Builder) (fields : Value) : Except Fault Statement := do
  b.check .select
  let order ← b.writeOrder
  let bounds := [← boundText "LIMIT" b.limit, ← boundText "OFFSET" b.offset]
  let names ← (← b.columns fields).mapM Value.text?
  let head ← b.writeHead ("SELECT " ++ ", ".intercalate names ++ " FROM ")
  let filter ← b.writeWhere
  return {
    sql := assemble (head :: b.joins ++ [filter, order] ++ bounds)
    values := Clause.allValues b.conditions
    kind := .select }

def requireData (data : Value) (kind : Kind) : Except Fault Unit :=
  if data.truthy then .ok () else .error (.misuse (.noData kind))

/-- The text `column=?, ...` for the keys of a map, with its values. -/
def assignments (data : Value) (name : Value → Except Fault Value) : Except Fault Clause := do
  let names ← (← data.items?).mapM name
  let text ← Value.writing names (", ".intercalate (names.map fun c => c.display ++ "=?"))
  match data with
  | .map es => return ⟨.text text, es.map (·.2)⟩
  | _ => .error (.shape .noSuchMember)

/-- The `INSERT` statement, which overwrites the same columns of a row that is there if `upsert`
is given. -/
def compileInsert (b : Builder) (data upsert : Value) : Except Fault Statement := do
  b.check .insert
  requireData data .insert
  let set ← assignments data .ok
  let head ← b.writeHead "INSERT INTO "
  let sql := head ++ " SET " ++ set.sql.display
  if upsert.truthy then
    return {
      sql := sql ++ " ON DUPLICATE KEY UPDATE " ++ set.sql.display
      values := Clause.allValues [set, set]
      kind := .insert }
  else
    return { sql, values := Clause.allValues [set], kind := .insert }

def compileUpdate (b : Builder) (data : Value) : Except Fault Statement := do
  b.check .update
  requireData data .update
  let set ← assignments data (qualify b.table)
  let head ← b.writeHead "UPDATE "
  let filter ← b.writeWhere
  return {
    sql := assemble (head :: b.joins ++ ["SET " ++ set.sql.display, filter])
    values := Clause.allValues (set :: b.conditions)
    kind := .update }

def compileDelete (b : Builder) : Except Fault Statement := do
  b.check .delete
  let head ← b.writeHead "DELETE FROM "
  let filter ← b.writeWhere
  return {
    sql := assemble (head :: b.joins ++ [filter])
    values := Clause.allValues b.conditions
    kind := .delete }

end TableQuery.Builder

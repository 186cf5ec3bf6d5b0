import TableQuery.Statement.Kind
import TableQuery.Value.Access
import TableQuery.Value.Writing

/-!
# Statements and their parts

A clause is a piece of text with the values of its placeholders, and a statement is a whole text
with all values in the order of their placeholders. A bare column name is qualified with the table
of its builder.
-/

namespace TableQuery

/-- A piece of a statement with the values bound to its placeholders. -/
structure Clause where
  sql : Value
  values : List Value := []

/-- A clause whose text shows some values. -/
def Clause.written (shown : List Value) (c : Clause) : Except Fault Clause := do
  return { c with sql := .text (← Value.writing shown c.sql.display) }

structure Statement where
  sql : String
  values : List Value := []
  kind : Kind := .select

def Clause.allValues (cs : List Clause) : List Value := cs.flatMap Clause.values

def Statement.same (s t : Statement) : Bool :=
  s.sql == t.sql && Value.sameItems s.values t.values && s.kind == t.kind

/-- A column name with its table in front, unless the name holds a point. -/
def qualify (table column : Value) : Except Fault Value := do
  if ← column.hasPoint? then return column
  else return .text (← Value.writing [table, column] (table.display ++ "." ++ column.display))

theorem Clause.allValues_append (cs ds : List Clause) :
    Clause.allValues (cs ++ ds) = Clause.allValues cs ++ Clause.allValues ds := by
  simp [Clause.allValues]

end TableQuery

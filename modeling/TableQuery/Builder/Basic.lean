import TableQuery.Statement.Basic
import TableQuery.Event
import TableQuery.Text.UpperCase

/-!
# Builders

A builder collects the clauses of one statement on one table. Conditions and joins add up, the
other clauses are set once. The first misuse is recorded and kept. `scope` copies what says which
rows are meant, and nothing of their order or bounds.
-/

namespace TableQuery

inductive Direction where
  | asc
  | desc
  deriving DecidableEq

def Direction.keyword : Direction → String
  | .asc => "ASC"
  | .desc => "DESC"

def Direction.ofWord? (s : String) : Option Direction :=
  if Text.upper s == "ASC" then some .asc else if Text.upper s == "DESC" then some .desc else none

/-- The clauses collected for a table, the first misuse, and whether a statement was sent. -/
structure Builder where
  table : Value
  selection : Option (List Value) := none
  conditions : List Clause := []
  joins : List String := []
  order : Option (Value × Direction) := none
  limit : Option Nat := none
  offset : Option Nat := none
  misuse : Option Misuse := none
  executed : Bool := false

namespace Builder

def on? (table : Value) : Except Misuse Builder :=
  if table.truthy then .ok { table } else .error .noTable

def isValid (b : Builder) : Bool := b.misuse.isNone

/-- A fresh builder with the selection, conditions, joins and misuse of this one. -/
def scope (b : Builder) : Builder :=
  { table := b.table, selection := b.selection, conditions := b.conditions, joins := b.joins,
    misuse := b.misuse }

def display (b : Builder) : Except Fault String :=
  Value.writing [b.table]
    ("Query(table=" ++ b.table.literal ++ ", valid=" ++ (Value.bool b.isValid).literal ++ ")")

def present (b : Builder) : ClauseGroup → Bool
  | .only => b.selection.isSome
  | .orderBy => b.order.isSome
  | .limit => b.limit.isSome
  | .offset => b.offset.isSome
  | .condition => !b.conditions.isEmpty
  | .join => !b.joins.isEmpty

end Builder

end TableQuery

import TableQuery.Connection.Machine
import TableQuery.Placeholder

/-!
# Requests to a connection

A caller asks to run a statement, for the connection, or to close it. A statement and its values
are checked before anything else happens, so what a cursor is given always lines up.
-/

namespace TableQuery

inductive Request where
  | execute (sql : String) (values : Value)
  | connection
  | close

namespace Request

/-- The job that a request makes, or what is wrong with it. A statement goes to the cursor in
percent form, with its values in a row. -/
def job : Request → Except Fault Job
  | .execute sql values => do
    let values ← values.items?
    let _ ← Placeholder.align sql (.tuple values)
    return .need (.statement (← Placeholder.toPercent sql) values)
  | .connection => .ok (.need .connection)
  | .close => .ok .close

end Request

/-- Takes a request. One that is not in order changes nothing. -/
def Machine.take (m : Machine) (r : Request) : Except Fault Moved := r.job.map m.submit

end TableQuery

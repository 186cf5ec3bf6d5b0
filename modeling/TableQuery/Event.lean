import TableQuery.Fault

/-!
# Log events

What the library tells the log. `Event.line` gives the level, the logger and the words of each.
-/

namespace TableQuery

inductive Event where
  | rejected (table : Value) (misuse : Misuse)
  | executing (kind : Kind) (table : Value) (values : Nat)
  | opened (host port database : Value)
  | closed (host : Value)
  | unreadableInteger (key text : String) (default : Int)

structure LogLine where
  level : String
  logger : String
  message : String
  deriving DecidableEq

def builderLogger : String := "mysqlb.builder._query"

def connectionLogger : String := "mysqlb.adapters.asyncmy.driver"

def optionsLogger : String := "mysqlb.config"

def Event.line : Event → LogLine
  | .rejected table misuse =>
    ⟨"DEBUG", builderLogger,
      "Query on " ++ table.display ++ " rejected clause: " ++ misuse.message⟩
  | .executing kind table values =>
    ⟨"DEBUG", builderLogger,
      "Executing " ++ kind.keyword ++ " on " ++ table.display ++ " with " ++ Text.decimal values ++
        " parameter(s)"⟩
  | .opened host port database =>
    ⟨"DEBUG", connectionLogger,
      "Opened connection to " ++ host.display ++ ":" ++ port.display ++ "/" ++ database.display⟩
  | .closed host => ⟨"DEBUG", connectionLogger, "Closed connection to " ++ host.display⟩
  | .unreadableInteger key text default =>
    ⟨"WARNING", optionsLogger,
      "Invalid integer value for " ++ key ++ ": " ++ text ++ ", using default " ++
        Text.integer default⟩

end TableQuery

import TableQuery.Log.Level
import TableQuery.Log.Template

/-!
# Log records

A record says what happened, where and when. `Record.message` fills its template in with its
arguments.
-/

namespace TableQuery

def rootLogger : String := "mysqlb"

/-- The full name of a logger: a name that is not yet below the root goes there, and no name is the
root itself. -/
def loggerName : Option String → String
  | none => rootLogger
  | some s =>
    if s == rootLogger || (rootLogger ++ ".").toList.isPrefixOf s.toList then s
    else rootLogger ++ "." ++ s

/-- A log record. Its time is in seconds since the start of 1970, with milliseconds beside them. Its
error may be given and yet be none. -/
structure Record where
  logger : String
  level : Level
  path : String
  line : Value
  template : Value
  arguments : List Value
  function : Value
  seconds : Value
  milliseconds : Value
  extra : Option Value := none
  error : Option (Option Raised) := none

namespace Record

def message (r : Record) : Except Fault (List Text.CodePoint) := do
  let template ← r.template.write
  match r.arguments with
  | [] => return Text.codePointsOf template
  | vs => Template.format template (Template.Supply.ofArguments vs)

def fileName (path : List Char) : List Char := (path.reverse.takeWhile (· != '/')).reverse

def stem (name : List Char) : List Char :=
  let points := name.takeWhile (· == '.')
  let rest := name.dropWhile (· == '.')
  match rest.reverse.dropWhile (· != '.') with
  | [] => name
  | _ :: before => points ++ before.reverse

def moduleName (r : Record) : String := String.ofList (stem (fileName r.path.toList))

end Record

def Raised.kind : Raised → String
  | .library cls _ => "mysqlb.exceptions." ++ cls.name
  | .key _ => "KeyError"
  | .other kind _ => kind

def Raised.trace : Option Raised → String
  | none => "NoneType: None"
  | some r => if r.message == "" then r.kind else r.kind ++ ": " ++ r.message

end TableQuery

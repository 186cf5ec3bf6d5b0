import TableQuery.Fault
import TableQuery.Text.UpperCase

/-!
# Log levels

A level is a number, and the greater the more severe. Six numbers have names of their own, and two
levels have a second name under which they can be asked for.
-/

namespace TableQuery

abbrev Level := Int

namespace Level

def unset : Level := 0

def debug : Level := 10

def info : Level := 20

def warning : Level := 30

def error : Level := 40

def critical : Level := 50

def named : List (Level × String) :=
  [(unset, "NOTSET"), (debug, "DEBUG"), (info, "INFO"), (warning, "WARNING"), (error, "ERROR"),
    (critical, "CRITICAL")]

def name (l : Level) : String :=
  match named.find? (·.1 == l) with
  | some (_, s) => s
  | none => "Level " ++ Text.integer l

def aliases : List (Level × String) := [(warning, "WARN"), (critical, "FATAL")]

/-- The layout that goes by a name among those of levels, but is none. -/
def basicLayout : String := "%(levelname)s:%(name)s:%(message)s"

/-- The level that a name asks for, in any case. Two names stand for something that is no level. -/
def ofName? (s : Value) : Except Fault Level :=
  match s with
  | .text s =>
    match (named ++ aliases).find? (·.2 == Text.upper s) with
    | some (l, _) => .ok l
    | none =>
      if Text.upper s == "BASIC_FORMAT" then .error (.notLevel basicLayout)
      else if Text.upper s == "_STYLES" then .error (.shape .wrongType)
      else .error (.shape .noSuchMember)
  | .bytes _ => .error (.shape .wrongType)
  | _ => .error (.shape .noSuchMember)

end Level

end TableQuery

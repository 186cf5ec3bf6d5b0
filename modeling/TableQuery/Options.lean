import TableQuery.Event
import TableQuery.Value.Access

/-!
# Connection options

Options are named values, five of which have to be given. `Options.check` refuses options that lack
one and lets every statement take effect at once unless the options say otherwise.
`Options.ofEnvironment` reads the five from variables.
-/

namespace TableQuery

abbrev Options := List (Value × Value)

namespace Options

def requiredNames : List String := ["host", "port", "user", "password", "database"]

def get? (o : Options) (name : String) : Option Value := Value.lookup? (.text name) o

def given (o : Options) (name : String) : Bool := ((o.get? name).map Value.truthy).getD false

def get (o : Options) (name : String) : Value := (o.get? name).getD .none

/-- Options over a first entry that says that statements take effect at once. -/
def withAutocommit (o : Options) : Options :=
  Value.insertAll [(.text "autocommit", .bool true)] o

/-- Refuses options of which a required one is missing, and completes all others. -/
def check (o : Options) : Except Fault Options :=
  match requiredNames.find? fun name => !o.given name with
  | some name => .error (.missingOption name)
  | none => .ok o.withAutocommit

def ofValue? : Value → Except Fault Options
  | .map es => .ok es
  | _ => .error (.shape .noSuchMember)

def namesAreTexts (o : Options) : Bool := o.all fun e => e.1.text?.toBool

/-! ### Environment -/

abbrev Environment := List (String × String)

/-- Tests whether a variable can be set. Neither part of it holds a NUL, and its name is not empty
and holds no equality sign. -/
def checkVariable (v : String × String) : Except Fault Unit :=
  if v.1.toList.contains '\x00' || v.2.toList.contains '\x00' then .error (.environment .nul)
  else if v.1.toList.contains '=' then .error (.environment .equalitySign)
  else if v.1 == "" then .error (.environment .unnamed)
  else .ok ()

def environment? (vs : List (String × String)) : Except Fault Environment := do
  vs.forM checkVariable
  return vs

def textVariable (env : Environment) (name default : String) : String :=
  ((env.find? (·.1 == name)).map (·.2)).getD default

/-- The integer in a variable. A variable that is not set, or that holds no integer, gives the
default; the latter is logged. -/
def integerVariable (env : Environment) (name : String) (default : Int) : Int × List Event :=
  match env.find? (·.1 == name) with
  | none => (default, [])
  | some (_, text) =>
    match Text.readDecimal text.toList with
    | .ok i => (i, [])
    | .error _ => (default, [.unreadableInteger name text default])

def defaultStem : String := "DB_"

/-- The required options from the variables whose names begin with a stem, with the values of a
development server where a variable is not set. -/
def ofEnvironment (env : Environment) (stem : String) : Options × List Event :=
  let text (name default : String) : Value := .text (textVariable env (stem ++ name) default)
  let (port, events) := integerVariable env (stem ++ "PORT") 3306
  ([(.text "host", text "HOST" "localhost"),
    (.text "port", .int port),
    (.text "user", text "USER" "root"),
    (.text "password", text "PASSWORD" "root"),
    (.text "database", text "DATABASE" "mysqlb")], events)

end Options

end TableQuery

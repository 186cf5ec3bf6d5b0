import TableQuery.Value.Access

/-!
# Arguments

A method is called with arguments by position and by keyword. `Arguments.bindTo` matches them with
the parameters of the method.
-/

namespace TableQuery

structure Parameter where
  name : String
  default : Option Value := none

structure Arguments where
  positional : List Value := []
  keyword : List (String × Value) := []

def required (name : String) : Parameter := ⟨name, none⟩

def optional (name : String) (default : Value) : Parameter := ⟨name, some default⟩

/-- Matches arguments with parameters: in order by position, then by keyword, then by default.
Every argument has to find a parameter, and every parameter a value. -/
def bind : List Parameter → List Value → List (String × Value) → Except Fault (List Value)
  | [], [], [] => .ok []
  | [], _, _ => .error (.shape .wrongType)
  | p :: ps, v :: vs, kw =>
    if kw.any (·.1 == p.name) then .error (.shape .wrongType)
    else (bind ps vs kw).map (v :: ·)
  | p :: ps, [], kw =>
    match kw.find? (·.1 == p.name) with
    | some (_, v) => (bind ps [] (kw.filter (·.1 != p.name))).map (v :: ·)
    | none =>
      match p.default with
      | some v => (bind ps [] kw).map (v :: ·)
      | none => .error (.shape .wrongType)

def Arguments.bindTo (a : Arguments) (ps : List Parameter) : Except Fault (List Value) :=
  bind ps a.positional a.keyword

end TableQuery

import TableQuery.Fault

/-!
# Writing values

A value is written into the text of a statement or of a message if all its integers can be written.
`Value.writing` is that text, or the fault, and every text with values in it is made by it.
-/

namespace TableQuery

/-- A text into which values are written. -/
def Value.writing (vs : List Value) (text : String) : Except Fault String :=
  if vs.all Value.isWritable then .ok text else .error (.number .unwritable)

/-- The text of a value alone. -/
def Value.write (v : Value) : Except Fault String := Value.writing [v] v.display

/-- The values that the message of a misuse shows. -/
def Misuse.shown : Misuse → List Value
  | .noOperator field => [field]
  | .badDirection direction => [direction]
  | .badLimit quantity => [quantity]
  | .badOffset quantity => [quantity]
  | .badPage number => [number]
  | _ => []

def Misuse.write (m : Misuse) : Except Fault String := Value.writing m.shown m.message

/-- What a misuse ends in: itself, unless its message cannot be written. -/
def Misuse.fault (m : Misuse) : Fault :=
  match m.write with
  | .ok _ => .misuse m
  | .error f => f

end TableQuery

import TableQuery.Value.Basic
import TableQuery.Number.Shortest
import TableQuery.Text.Quoted

/-!
# The text of a value

`literal` writes a value as a literal, texts quoted. `display` leaves a text as it is and writes
anything else as its literal. Both are the text of a value that `isWritable`: one whose integers all
have few enough digits.
-/

namespace TableQuery.Value

def tupleText : List String → String
  | [x] => "(" ++ x ++ ",)"
  | xs => "(" ++ ", ".intercalate xs ++ ")"

mutual

def literal : Value → String
  | .none => "None"
  | .bool true => "True"
  | .bool false => "False"
  | .int i => Text.integer i
  | .real x => x.literal
  | .text s => Text.quote s
  | .bytes bs => Text.quoteBytes bs
  | .list xs => "[" ++ ", ".intercalate (literals xs) ++ "]"
  | .tuple xs => tupleText (literals xs)
  | .map es => "\x7b" ++ ", ".intercalate (entryLiterals es) ++ "\x7d"
  | .outcome a i _ =>
    "ExecutionResult(rows_affected=" ++ literal a ++ ", last_inserted_id=" ++ literal i ++ ")"

def literals : List Value → List String
  | [] => []
  | x :: xs => literal x :: literals xs

def entryLiterals : List (Value × Value) → List String
  | [] => []
  | (k, v) :: es => (literal k ++ ": " ++ literal v) :: entryLiterals es

end

def display : Value → String
  | .text s => s
  | v => v.literal

theorem display_text (s : String) : (Value.text s).display = s := rfl

mutual

/-- Tests whether the integers in a value can be written. An outcome does not show its metadata. -/
def isWritable : Value → Bool
  | .int i => Text.isWritable i
  | .list xs => areWritable xs
  | .tuple xs => areWritable xs
  | .map es => areEntriesWritable es
  | .outcome a i _ => isWritable a && isWritable i
  | _ => true

def areWritable : List Value → Bool
  | [] => true
  | x :: xs => isWritable x && areWritable xs

def areEntriesWritable : List (Value × Value) → Bool
  | [] => true
  | (k, v) :: es => isWritable k && isWritable v && areEntriesWritable es

end

theorem isWritable_text (s : String) : (Value.text s).isWritable = true := rfl

end TableQuery.Value

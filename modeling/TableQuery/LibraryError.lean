import TableQuery.Arguments
import TableQuery.Value.Writing

/-!
# The library's own errors

An error holds a detail and the texts given before it. It is built from arguments according to its
class, and `LibraryError.message` shows its parts, the detail last, without blanks around them.
-/

namespace TableQuery

/-- An error: its class, the texts beside the detail, the detail, and the statement that a
parameter error is about. -/
structure LibraryError where
  cls : ErrorClass
  texts : List String
  detail : Value
  sql : Value := .none

def builderTrouble : String := "Issues building SQL statement."

namespace LibraryError

/-- An error over the arguments that are given. Without a detail the first of them becomes the
detail. -/
def ofParts (cls : ErrorClass) (parts : List Value) (detail : Value) :
    Except Fault LibraryError := do
  let texts ← (parts.filter Value.truthy).mapM Value.write
  if detail.truthy then return { cls, texts, detail }
  else
    match texts with
    | [] => return { cls, texts := [], detail }
    | t :: texts => return { cls, texts, detail := .text t }

def ofStatement (message sql : Value) : Except Fault LibraryError := do
  let detail ← if sql.truthy then
      .text <$> Value.writing [message, sql] (message.display ++ "\nSQL: " ++ sql.display)
    else pure message
  return { ← ofParts .parameter [] detail with sql }

def build (cls : ErrorClass) (a : Arguments) : Except Fault LibraryError :=
  match cls with
  | .builder => do
    match ← a.bindTo [optional "message" .none] with
    | [.none] => ofParts cls [.text builderTrouble] (.text "")
    | parts => ofParts cls parts (.text "")
  | .parameter => do
    match ← a.bindTo [required "message", optional "sql" .none] with
    | [message, sql] => ofStatement message sql
    | _ => .error (.shape .wrongType)
  | _ => do
    let named ← Arguments.bindTo { keyword := a.keyword } [optional "detail" (.text "")]
    ofParts cls a.positional (named.headD (.text ""))

def message (e : LibraryError) : Except Fault String := do
  let detail ← e.detail.text?
  return Text.strip (" ".intercalate (e.texts ++ [detail]))

def literal (e : LibraryError) : Except Fault String :=
  if e.detail.truthy then Value.writing [e.detail] (e.cls.name ++ " - " ++ e.detail.display)
  else .ok e.cls.name

end LibraryError

end TableQuery

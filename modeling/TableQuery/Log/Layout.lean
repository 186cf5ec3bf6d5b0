import TableQuery.Log.DateTemplate
import TableQuery.Log.Json
import TableQuery.Log.Record
import TableQuery.Value.Entries

/-!
# Log layouts

A layout makes one text of a record: a JSON object, a line of plain text, or nothing but the
message. The plain layouts put an error on a line below.
-/

namespace TableQuery

inductive Layout where
  | structured (dateTemplate : String)
  | plain
  | bare

namespace Record

def timestamp (r : Record) (dateTemplate : String) : Except Fault (List Text.CodePoint) := do
  let m ← Moment.ofValue? r.seconds
  if dateTemplate != "" then
    return Text.codePointsOf (← (DateTemplate.write? dateTemplate m).mapError .time)
  else
    let time := DateTemplate.write "%Y-%m-%d %H:%M:%S" m
    Template.format "%s,%03d" (.row [.text time, r.milliseconds])

inductive Part where
  | words (ps : List Text.CodePoint)
  | value (v : Value)

def Part.json : Part → Except Fault String
  | .words ps => Text.jsonQuotePoints ps
  | .value v => v.json

def Part.entry (e : Value × Part) : Except Fault String := do
  return (← e.1.jsonKey) ++ ":" ++ (← e.2.json)

/-- What a structured layout says of a record, before what the record adds. -/
def parts (r : Record) (dateTemplate : String) : Except Fault (List (Value × Part)) := do
  let time ← r.timestamp dateTemplate
  let message ← r.message
  return [
    (.text "timestamp", .words time),
    (.text "level", .value (.text r.level.name)),
    (.text "logger", .value (.text r.logger)),
    (.text "message", .words message),
    (.text "module", .value (.text r.moduleName)),
    (.text "function", .value r.function),
    (.text "line", .value r.line)]

/-- The parts of a record with what it adds, which comes after them or in their place. -/
def withExtra (r : Record) (ps : List (Value × Part)) : Except Fault (List (Value × Part)) := do
  match r.extra with
  | none => return ps
  | some extra => return Value.insertAll ps ((← extra.entries?).map fun e => (e.1, .value e.2))

def structured (r : Record) (dateTemplate : String) : Except Fault String := do
  let ps ← r.withExtra (← r.parts dateTemplate)
  let ps := match r.error with
    | some e => Value.insert (.text "exception") (Part.value (.text (Raised.trace e))) ps
    | none => ps
  return "\x7b" ++ ",".intercalate (← ps.mapM Part.entry) ++ "\x7d"

def withError (r : Record) (text : List Text.CodePoint) : List Text.CodePoint :=
  match r.error with
  | none => text
  | some e =>
    if text.getLast? == some (.char '\n') then text ++ Text.codePointsOf (Raised.trace e)
    else text ++ .char '\n' :: Text.codePointsOf (Raised.trace e)

end Record

def Layout.write : Layout → Record → Except Fault (List Text.CodePoint)
  | .structured dateTemplate, r => (r.structured dateTemplate).map Text.codePointsOf
  | .plain, r => do
    let message ← r.message
    let head := " - " ++ r.logger ++ " - " ++ r.level.name ++ " - "
    return r.withError ((← r.timestamp "") ++ Text.codePointsOf head ++ message)
  | .bare, r => r.message.map r.withError

end TableQuery

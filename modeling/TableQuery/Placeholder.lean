import TableQuery.Sql.Scan
import TableQuery.Value.Access

/-!
# Placeholders

A placeholder is a question mark outside texts, names, comments and the text of commands. `places`
gives where a tokenizer finds them, `align` compares their number with the values to bind, and
`toPercent` writes a statement with the placeholders of percent formatting. `format` is that
formatting, which gives each `%s` the next text and each `%%` a percent sign.
-/

namespace TableQuery.Placeholder
open Sql (Tokenizer)

/-- The part of a statement around a place, without its last character. -/
def context (sql : List Char) (place : Nat) : String :=
  String.ofList ((sql.take (min (place + 50) (sql.length - 1))).drop (place - 50))

def ofTokens (ts : List Sql.Token) : List Nat :=
  ts.filterMap fun t => if t.kind == .placeholder then some t.start else none

def places (sql : String) (tokenize : Tokenizer := Sql.tokens) : Except Fault (List Nat) :=
  match tokenize sql.toList with
  | .ok ts => .ok (ofTokens ts)
  | .error place => .error (.placeholders (.unreadable (context sql.toList place)) sql)

def span (place : Nat) : Nat × Nat := (place, place + 1)

def spans (sql : String) (tokenize : Tokenizer := Sql.tokens) :
    Except Fault (List (Nat × Nat)) :=
  (places sql tokenize).map (·.map span)

def align (sql : String) (values : Value) (tokenize : Tokenizer := Sql.tokens) :
    Except Fault Nat := do
  let expected := (← spans sql tokenize).length
  let given ← values.size?
  if expected = given then return expected
  else .error (.placeholders (.miscounted expected given) sql)

def doublePercent (cs : List Char) : List Char :=
  cs.flatMap fun c => if c == '%' then ['%', '%'] else [c]

def pieces (pos : Nat) (cs : List Char) : List Nat → List (List Char)
  | [] => [cs]
  | p :: ps => cs.take (p - pos) :: pieces (p + 1) (cs.drop (p + 1 - pos)) ps

/-- A statement with `%s` for each placeholder and every other percent sign doubled. -/
def toPercent (sql : String) (tokenize : Tokenizer := Sql.tokens) : Except Fault String := do
  let ps ← places sql tokenize
  return String.ofList (['%', 's'].intercalate ((pieces 0 sql.toList ps).map doublePercent))

/-- Percent formatting with texts: `%%` gives a percent sign, `%s` the next text. Any other use of
a percent sign, a text that is missing and one that is left over are failures. -/
def format : List Char → List (List Char) → Option (List Char)
  | [], [] => some []
  | [], _ :: _ => none
  | c :: rest, texts =>
    if c == '%' then
      match rest, texts with
      | d :: rest, texts =>
        if d == '%' then (format rest texts).map ('%' :: ·)
        else if d == 's' then
          match texts with
          | t :: texts => (format rest texts).map (t ++ ·)
          | [] => none
        else none
      | [], _ => none
    else (format rest texts).map (c :: ·)

end TableQuery.Placeholder

import TableQuery.Number.Shortest
import TableQuery.Text.CodePoint
import TableQuery.Value.Access

/-!
# Values as JSON

`Value.json` writes a value as JSON without blanks. Bytes are written in base 64, a number that is
not finite as null but by its name in a key, and entries in their order, a repeated key as often
as it comes. A value or key that JSON has no form for is a fault, and so is a surrogate in a text.
-/

namespace TableQuery

namespace Text

def base64Digits : List Char :=
  "ABCDEFGHIJKLMNOPQRSTUVWXYZabcdefghijklmnopqrstuvwxyz0123456789+/".toList

def base64Digit (n : Nat) : Char := base64Digits.getD (n % 64) 'A'

/-- Bytes in base 64: four digits for three bytes, and equality signs in place of missing digits. -/
def base64 : List UInt8 → List Char
  | a :: b :: c :: rest =>
    let n := a.toNat * 65536 + b.toNat * 256 + c.toNat
    base64Digit (n / 262144) :: base64Digit (n / 4096) :: base64Digit (n / 64) :: base64Digit n ::
      base64 rest
  | [a, b] =>
    let n := a.toNat * 65536 + b.toNat * 256
    [base64Digit (n / 262144), base64Digit (n / 4096), base64Digit (n / 64), '=']
  | [a] =>
    let n := a.toNat * 65536
    [base64Digit (n / 262144), base64Digit (n / 4096), '=', '=']
  | [] => []

def jsonEscape (c : Char) : List Char :=
  if c == doubleQuote || c == backslash then [backslash, c]
  else if c == '\n' then [backslash, 'n']
  else if c == '\r' then [backslash, 'r']
  else if c == '\t' then [backslash, 't']
  else if c.toNat == 8 then [backslash, 'b']
  else if c.toNat == 12 then [backslash, 'f']
  else if c.toNat < 32 then backslash :: 'u' :: hexDigits 4 c.toNat
  else [c]

def jsonQuoteChars (cs : List Char) : String :=
  String.ofList (doubleQuote :: cs.flatMap jsonEscape ++ [doubleQuote])

def jsonQuote (s : String) : String := jsonQuoteChars s.toList

def jsonQuotePoints (ps : List CodePoint) : Except Fault String :=
  match splitSurrogate ps with
  | (cs, []) => .ok (jsonQuoteChars cs)
  | (cs, p :: rest) =>
    .error (.surrogates ⟨p.toNat, cs.length, (rest.takeWhile CodePoint.isSurrogate).length + 1⟩)

end Text

/-- Numbers are written plainly from `0.00001` up to `9999999999999998.0`, and then with the
exponent as it is. -/
def Decimal.jsonLayout : Decimal.Layout := ⟨-5, 15, "", 1⟩

def Binary64.json : Binary64 → String := Binary64.write Decimal.jsonLayout fun _ => "null"

def Binary64.jsonKey : Binary64 → String := Binary64.write Decimal.jsonLayout Binary64.specialName

namespace Value

def jsonKey : Value → Except Fault String
  | .text s => .ok (Text.jsonQuote s)
  | .int i => .ok (Text.jsonQuote (Text.integer i))
  | .real x => .ok (Text.jsonQuote x.jsonKey)
  | .bytes bs => .ok (Text.jsonQuote (String.ofList (Text.base64 bs)))
  | _ => .error (.shape .wrongType)

mutual

def json : Value → Except Fault String
  | .none => .ok "null"
  | .bool b => .ok (if b then "true" else "false")
  | .int i => .ok (Text.integer i)
  | .real x => .ok x.json
  | .text s => .ok (Text.jsonQuote s)
  | .bytes bs => .ok (Text.jsonQuote (String.ofList (Text.base64 bs)))
  | .list xs => do return "[" ++ ",".intercalate (← jsonItems xs) ++ "]"
  | .tuple xs => do return "[" ++ ",".intercalate (← jsonItems xs) ++ "]"
  | .map es => do return "\x7b" ++ ",".intercalate (← jsonEntries es) ++ "\x7d"
  | .outcome .. => .error (.shape .wrongType)

def jsonItems : List Value → Except Fault (List String)
  | [] => .ok []
  | x :: xs => do return (← json x) :: (← jsonItems xs)

def jsonEntries : List (Value × Value) → Except Fault (List String)
  | [] => .ok []
  | (k, v) :: es => do return ((← jsonKey k) ++ ":" ++ (← json v)) :: (← jsonEntries es)

end

end Value

end TableQuery

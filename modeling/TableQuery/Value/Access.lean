import TableQuery.Fault

/-!
# Reading values

The ways in which statements, rows and options are read out of values that callers and channels
hand over: item by item, by position, as an integer, as text. A value of the wrong shape is a
fault and never a guess.
-/

namespace TableQuery.Value

def items? : Value → Except Fault (List Value)
  | .text s => .ok (s.toList.map fun c => .text (String.singleton c))
  | .bytes bs => .ok (bs.map fun b => .int b.toNat)
  | .list xs => .ok xs
  | .tuple xs => .ok xs
  | .map es => .ok (es.map (·.1))
  | _ => .error (.shape .wrongType)

/-- What stands at position zero; in a map, what stands under the key zero. -/
def first? : Value → Except Fault Value
  | .map es =>
    match lookup? (.int 0) es with
    | some v => .ok v
    | Option.none => .error (.missingKey (.int 0))
  | v => do
    match ← v.items? with
    | [] => .error (.shape .outOfRange)
    | x :: _ => .ok x

def size? (v : Value) : Except Fault Nat := v.items?.map List.length

def text? : Value → Except Fault String
  | .text s => .ok s
  | _ => .error (.shape .wrongType)

/-- Tests whether a name holds a point. A list, tuple or map holds one as an item or key. -/
def hasPoint? : Value → Except Fault Bool
  | .text s => .ok (s.toList.contains '.')
  | .list xs => .ok (xs.any (same (.text ".")))
  | .tuple xs => .ok (xs.any (same (.text ".")))
  | .map es => .ok (es.any fun e => same (.text ".") e.1)
  | _ => .error (.shape .wrongType)

def shownLiteral (s : String) : String := String.ofList (s.toList.take 200)

def readInteger (literal : String) (cs : List Char) : Except Fault Int :=
  (Text.readDecimal cs).mapError fun
    | .malformed => .notInteger (shownLiteral literal)
    | .tooLong digits => .number (.tooManyDigits digits)

/-- The integer that a value stands for: a truth value, an integer, the integer part of a double,
or what a text or bytes write in decimal. -/
def integer? : Value → Except Fault Int
  | .bool b => .ok (if b then 1 else 0)
  | .int i => .ok i
  | .real x => (x.toInteger Binary64.trunc?).mapError .number
  | .text s => readInteger (Text.quote s) s.toList
  | .bytes bs =>
    readInteger (Text.quoteBytes (bs.take 200))
      (bs.map fun b => if b < 128 then Char.ofNat b.toNat else '?')
  | _ => .error (.shape .wrongType)

/-- A count is a non-negative integer; truth values are none. -/
def count? : Value → Option Nat
  | .int (.ofNat n) => some n
  | _ => Option.none

/-! ### Outcomes of writes -/

def outcomeWith (affected inserted metadata : Value) : Value :=
  match metadata with
  | .none => .outcome affected inserted (.map [])
  | m => .outcome affected inserted m

/-- A write succeeded if it touched at least one row. -/
def succeeded? : Value → Except Fault Bool
  | .outcome affected _ _ =>
    match affected.number? with
    | some n => .ok (Number.less (.whole 0) n)
    | Option.none => .error (.shape .wrongType)
  | _ => .error (.shape .noSuchMember)

end TableQuery.Value

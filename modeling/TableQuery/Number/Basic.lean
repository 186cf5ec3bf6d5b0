import TableQuery.Number.Binary64
import TableQuery.Text.Integer

/-!
# Numbers

Integers of any size and doubles take part in the same arithmetic. Two integers divide to the
nearest double; any other mixed operation turns its integer into a double first. `compare?` is
exact: an integer and a double are equal only if they are the same number.
-/

namespace TableQuery

inductive Number where
  | whole (i : Int)
  | real (x : Binary64)
  deriving DecidableEq

inductive NumberFault where
  | zeroDivisor (real : Bool)
  | quotientTooLarge
  | integerTooLarge
  | infinityToInteger
  | nanToInteger
  | tooManyDigits (digits : Nat)
  | unwritable
  deriving DecidableEq

def NumberFault.message : NumberFault → String
  | .zeroDivisor false => "division by zero"
  | .zeroDivisor true => "float division by zero"
  | .quotientTooLarge => "integer division result too large for a float"
  | .integerTooLarge => "int too large to convert to float"
  | .infinityToInteger => "cannot convert float infinity to integer"
  | .nanToInteger => "cannot convert float NaN to integer"
  | .tooManyDigits digits =>
    "Exceeds the limit (4300 digits) for integer string conversion: value has " ++
      Text.decimal digits ++ " digits; use sys.set_int_max_str_digits() to increase the limit"
  | .unwritable =>
    "Exceeds the limit (4300 digits) for integer string conversion; " ++
      "use sys.set_int_max_str_digits() to increase the limit"

namespace Number

def toReal : Number → Except NumberFault Binary64
  | .real x => .ok x
  | .whole i =>
    match Binary64.ofInt i with
    | .infinity _ => .error .integerTooLarge
    | x => .ok x

def combine (whole : Int → Int → Int) (real : Binary64 → Binary64 → Binary64) :
    Number → Number → Except NumberFault Number
  | .whole i, .whole j => .ok (.whole (whole i j))
  | x, y => do
    let a ← x.toReal
    let b ← y.toReal
    return .real (real a b)

def add : Number → Number → Except NumberFault Number := combine (· + ·) Binary64.add

def sub : Number → Number → Except NumberFault Number := combine (· - ·) Binary64.sub

def mul : Number → Number → Except NumberFault Number := combine (· * ·) Binary64.mul

def quotient (i j : Int) : Except NumberFault Binary64 :=
  if j = 0 then .error (.zeroDivisor false)
  else
    match Binary64.round (decide (i < 0) != decide (j < 0)) i.natAbs j.natAbs with
    | .infinity _ => .error .quotientTooLarge
    | x => .ok x

def div : Number → Number → Except NumberFault Binary64
  | .whole i, .whole j => quotient i j
  | x, y => do
    let a ← x.toReal
    let b ← y.toReal
    if b.isZero then .error (.zeroDivisor true) else .ok (a.div b)

/-- Order of two magnitudes `x * 2 ^ e`, brought to the lower exponent. -/
def compareScaled (x e y f : Int) : Ordering :=
  compare (Binary64.lift x e (min e f)) (Binary64.lift y f (min e f))

def compare? : Number → Number → Option Ordering
  | .real .nan, _ => none
  | _, .real .nan => none
  | .real (.infinity n), .real (.infinity m) => some (compare m.toNat n.toNat)
  | .real (.infinity n), _ => some (if n then .lt else .gt)
  | _, .real (.infinity n) => some (if n then .gt else .lt)
  | .whole i, .whole j => some (compare i j)
  | .whole i, .real (.finite n m e) => some (compareScaled i 0 (Binary64.signed n m) e)
  | .real (.finite n m e), .whole j => some (compareScaled (Binary64.signed n m) e j 0)
  | .real (.finite n m e), .real (.finite n' m' e') =>
    some (compareScaled (Binary64.signed n m) e (Binary64.signed n' m') e')

/-- Numerical equality; not a number equals nothing. -/
def equals (x y : Number) : Bool := compare? x y == some .eq

def less (x y : Number) : Bool := compare? x y == some .lt

def isZero : Number → Bool
  | .whole i => i == 0
  | .real x => x.isZero

end Number

def Binary64.toInteger (rounding : Binary64 → Option Int) (x : Binary64) :
    Except NumberFault Int :=
  match x with
  | .nan => .error .nanToInteger
  | x =>
    match rounding x with
    | some i => .ok i
    | none => .error .infinityToInteger

end TableQuery

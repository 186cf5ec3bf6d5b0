import TableQuery.Text.Blank
import TableQuery.Text.Digit

/-!
# Integers as text

`readInteger?` reads an integer in a base: blanks around it, at most one sign, the prefix of base
sixteen or two if it is there, then digits of any script with single underscores between them.
`readDecimal` refuses a decimal integer of more than `digitLimit` digits, and `isWritable` says which
integers have no more.
-/

namespace TableQuery.Text

def digitBelow? (base : Nat) (c : Char) : Option Nat :=
  (digitValue? c).filter (· < base)

def digitsAfter? (base n : Nat) : List Char → Option Nat
  | [] => some n
  | c :: rest =>
    if c == '_' then
      match rest with
      | [] => none
      | d :: rest => (digitBelow? base d).bind fun k => digitsAfter? base (n * base + k) rest
    else (digitBelow? base c).bind fun k => digitsAfter? base (n * base + k) rest

def readDigits? (base : Nat) : List Char → Option Nat
  | [] => none
  | c :: rest => (digitBelow? base c).bind fun k => digitsAfter? base k rest

def isBaseMark (base : Nat) (c : Char) : Bool :=
  (base == 16 && (c == 'x' || c == 'X')) || (base == 2 && (c == 'b' || c == 'B'))

def dropBaseMark (base : Nat) : List Char → List Char
  | z :: m :: rest =>
    if decimalDigit? z == some 0 && isBaseMark base m then
      match rest with
      | [] => []
      | u :: more => if u == '_' then more else rest
    else z :: m :: rest
  | cs => cs

/-- Blanks that may surround an integer: all but the four ASCII separators. -/
def isNumberPadding (c : Char) : Bool := isBlank c && !(28 ≤ c.toNat && c.toNat ≤ 31)

def trimPadding (cs : List Char) : List Char :=
  ((cs.dropWhile isNumberPadding).reverse.dropWhile isNumberPadding).reverse

def splitSign : List Char → Bool × List Char
  | '-' :: rest => (true, rest)
  | '+' :: rest => (false, rest)
  | cs => (false, cs)

/-- The integer that a text writes in a base, if it writes one. -/
def readInteger? (base : Nat) (cs : List Char) : Option Int :=
  let (negative, cs) := splitSign (trimPadding cs)
  (readDigits? base (dropBaseMark base cs)).map fun n => if negative then -(n : Int) else n

/-! ### Long integers -/

/-- The most digits that a decimal integer may have, read or written. -/
def digitLimit : Nat := 4300

/-- The digits at the head of a text, with the underscores among them. -/
def digitRun (cs : List Char) : List Char :=
  cs.takeWhile fun c => c == '_' || (digitBelow? 10 c).isSome

/-- Tests whether every underscore follows a digit and a digit ends the text. -/
def isSeparated (afterDigit : Bool) : List Char → Bool
  | [] => afterDigit
  | c :: rest => if c == '_' then afterDigit && isSeparated false rest else isSeparated true rest

/-- The number of digits at the head of a text, if they are too many. -/
def excessDigits? (cs : List Char) : Option Nat :=
  let run := digitRun cs
  let n := (run.filter (· != '_')).length
  if isSeparated false run && digitLimit < n then some n else none

inductive IntegerFault where
  | malformed
  | tooLong (digits : Nat)
  deriving DecidableEq

/-- The decimal integer that a text writes. Too many digits are refused before what follows them
is looked at. -/
def readDecimal (cs : List Char) : Except IntegerFault Int :=
  match excessDigits? (splitSign (trimPadding cs)).2 with
  | some n => .error (.tooLong n)
  | none =>
    match readInteger? 10 cs with
    | some i => .ok i
    | none => .error .malformed

def decimal (n : Nat) : String := String.ofList (Nat.toDigits 10 n)

def integer (i : Int) : String :=
  if i < 0 then "-" ++ decimal i.natAbs else decimal i.natAbs

/-- Tests whether an integer has few enough digits to be written in decimal. -/
def isWritable (i : Int) : Bool := i.natAbs < Nat.pow 10 digitLimit

end TableQuery.Text

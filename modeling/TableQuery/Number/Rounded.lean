import TableQuery.Number.Shortest

/-!
# Doubles to a given precision

A double is written with a given number of places after the point, or of digits in all. Its exact
value is rounded once, and a half goes to the even neighbour.
-/

namespace TableQuery.Decimal

def fraction (m : Nat) : Int → Nat × Nat
  | .ofNat k => (m * Nat.pow 2 k, 1)
  | .negSucc k => (m, Nat.pow 2 (k + 1))

/-- The number of units of the place `10 ^ (-places)` in a magnitude. -/
def toPlaces (places m : Nat) (e : Int) : Nat :=
  let q := fraction m e
  Binary64.roundDiv (q.1 * Nat.pow 10 places) q.2

def toDigits (count m : Nat) (e : Int) : Decimal :=
  let q := fraction m e
  let low := leadingOf q.1 q.2 + 1 - count
  let s := scaleDown q.1 q.2 low
  let n := Binary64.roundDiv s.1 s.2
  if n = Nat.pow 10 count then ⟨Nat.pow 10 (count - 1), low + 1⟩ else ⟨n, low⟩

def paddedDigits (width n : Nat) : List Char :=
  let ds := Nat.toDigits 10 n
  List.replicate (width - ds.length) '0' ++ ds

def pointed (keepPoint : Bool) (part : List Char) : List Char :=
  if part.isEmpty && !keepPoint then [] else '.' :: part

def fixedText (keepPoint : Bool) (places m : Nat) (e : Int) : List Char :=
  let ds := paddedDigits (places + 1) (toPlaces places m e)
  let whole := ds.length - places
  ds.take whole ++ pointed keepPoint (ds.drop whole)

def leadingDigits (count m : Nat) (e : Int) : List Char × Int :=
  if m = 0 then (List.replicate count '0', 0)
  else
    let d := toDigits count m e
    (Nat.toDigits 10 d.digits, d.exponent + count - 1)

def exponentText (x : Int) : List Char :=
  'e' :: (if x < 0 then '-' else '+') :: paddedDigits 2 x.natAbs

def mantissa (keepPoint : Bool) : List Char → List Char
  | [] => []
  | d :: part => d :: pointed keepPoint part

def scientificText (keepPoint : Bool) (places m : Nat) (e : Int) : List Char :=
  let (ds, x) := leadingDigits (places + 1) m e
  mantissa keepPoint ds ++ exponentText x

def trimPart (ds : List Char) : List Char := (ds.reverse.dropWhile (· == '0')).reverse

/-- No double has more digits than these other than zeros. -/
def exactDigits : Nat := 767

/-- A magnitude with so many digits: plainly while the digits reach the point and at most four
zeros follow it, else with an exponent. Zeros at the end are kept only on demand. -/
def generalText (keepZeros : Bool) (count m : Nat) (e : Int) : List Char :=
  let count := max count 1
  let (ds, x) := leadingDigits (if keepZeros then count else min count exactDigits) m e
  let trim (part : List Char) : List Char := if keepZeros then part else trimPart part
  if -4 ≤ x ∧ x < count then
    match x with
    | .ofNat n => ds.take (n + 1) ++ pointed keepZeros (trim (ds.drop (n + 1)))
    | .negSucc n => '0' :: pointed keepZeros (trim (List.replicate n '0' ++ ds))
  else ds.take 1 ++ pointed keepZeros (trim (ds.drop 1)) ++ exponentText x

end TableQuery.Decimal

import TableQuery.Number.Binary64
import TableQuery.Text.Integer

/-!
# The shortest decimal of a double

`shortest` gives the fewest decimal digits that round back to the same double, and of those the
nearest to it. A `Layout` says how the digits are written.
-/

namespace TableQuery

/-- A positive decimal: its digits as a number, and the power of ten of the last one. -/
structure Decimal where
  digits : Nat
  exponent : Int
  deriving DecidableEq

namespace Decimal

def leading (d : Decimal) : Int := d.exponent + (Nat.toDigits 10 d.digits).length - 1

def scaleDown (num den : Nat) : Int → Nat × Nat
  | .ofNat k => (num, den * Nat.pow 10 k)
  | .negSucc k => (num * Nat.pow 10 (k + 1), den)

def leadingOf (num den : Nat) : Int :=
  ((Nat.toDigits 10 (num * Nat.pow 10 400 / den)).length : Int) - 401

/-- A double's neighbourhood, in quarters of its last place: the double itself, the least and the
greatest magnitude that round to it, their unit as a fraction, and whether the ends belong. -/
structure Interval where
  value : Nat
  low : Nat
  high : Nat
  unit : Nat × Nat
  closed : Bool

/-- All that rounds to a positive double. The half gap below a power of two is the smaller one. -/
def interval (m : Nat) (e : Int) : Interval where
  value := 4 * m
  low := if m = Nat.pow 2 52 ∧ Binary64.minExponent < e then 4 * m - 1 else 4 * m - 2
  high := 4 * m + 2
  unit := match e - 2 with
    | .ofNat k => (Nat.pow 2 k, 1)
    | .negSucc k => (1, Nat.pow 2 (k + 1))
  closed := m % 2 == 0

def Interval.contains (i : Interval) (c : Nat) (k : Int) : Bool :=
  let q := scaleDown i.unit.1 i.unit.2 k
  let x := c * q.2
  if i.closed then i.low * q.1 ≤ x && x ≤ i.high * q.1
  else i.low * q.1 < x && x < i.high * q.1

/-- The multiple of `10 ^ k` in the interval that is nearest to the double, if there is one. -/
def Interval.onGrid (i : Interval) (k : Int) : Option Decimal :=
  let q := scaleDown (i.value * i.unit.1) i.unit.2 k
  let below := q.1 / q.2
  let rest := q.1 % q.2
  let up := below + 1
  if i.contains below k && 0 < below then
    if i.contains up k && (q.2 < 2 * rest || (q.2 == 2 * rest && below % 2 == 1)) then some ⟨up, k⟩
    else some ⟨below, k⟩
  else if i.contains up k then some ⟨up, k⟩
  else none

/-- Seventeen digits always suffice, so the finest grid is the sixteenth below the first digit. -/
def shortest (m : Nat) (e : Int) : Decimal :=
  let i := interval m e
  let first := leadingOf (i.value * i.unit.1) i.unit.2
  ((List.range 18).findSome? fun (n : Nat) => i.onGrid (first - n)).getD ⟨m, 0⟩

/-- How a decimal is written: the range of leading powers of ten that take plain notation, and the
sign and least width of an exponent. -/
structure Layout where
  plainFrom : Int
  plainTo : Int
  exponentPlus : String
  exponentWidth : Nat

def Layout.exponentText (l : Layout) (x : Int) : String :=
  let ds := Nat.toDigits 10 x.natAbs
  let ds := List.replicate (l.exponentWidth - ds.length) '0' ++ ds
  (if x < 0 then "-" else l.exponentPlus) ++ String.ofList ds

def trimZeros (ds : List Char) : List Char :=
  match (ds.reverse.dropWhile (· == '0')).reverse with
  | [] => ds.take 1
  | ds => ds

def plain (ds : List Char) (leading : Int) : List Char :=
  match leading with
  | .ofNat n =>
    let whole := ds.take (n + 1)
    let part := ds.drop (n + 1)
    whole ++ List.replicate (n + 1 - whole.length) '0' ++ '.' :: (if part.isEmpty then ['0'] else part)
  | .negSucc n => '0' :: '.' :: (List.replicate n '0' ++ ds)

def Layout.write (l : Layout) (d : Decimal) : String :=
  let x := d.leading
  let ds := trimZeros (Nat.toDigits 10 d.digits)
  if l.plainFrom ≤ x && x ≤ l.plainTo then String.ofList (plain ds x)
  else
    let mantissa := match ds with
      | [] => []
      | [c] => [c]
      | c :: rest => c :: '.' :: rest
    String.ofList mantissa ++ "e" ++ l.exponentText x

end Decimal

def Binary64.write (l : Decimal.Layout) (special : Binary64 → String) : Binary64 → String
  | .finite n m e =>
    (if n then "-" else "") ++ (if m = 0 then "0.0" else l.write (Decimal.shortest m e))
  | x => special x

/-- Values are written plainly from `0.0001` up to `9999999999999998.0`, and then with an exponent
that has a sign and two digits. -/
def Decimal.valueLayout : Decimal.Layout := ⟨-4, 15, "+", 2⟩

def Binary64.specialName : Binary64 → String
  | .infinity false => "inf"
  | .infinity true => "-inf"
  | _ => "nan"

def Binary64.literal : Binary64 → String :=
  Binary64.write Decimal.valueLayout Binary64.specialName

/-! ### Reading -/

def Decimal.takeDigits (n k : Nat) : List Char → Nat × Nat × List Char
  | [] => (n, k, [])
  | c :: rest =>
    match Text.asciiDigit? c with
    | some d => Decimal.takeDigits (n * 10 + d) (k + 1) rest
    | none => (n, k, c :: rest)

def Binary64.ofDecimal (negative : Bool) (n : Nat) : Int → Binary64
  | .ofNat k => Binary64.round negative (n * Nat.pow 10 k) 1
  | .negSucc k => Binary64.round negative n (Nat.pow 10 (k + 1))

def Decimal.readExponent? : List Char → Option Int
  | '-' :: ds => (Text.readDigits? 10 ds).map fun n => -(n : Int)
  | '+' :: ds => (Text.readDigits? 10 ds).map fun n => (n : Int)
  | ds => (Text.readDigits? 10 ds).map fun n => (n : Int)

def Binary64.readUnsigned? (negative : Bool) (cs : List Char) : Option Binary64 :=
  match cs with
  | ['i', 'n', 'f'] => some (.infinity negative)
  | ['n', 'a', 'n'] => some .nan
  | cs =>
    let (n, k, rest) := Decimal.takeDigits 0 0 cs
    let (n, j, rest) := match rest with
      | '.' :: more => Decimal.takeDigits n 0 more
      | rest => (n, 0, rest)
    if k + j = 0 then none
    else match rest with
      | [] => some (.ofDecimal negative n (-(j : Int)))
      | c :: ds =>
        if c == 'e' || c == 'E' then
          (Decimal.readExponent? ds).map fun x => .ofDecimal negative n (x - j)
        else none

def Binary64.read? (s : String) : Option Binary64 :=
  match s.toList with
  | '-' :: cs => Binary64.readUnsigned? true cs
  | cs => Binary64.readUnsigned? false cs

end TableQuery

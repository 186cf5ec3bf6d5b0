/-!
# Binary floating point numbers of 64 bits

A finite number is a significand below `2 ^ 53` times a power of two not below `2 ^ (-1074)`. Every
operation computes the exact result as a fraction of natural numbers and rounds it once with
`round`, to the nearest number and a tie to the even significand.
-/

namespace TableQuery

inductive Binary64 where
  | finite (negative : Bool) (significand : Nat) (exponent : Int)
  | infinity (negative : Bool)
  | nan
  deriving DecidableEq, Inhabited

namespace Binary64

def minExponent : Int := -1074

def maxExponent : Int := 971

def zero (negative : Bool) : Binary64 := finite negative 0 minExponent

/-- The natural number nearest to `num / den`; a half goes to the even neighbour. -/
def roundDiv (num den : Nat) : Nat :=
  let q := num / den
  let r := num % den
  if 2 * r < den then q else if den < 2 * r then q + 1 else q + q % 2

def scaleDown (num den : Nat) : Int → Nat × Nat
  | .ofNat k => (num, den * Nat.pow 2 k)
  | .negSucc k => (num * Nat.pow 2 (k + 1), den)

/-- The exponent at which `num / den` has a significand of 53 bits, or the least exponent. -/
def lastPlace (num den : Nat) : Int :=
  let e : Int := (num.log2 : Int) - den.log2 - 53
  let q := scaleDown num den e
  max minExponent (if q.1 / q.2 < Nat.pow 2 53 then e else e + 1)

def round (negative : Bool) (num den : Nat) : Binary64 :=
  if num = 0 then zero negative
  else
    let e := lastPlace num den
    let q := scaleDown num den e
    let m := roundDiv q.1 q.2
    let carry := m == Nat.pow 2 53
    let e := if carry then e + 1 else e
    if maxExponent < e then infinity negative
    else finite negative (if carry then Nat.pow 2 52 else m) e

def roundScaled (negative : Bool) (m : Nat) : Int → Binary64
  | .ofNat k => round negative (m * Nat.pow 2 k) 1
  | .negSucc k => round negative m (Nat.pow 2 (k + 1))

def ofInt (i : Int) : Binary64 := round (i < 0) i.natAbs 1

def signed (negative : Bool) (m : Nat) : Int := if negative then -(m : Int) else m

/-- Multiplies an integer by the power of two from the exponent `e` down to `low`. -/
def lift (x : Int) (e low : Int) : Int := x * Nat.pow 2 (e - low).toNat

def add : Binary64 → Binary64 → Binary64
  | finite n m e, finite n' m' e' =>
    let low := min e e'
    let x := lift (signed n m) e low + lift (signed n' m') e' low
    if x = 0 then zero (n && n') else roundScaled (x < 0) x.natAbs low
  | nan, _ => nan
  | _, nan => nan
  | infinity n, infinity n' => if n = n' then infinity n else nan
  | infinity n, finite .. => infinity n
  | finite .., infinity n => infinity n

def neg : Binary64 → Binary64
  | finite n m e => finite (!n) m e
  | infinity n => infinity (!n)
  | nan => nan

def sub (x y : Binary64) : Binary64 := add x (neg y)

def mul : Binary64 → Binary64 → Binary64
  | finite n m e, finite n' m' e' => roundScaled (n != n') (m * m') (e + e')
  | nan, _ => nan
  | _, nan => nan
  | infinity n, infinity n' => infinity (n != n')
  | infinity n, finite n' m _ => if m = 0 then nan else infinity (n != n')
  | finite n m _, infinity n' => if m = 0 then nan else infinity (n != n')

def div : Binary64 → Binary64 → Binary64
  | finite n m e, finite n' m' e' =>
    if m' = 0 then (if m = 0 then nan else infinity (n != n'))
    else
      let low := min e e'
      round (n != n') (m * Nat.pow 2 (e - low).toNat) (m' * Nat.pow 2 (e' - low).toNat)
  | nan, _ => nan
  | _, nan => nan
  | infinity _, infinity _ => nan
  | infinity n, finite n' _ _ => infinity (n != n')
  | finite n _ _, infinity n' => zero (n != n')

def isZero : Binary64 → Bool
  | finite _ m _ => m == 0
  | _ => false

def ceil? : Binary64 → Option Int
  | finite n m (.ofNat k) => some (signed n m * Nat.pow 2 k)
  | finite n m (.negSucc k) => some (-(-signed n m / Nat.pow 2 (k + 1)))
  | _ => none

def floor? (x : Binary64) : Option Int := (ceil? (neg x)).map (-·)

def trunc? : Binary64 → Option Int
  | finite n m (.ofNat k) => some (signed n m * Nat.pow 2 k)
  | finite n m (.negSucc k) => some (signed n (m / Nat.pow 2 (k + 1)))
  | _ => none

end Binary64

end TableQuery

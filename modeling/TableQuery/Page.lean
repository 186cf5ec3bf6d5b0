import TableQuery.Value.Access

/-!
# Pages

One page of a longer result. The number of pages is the ceiling of the quotient of total and limit
as a double, and the pages before and after are counted from it.
-/

namespace TableQuery

/-- A page: the number of all rows, the rows that a page holds at most, the number of this page,
and its rows. -/
structure Page where
  total : Value
  limit : Value
  current : Value
  items : List Value := []

namespace Page

def over? (total limit current items : Value) : Except Fault Page := do
  return { total, limit, current, items := ← items.items? }

def number? (v : Value) : Except Fault Number :=
  match v.number? with
  | some x => .ok x
  | none => .error (.shape .wrongType)

def ofNumber : Number → Value
  | .whole i => .int i
  | .real x => .real x

def firstPage : Int := 1

/-- The ceiling of the double nearest to `total / limit`. -/
def totalPages (p : Page) : Except Fault Int := do
  let total ← number? p.total
  let limit ← number? p.limit
  let q ← (total.div limit).mapError .number
  (q.toInteger Binary64.ceil?).mapError .number

def lastPage (p : Page) : Except Fault Int := p.totalPages

def before (p : Page) : Except Fault Number := do
  ((← number? p.current).sub (.whole 1)).mapError .number

def prevPage (p : Page) : Except Fault Value := do
  let current ← number? p.current
  if Number.less (.whole 1) current then return ofNumber (← p.before) else return .none

def nextPage (p : Page) : Except Fault Value := do
  let pages ← p.totalPages
  let current ← number? p.current
  if current.less (.whole pages) then
    return ofNumber (← (current.add (.whole 1)).mapError .number)
  else return .none

/-- The number of copies of a sequence that a number asks for, which has to be an integer of 64
bits. A negative number asks for none. -/
def copyCount : Number → Except Fault Nat
  | .whole n => if -Nat.pow 2 63 ≤ n ∧ n < Nat.pow 2 63 then .ok n.toNat else .error (.size .copies)
  | .real _ => .error (.shape .wrongType)

def copies {α : Type} (long : SizeFault) (xs : List α) (n : Nat) : Except Fault (List α) :=
  if xs.isEmpty then .ok []
  else if Nat.pow 2 63 ≤ xs.length * n then .error (.size long)
  else if storageLimit ≤ xs.length * n then .error (.size .storage)
  else .ok (List.replicate n xs).flatten

/-- The position of the first item: the limit times the number of pages before. A limit that is a
sequence is repeated. -/
def offset (p : Page) : Except Fault Value := do
  let n ← p.before
  match p.limit with
  | .text s => return .text (String.ofList (← copies .text s.toList (← copyCount n)))
  | .bytes bs => return .bytes (← copies .bytes bs (← copyCount n))
  | .list xs => return .list (← copies .storage xs (← copyCount n))
  | .tuple xs => return .tuple (← copies .storage xs (← copyCount n))
  | limit => return ofNumber (← ((← number? limit).mul n).mapError .number)

def same (p q : Page) : Bool :=
  p.total.same q.total && p.limit.same q.limit && p.current.same q.current &&
    Value.sameItems p.items q.items

end Page

end TableQuery

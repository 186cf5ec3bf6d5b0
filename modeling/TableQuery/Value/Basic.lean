import TableQuery.Number.Basic

/-!
# Values

Everything that a statement binds, a row holds or an option carries is a `Value`. `truthy` says
which values count as given, and `same` is equality: numbers by what they are worth, maps without
regard to order, outcomes of writes without their metadata.
-/

namespace TableQuery

/-- A dynamic value. The outcome of a write has the rows affected, the last inserted identifier
and the metadata. -/
inductive Value where
  | none
  | bool (b : Bool)
  | int (i : Int)
  | real (x : Binary64)
  | text (s : String)
  | bytes (bs : List UInt8)
  | list (items : List Value)
  | tuple (items : List Value)
  | map (entries : List (Value × Value))
  | outcome (affected inserted metadata : Value)
  deriving Inhabited

namespace Value

def number? : Value → Option Number
  | .bool b => some (.whole (if b then 1 else 0))
  | .int i => some (.whole i)
  | .real x => some (.real x)
  | _ => Option.none

def truthy : Value → Bool
  | .none => false
  | .bool b => b
  | .int i => i != 0
  | .real x => !x.isZero
  | .text s => s != ""
  | .bytes bs => !bs.isEmpty
  | .list xs => !xs.isEmpty
  | .tuple xs => !xs.isEmpty
  | .map es => !es.isEmpty
  | .outcome .. => true

def orElse (v w : Value) : Value := if v.truthy then v else w

mutual

def same : Value → Value → Bool
  | .none, .none => true
  | .text s, .text t => s == t
  | .bytes s, .bytes t => s == t
  | .list xs, .list ys => sameItems xs ys
  | .tuple xs, .tuple ys => sameItems xs ys
  | .map es, .map fs => es.length == fs.length && allIn es fs
  | .outcome a i _, .outcome a' i' _ => same a a' && same i i'
  | v, w =>
    match v.number?, w.number? with
    | some x, some y => x.equals y
    | _, _ => false

def sameItems : List Value → List Value → Bool
  | [], [] => true
  | x :: xs, y :: ys => same x y && sameItems xs ys
  | _, _ => false

def allIn : List (Value × Value) → List (Value × Value) → Bool
  | [], _ => true
  | (k, v) :: es, fs => fs.any (fun f => same k f.1 && same v f.2) && allIn es fs

end

def lookup? (key : Value) (es : List (Value × Value)) : Option Value :=
  (es.find? fun e => key.same e.1).map (·.2)

/-- Sets a key: an entry that is there keeps its place and its key, a new one goes to the end. -/
def insert {α : Type} (key : Value) (v : α) : List (Value × α) → List (Value × α)
  | [] => [(key, v)]
  | (k, w) :: es => if key.same k then (k, v) :: es else (k, w) :: insert key v es

def insertAll {α : Type} (es more : List (Value × α)) : List (Value × α) :=
  more.foldl (fun acc e => insert e.1 e.2 acc) es

/-- Entries with each key once, in the order of the first and with the value of the last. -/
def distinct (es : List (Value × Value)) : List (Value × Value) := insertAll [] es

/-- The outcome of a write about which nothing is known but the rows and the identifier. -/
def written (affected inserted : Value) : Value := .outcome affected inserted (.map [])

end Value

end TableQuery

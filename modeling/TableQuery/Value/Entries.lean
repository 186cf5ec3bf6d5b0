import TableQuery.Value.Access

/-!
# Entries

Entries come from a map or from the pairs of a sequence. A pair has two items, the first of which
can be a key.
-/

namespace TableQuery.Value

mutual

def canBeKey : Value → Bool
  | .list _ => false
  | .map _ => false
  | .outcome .. => false
  | .tuple xs => canAllBeKeys xs
  | _ => true

def canAllBeKeys : List Value → Bool
  | [] => true
  | x :: xs => canBeKey x && canAllBeKeys xs

end

/-- The pairs that values are; the first of them stands at a position of its sequence. -/
def pairs? (position : Nat) : List Value → Except Fault (List (Value × Value))
  | [] => .ok []
  | x :: xs => do
    match ← x.items? with
    | [k, v] =>
      if k.canBeKey then return (k, v) :: (← pairs? (position + 1) xs)
      else .error (.shape .wrongType)
    | items => .error (.notPair position items.length)

def entries? : Value → Except Fault (List (Value × Value))
  | .map es => .ok es
  | v => do pairs? 0 (← v.items?)

end TableQuery.Value

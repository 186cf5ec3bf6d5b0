/-!
# Locks

A lock has one holder at most and lets the others in as they came. A release hands the lock on to
the first task that waits.
-/

namespace TableQuery

abbrev TaskId := Nat

structure Lock where
  holder : Option TaskId := none
  waiting : List TaskId := []
  deriving DecidableEq

namespace Lock

def request (l : Lock) (t : TaskId) : Lock :=
  match l.holder with
  | none => { l with holder := some t }
  | some _ => { l with waiting := l.waiting ++ [t] }

def release (l : Lock) : Lock := ⟨l.waiting.head?, l.waiting.tail⟩

/-- All who hold the lock or wait for it, in the order in which they have it. -/
def line (l : Lock) : List TaskId := l.holder.toList ++ l.waiting

theorem line_release (l : Lock) : l.release.line = l.waiting := by
  cases h : l.waiting <;> simp [line, release, h]

end Lock

end TableQuery

import TableQuery.Fault

/-!
# Callbacks

A call can run as a task and report to a callback instead of answering. The callback is given an
error or a result, never both. A task whose call ends with a cancellation is cancelled, and its
callback is given a cancellation without words, whatever the words of the other were.
-/

namespace TableQuery

structure Report (α : Type) where
  error : Option Fault
  result : Option α

inductive Completion (α : Type) where
  | returned (a : α)
  | raised (f : Fault)
  | cancelled

def Completion.report {α : Type} : Completion α → Report α
  | .returned a => ⟨none, some a⟩
  | .raised f => ⟨some f, none⟩
  | .cancelled => ⟨some (.cancelled ""), none⟩

def Completion.isCancelled {α : Type} : Completion α → Bool
  | .cancelled => true
  | _ => false

/-- What a task comes to whose call ends so. -/
def Completion.ofExcept {α : Type} : Except Fault α → Completion α
  | .ok a => .returned a
  | .error (.cancelled _) => .cancelled
  | .error f => .raised f

/-- The calls made on the callbacks of some tasks, each with the position of its task. -/
def reports {α : Type} (tasks : List (Completion α)) : List (Nat × Report α) :=
  tasks.mapIdx fun i t => (i, t.report)

end TableQuery

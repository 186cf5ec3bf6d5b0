import TableQuery.Event
import TableQuery.Statement.Basic

/-!
# Execution channels

A channel runs compiled statements. It answers each with a value or a fault, and keeps a state of
its own. A script is the channel that replies what it was told to.
-/

namespace TableQuery

/-- What comes back for one statement: the reply, the state of the channel, and what it logged. -/
structure Delivery (σ : Type) where
  reply : Except Fault Value
  state : σ
  events : List Event := []

/-- Runs statement text with the values bound to it. -/
abbrev Channel (σ : Type) := σ → String → List Value → Delivery σ

/-- Replies that are still to be given. -/
abbrev Script := List (Except Fault Value)

/-- Gives the next reply, and no rows once all are given. -/
def Script.channel : Channel Script
  | [], _, _ => { reply := .ok (.list []), state := [] }
  | r :: rest, _, _ => { reply := r, state := rest }

end TableQuery

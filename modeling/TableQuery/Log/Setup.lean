import TableQuery.Log.Layout

/-!
# Logging set up

The root logger has a threshold and handlers, the console first. `LogSetup.configure` replaces
both, or fails and leaves them as they were, and `LogSetup.emit` writes a record on every handler.
Before logging is set up, records are only collected, by their words.
-/

namespace TableQuery

/-- The handlers of the root logger: a collector of words, or a console with a layout and a number
of further handlers. -/
inductive Handlers where
  | collector
  | console (layout : Layout) (further : Nat)

structure LogSetup where
  threshold : Level := Level.debug
  handlers : Handlers := .collector

structure Emission where
  enabled : Bool
  console : List Text.CodePoint
  further : List (List Text.CodePoint)

namespace LogSetup

def layoutOf (style : Value) : Layout :=
  if style.same (.text "structured") then .structured "" else .plain

def configure (level style : Value) (further : Nat) : Except Fault LogSetup := do
  return { threshold := ← Level.ofName? level, handlers := .console (layoutOf style) further }

/-- The least level that is let through. A root without a threshold takes warnings. -/
def effective (s : LogSetup) : Level :=
  if s.threshold = Level.unset then Level.warning else s.threshold

def line (layout : Layout) (r : Record) : List Text.CodePoint :=
  match layout.write r with
  | .ok text => text ++ [.char '\n']
  | .error _ => []

/-- Hands a record to every handler, if its level is let through. A collector needs its words. -/
def emit (s : LogSetup) (r : Record) : Except Fault Emission := do
  let enabled := decide (s.effective ≤ r.level)
  match s.handlers with
  | .collector =>
    if enabled then discard r.message
    return { enabled, console := [], further := [] }
  | .console layout further =>
    let written (layout : Layout) : List Text.CodePoint := if enabled then line layout r else []
    return { enabled, console := written layout, further := List.replicate further (written .bare) }

def layouts (s : LogSetup) : List Layout :=
  match s.handlers with
  | .collector => []
  | .console layout further => layout :: List.replicate further .bare

end LogSetup

end TableQuery

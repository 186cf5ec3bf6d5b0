import TableQuery.Connection.Lock
import TableQuery.Options

/-!
# The connection machine

Several tasks share one connection. A task runs a statement, asks for the connection, or closes it.
The connection is opened when it is first needed. Statements and closing take turns under the turn
lock; opening and closing are guarded by the gate lock. A task stands in a `Phase`, and
`Machine.step` moves it on when what it waits for has happened. Whatever else happens is no step, so
a list of happenings is one interleaving of the tasks.
-/

namespace TableQuery

abbrev ConnectionId := Nat

structure Completed where
  columns : Option (List String) := none
  rows : List Value := []
  affected : Option Int := some 0
  inserted : Option Int := some 0

inductive NetworkCall where
  | connect (options : Options)
  | openCursor (c : ConnectionId)
  | execute (c : ConnectionId) (text : String) (values : List Value)
  | fetchAll (c : ConnectionId)
  | closeCursor (c : ConnectionId)
  | disconnect (c : ConnectionId)

inductive Note where
  | called (call : NetworkCall)
  | logged (event : Event)

inductive Need where
  | statement (text : String) (values : List Value)
  | connection

inductive Job where
  | need (n : Need)
  | close

inductive Outcome where
  | value (v : Value)
  | connection (c : ConnectionId)
  | closed

/-- Where a task stands, and what it waits for. -/
inductive Phase where
  | awaitingTurn (text : String) (values : List Value)
  | awaitingGate (need : Need)
  | connecting (need : Need)
  | openingCursor (c : ConnectionId) (text : String) (values : List Value)
  | executing (c : ConnectionId)
  | fetching (c : ConnectionId) (columns : List String)
  | closingCursor (c : ConnectionId) (outcome : Except Fault Outcome)
  | awaitingTurnToClose
  | awaitingGateToClose
  | disconnecting (c : ConnectionId)
  | finished (outcome : Except Fault Outcome)

/-- What can happen to a task: a lock is its own, or a call on the network ends. -/
inductive Happening where
  | granted
  | connected (r : Except Fault Unit)
  | cursorOpened (r : Except Fault Unit)
  | executed (r : Except Fault Completed)
  | fetched (r : Except Fault (List Value))
  | cursorClosed (r : Except Fault Unit)
  | disconnected (r : Except Fault Unit)

structure Machine where
  options : Options
  turn : Lock := {}
  gate : Lock := {}
  handle : Option ConnectionId := none
  opened : Nat := 0
  tasks : List Phase := []

structure Moved where
  machine : Machine
  notes : List Note := []

/-- A row as a map: every value under the name of its column, the last of equal names. -/
def rowMap (columns : List String) (row : Value) : Except Fault Value := do
  return .map (Value.distinct ((columns.map Value.text).zip (← row.items?)))

namespace Completed

def rowColumns (s : Completed) : Option (List String) := s.columns.filter (!·.isEmpty)

/-- The outcome of a write. The rows are minus one where they are not known, and an identifier of
zero is none. -/
def outcome (s : Completed) : Value :=
  let inserted : Value := match s.inserted with
    | some 0 => .none
    | some i => .int i
    | none => .none
  .written (.int (s.affected.getD (-1))) inserted

end Completed

namespace Machine

def put (m : Machine) (t : TaskId) (p : Phase) : Machine := { m with tasks := m.tasks.set t p }

def finish (m : Machine) (t : TaskId) (r : Except Fault Outcome) : Moved := ⟨m.put t (.finished r), []⟩

def finishTurn (m : Machine) (t : TaskId) (r : Except Fault Outcome) : Moved :=
  { m with turn := m.turn.release }.finish t r

def proceed (m : Machine) (t : TaskId) (c : ConnectionId) : Need → Moved
  | .statement text values => ⟨m.put t (.openingCursor c text values), [.called (.openCursor c)]⟩
  | .connection => m.finish t (.ok (.connection c))

/-- Ends a task that cannot have a connection: a statement gives up its turn. -/
def abandon (m : Machine) (t : TaskId) (f : Fault) : Need → Moved
  | .statement .. => m.finishTurn t (.error f)
  | .connection => m.finish t (.error f)

def reach (m : Machine) (t : TaskId) (need : Need) : Moved :=
  match m.handle with
  | some c => m.proceed t c need
  | none => ⟨{ m with gate := m.gate.request t }.put t (.awaitingGate need), []⟩

/-- Goes on with a task that has the gate. A connection that someone else opened meanwhile is used.
Options whose names are not texts cannot be handed over. -/
def pass (m : Machine) (t : TaskId) (need : Need) : Moved :=
  match m.handle with
  | some c => { m with gate := m.gate.release }.proceed t c need
  | none =>
    if m.options.namesAreTexts then
      ⟨m.put t (.connecting need), [.called (.connect m.options)]⟩
    else { m with gate := m.gate.release }.abandon t (.shape .wrongType) need

/-- Closes the connection under both locks. It is forgotten before it is gone. -/
def shut (m : Machine) (t : TaskId) : Moved :=
  match m.handle with
  | some c => ⟨{ m with handle := none }.put t (.disconnecting c), [.called (.disconnect c)]⟩
  | none => { m with gate := m.gate.release }.finishTurn t (.ok .closed)

/-- Closes the cursor of a statement whose outcome is known. -/
def leave (m : Machine) (t : TaskId) (c : ConnectionId) (r : Except Fault Outcome) : Moved :=
  ⟨m.put t (.closingCursor c r), [.called (.closeCursor c)]⟩

/-- Takes a new job. The task gets the next number. -/
def submit (m : Machine) (job : Job) : Moved :=
  let t := m.tasks.length
  let enter (p : Phase) : Machine := { m with tasks := m.tasks ++ [p] }
  match job with
  | .need .connection => (enter (.awaitingGate .connection)).reach t .connection
  | .need (.statement text values) =>
    ⟨{ enter (.awaitingTurn text values) with turn := m.turn.request t }, []⟩
  | .close => ⟨{ enter .awaitingTurnToClose with turn := m.turn.request t }, []⟩

def openedEvent (m : Machine) : Event :=
  .opened (m.options.get "host") (m.options.get "port") (m.options.get "database")

def closedEvent (m : Machine) : Event := .closed (m.options.get "host")

def advance (m : Machine) (t : TaskId) : Phase → Happening → Option Moved
  | .awaitingTurn text values, .granted =>
    if m.turn.holder = some t then some (m.reach t (.statement text values)) else none
  | .awaitingGate need, .granted =>
    if m.gate.holder = some t then some (m.pass t need) else none
  | .connecting need, .connected r =>
    match r with
    | .ok _ =>
      let c := m.opened + 1
      let next :=
        { m with handle := some c, opened := c, gate := m.gate.release }.proceed t c need
      some { next with notes := .logged m.openedEvent :: next.notes }
    | .error f => some ({ m with gate := m.gate.release }.abandon t f need)
  | .openingCursor c text values, .cursorOpened r =>
    match r with
    | .ok _ => some ⟨m.put t (.executing c), [.called (.execute c text values)]⟩
    | .error f => some (m.finishTurn t (.error f))
  | .executing c, .executed r =>
    match r with
    | .ok done =>
      match done.rowColumns with
      | some columns => some ⟨m.put t (.fetching c columns), [.called (.fetchAll c)]⟩
      | none => some (m.leave t c (.ok (.value done.outcome)))
    | .error f => some (m.leave t c (.error f))
  | .fetching c columns, .fetched r =>
    some (m.leave t c (r.bind fun rows => do
      return .value (.list (← rows.mapM (rowMap columns)))))
  | .closingCursor _ outcome, .cursorClosed r =>
    some (m.finishTurn t (r.bind fun _ => outcome))
  | .awaitingTurnToClose, .granted =>
    if m.turn.holder = some t then
      some ⟨{ m with gate := m.gate.request t }.put t .awaitingGateToClose, []⟩
    else none
  | .awaitingGateToClose, .granted =>
    if m.gate.holder = some t then some (m.shut t) else none
  | .disconnecting _, .disconnected r =>
    let next := { m with gate := m.gate.release }.finishTurn t (r.map fun _ => .closed)
    some { next with notes := .logged m.closedEvent :: next.notes }
  | _, _ => none

def step (m : Machine) (t : TaskId) (h : Happening) : Option Moved :=
  match m.tasks[t]? with
  | some p => m.advance t p h
  | none => none

end Machine

end TableQuery

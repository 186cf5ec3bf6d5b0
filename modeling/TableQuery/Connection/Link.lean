import TableQuery.Channel
import TableQuery.Connection.Request

/-!
# Links

A link is a connection machine with a network that replies as it was told. `Link.perform` takes one
request and moves its task on until it has ended, so the requests on a link come one after another.
`Link.channel` runs the statements of builders on a link.
-/

namespace TableQuery

/-- What the network is still to reply. A call for which nothing is left succeeds. -/
structure Replies where
  connects : List (Except Fault Unit) := []
  cursors : List (Except Fault Unit) := []
  statements : List (Except Fault (Completed × List Value)) := []
  cursorCloses : List (Except Fault Unit) := []
  closes : List (Except Fault Unit) := []
  rows : List Value := []

def nextReply : List (Except Fault Unit) → Except Fault Unit × List (Except Fault Unit)
  | [] => (.ok (), [])
  | r :: rest => (r, rest)

namespace Replies

/-- The reply to a statement, with its rows kept until they are asked for. -/
def nextStatement (rs : Replies) : Happening × Replies :=
  match rs.statements with
  | [] => (.executed (.ok {}), { rs with rows := [] })
  | .ok (done, rows) :: rest => (.executed (.ok done), { rs with statements := rest, rows })
  | .error f :: rest => (.executed (.error f), { rs with statements := rest, rows := [] })

def next (rs : Replies) : Phase → Happening × Replies
  | .connecting _ =>
    let (r, connects) := nextReply rs.connects
    (.connected r, { rs with connects })
  | .openingCursor .. =>
    let (r, cursors) := nextReply rs.cursors
    (.cursorOpened r, { rs with cursors })
  | .executing _ => rs.nextStatement
  | .fetching .. => (.fetched (.ok rs.rows), rs)
  | .closingCursor .. =>
    let (r, cursorCloses) := nextReply rs.cursorCloses
    (.cursorClosed r, { rs with cursorCloses })
  | .disconnecting _ =>
    let (r, closes) := nextReply rs.closes
    (.disconnected r, { rs with closes })
  | _ => (.granted, rs)

end Replies

/-- The most moves that a task makes from a phase to its end. -/
def Phase.movesLeft : Phase → Nat
  | .finished _ => 0
  | .closingCursor .. => 1
  | .fetching .. => 2
  | .executing _ => 3
  | .openingCursor .. => 4
  | .connecting _ => 5
  | .awaitingGate _ => 6
  | .awaitingTurn .. => 7
  | .disconnecting _ => 1
  | .awaitingGateToClose => 2
  | .awaitingTurnToClose => 3

/-- A machine, what its network is to reply, and the calls on the network so far. -/
structure Link where
  machine : Machine
  replies : Replies := {}
  trace : List NetworkCall := []

def Note.call? : Note → Option NetworkCall
  | .called c => some c
  | .logged _ => none

def Note.event? : Note → Option Event
  | .called _ => none
  | .logged e => some e

namespace Link

def open? (options : Options) (replies : Replies) : Except Fault Link := do
  return { machine := { options := ← options.check }, replies }

def handle (l : Link) : Option ConnectionId := l.machine.handle

def keep (l : Link) (moved : Moved) (replies : Replies) : Link × List Event :=
  ({ machine := moved.machine, replies, trace := l.trace ++ moved.notes.filterMap Note.call? },
    moved.notes.filterMap Note.event?)

/-- Moves a task on, so many times at most, and gives what it came to. A task that cannot go on is
given up. -/
def settle (l : Link) (t : TaskId) : Nat → Except Fault Outcome × Link × List Event
  | 0 =>
    match l.machine.tasks[t]? with
    | some (.finished r) => (r, l, [])
    | _ => (.error (.cancelled ""), l, [])
  | n + 1 =>
    match l.machine.tasks[t]? with
    | some (.finished r) => (r, l, [])
    | none => (.error (.cancelled ""), l, [])
    | some p =>
      let (h, replies) := l.replies.next p
      match l.machine.step t h with
      | none => (.error (.cancelled ""), l, [])
      | some moved =>
        let (l, es) := l.keep moved replies
        let (r, l, es') := l.settle t n
        (r, l, es ++ es')

def perform (l : Link) (r : Request) : Except Fault Outcome × Link × List Event :=
  match l.machine.take r with
  | .error f => (.error f, l, [])
  | .ok moved =>
    let t := l.machine.tasks.length
    let moves := (moved.machine.tasks[t]?.map Phase.movesLeft).getD 0
    let (l, es) := l.keep moved l.replies
    let (r, l, es') := l.settle t moves
    (r, l, es ++ es')

def valueOf : Outcome → Value
  | .value v => v
  | _ => .none

def execute (l : Link) (sql : String) (values : Value) : Delivery Link :=
  let (r, l, events) := l.perform (.execute sql values)
  { reply := r.map valueOf, state := l, events }

def channel : Channel Link := fun l sql values => l.execute sql (.tuple values)

end Link

end TableQuery

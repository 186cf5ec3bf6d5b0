import TableQuery.Connection.Link
import TableQuery.Proofs.Connection.Locks

/-!
# Steps of a connection machine

`Passes` lists what a step can do with its task, and `step_passes` shows that a step does nothing
else: the task takes another place, both locks go with it, and at most the connection changes.
`Enters` says where a new task stands. What holds of the places afterwards is read off
`stands_place` and `stands_enter`.
-/

namespace TableQuery

/-! ### Places -/

/-- A statement needs the connection in its turn. -/
def Need.takesTurn : Need → Bool
  | .statement .. => true
  | .connection => false

namespace Phase

/-- The task holds the turn lock or waits for it. -/
def inTurn : Phase → Bool
  | .awaitingGate need => need.takesTurn
  | .connecting need => need.takesTurn
  | .finished _ => false
  | _ => true

/-- The task holds the turn lock. -/
def hasTurn : Phase → Bool
  | .awaitingTurn .. => false
  | .awaitingTurnToClose => false
  | p => p.inTurn

/-- The task holds the gate lock or waits for it. -/
def inGate : Phase → Bool
  | .awaitingGate _ => true
  | .connecting _ => true
  | .awaitingGateToClose => true
  | .disconnecting _ => true
  | _ => false

/-- The task holds the gate lock. -/
def hasGate : Phase → Bool
  | .connecting _ => true
  | .disconnecting _ => true
  | _ => false

theorem inTurn_of_hasTurn {p : Phase} (holds : p.hasTurn = true) : p.inTurn = true := by
  unfold hasTurn at holds
  split at holds
  · cases holds
  · cases holds
  · exact holds

theorem inGate_of_hasGate {p : Phase} (holds : p.hasGate = true) : p.inGate = true := by
  cases p with
  | connecting => rfl
  | disconnecting => rfl
  | _ => cases holds

end Phase

/-! ### What a step can do -/

/-- Where a task goes on with a connection. -/
def Need.given (c : ConnectionId) : Need → Phase
  | .statement text values => .openingCursor c text values
  | .connection => .finished (.ok (.connection c))

/-- What it calls for then. -/
def Need.calls (c : ConnectionId) : Need → List NetworkCall
  | .statement .. => [.openCursor c]
  | .connection => []

theorem Need.given_inTurn (c : ConnectionId) (need : Need) :
    (need.given c).inTurn = need.takesTurn := by
  cases need <;> rfl

theorem Need.given_hasGate (c : ConnectionId) (need : Need) : (need.given c).hasGate = false := by
  cases need <;> rfl

def Moved.calls (moved : Moved) : List NetworkCall := moved.notes.filterMap Note.call?

namespace Machine

/-- Moves a task to another place, and the locks with it. -/
def place (m : Machine) (t : TaskId) (p p' : Phase) : Machine :=
  { m with
    turn := m.turn.shift t p.inTurn p'.inTurn
    gate := m.gate.shift t p.inGate p'.inGate
    tasks := m.tasks.set t p' }

/-- A task passes from one place to another when something happens. The machine is that with the
connection as it is afterwards. -/
inductive Passes (m : Machine) (t : TaskId) :
    Phase → Happening → Phase → Machine → List NetworkCall → Prop where
  | turnOpen {text : String} {values : List Value} {c : ConnectionId}
      (turn : m.turn.holder = some t) (opened : m.handle = some c) :
      Passes m t (.awaitingTurn text values) .granted (.openingCursor c text values) m [.openCursor c]
  | turnClosed {text : String} {values : List Value}
      (turn : m.turn.holder = some t) (vacant : m.handle = none) :
      Passes m t (.awaitingTurn text values) .granted (.awaitingGate (.statement text values)) m []
  | gateOpen {need : Need} {c : ConnectionId}
      (gate : m.gate.holder = some t) (opened : m.handle = some c) :
      Passes m t (.awaitingGate need) .granted (need.given c) m (need.calls c)
  | gateClosed {need : Need} (gate : m.gate.holder = some t) (vacant : m.handle = none)
      (texts : m.options.namesAreTexts = true) :
      Passes m t (.awaitingGate need) .granted (.connecting need) m [.connect m.options]
  | gateRefused {need : Need} (gate : m.gate.holder = some t) (vacant : m.handle = none)
      (texts : m.options.namesAreTexts = false) :
      Passes m t (.awaitingGate need) .granted (.finished (.error (.shape .wrongType))) m []
  | connected {need : Need} :
      Passes m t (.connecting need) (.connected (.ok ())) (need.given (m.opened + 1))
        { m with handle := some (m.opened + 1), opened := m.opened + 1 } (need.calls (m.opened + 1))
  | unconnected {need : Need} {f : Fault} :
      Passes m t (.connecting need) (.connected (.error f)) (.finished (.error f)) m []
  | cursorOpened {c : ConnectionId} {text : String} {values : List Value} :
      Passes m t (.openingCursor c text values) (.cursorOpened (.ok ())) (.executing c) m
        [.execute c text values]
  | cursorRefused {c : ConnectionId} {text : String} {values : List Value} {f : Fault} :
      Passes m t (.openingCursor c text values) (.cursorOpened (.error f)) (.finished (.error f)) m []
  | returnsRows {c : ConnectionId} {done : Completed} {columns : List String}
      (rows : done.rowColumns = some columns) :
      Passes m t (.executing c) (.executed (.ok done)) (.fetching c columns) m [.fetchAll c]
  | written {c : ConnectionId} {done : Completed} (rows : done.rowColumns = none) :
      Passes m t (.executing c) (.executed (.ok done)) (.closingCursor c (.ok (.value done.outcome))) m
        [.closeCursor c]
  | unexecuted {c : ConnectionId} {f : Fault} :
      Passes m t (.executing c) (.executed (.error f)) (.closingCursor c (.error f)) m [.closeCursor c]
  | fetched {c : ConnectionId} {columns : List String} {r : Except Fault (List Value)} :
      Passes m t (.fetching c columns) (.fetched r)
        (.closingCursor c (r.bind fun rows => do
          return .value (.list (← rows.mapM (rowMap columns))))) m [.closeCursor c]
  | cursorClosed {c : ConnectionId} {outcome : Except Fault Outcome} {r : Except Fault Unit} :
      Passes m t (.closingCursor c outcome) (.cursorClosed r)
        (.finished (r.bind fun _ => outcome)) m []
  | turnToClose (turn : m.turn.holder = some t) :
      Passes m t .awaitingTurnToClose .granted .awaitingGateToClose m []
  | shuts {c : ConnectionId} (gate : m.gate.holder = some t) (opened : m.handle = some c) :
      Passes m t .awaitingGateToClose .granted (.disconnecting c) { m with handle := none }
        [.disconnect c]
  | nothingToShut (gate : m.gate.holder = some t) (vacant : m.handle = none) :
      Passes m t .awaitingGateToClose .granted (.finished (.ok .closed)) m []
  | disconnected {c : ConnectionId} {r : Except Fault Unit} :
      Passes m t (.disconnecting c) (.disconnected r) (.finished (r.map fun _ => .closed)) m []

variable {m : Machine} {t : TaskId}

/-- A step passes its task on and does nothing else. -/
def Stepped (m : Machine) (t : TaskId) (p : Phase) (h : Happening) (moved : Moved) : Prop :=
  ∃ p' m', Passes m t p h p' m' moved.calls ∧ moved.machine = m'.place t p p'

theorem reach_stepped {text : String} {values : List Value} (turn : m.turn.holder = some t) :
    Stepped m t (.awaitingTurn text values) .granted (m.reach t (.statement text values)) := by
  rcases m with ⟨options, turns, gate, _ | c, opened, tasks⟩
  · exact ⟨_, _, .turnClosed turn rfl, rfl⟩
  · exact ⟨_, _, .turnOpen turn rfl, rfl⟩

/-- A task that gives up its connection leaves the gate, and its turn if it has one. -/
theorem abandon_machine {need : Need} {f : Fault} {p : Phase}
    (turn : p.inTurn = need.takesTurn) (gate : p.inGate = true) :
    ({ m with gate := m.gate.release }.abandon t f need).machine =
      m.place t p (.finished (.error f)) := by
  unfold place
  rw [turn, gate]
  cases need <;> rfl

theorem abandon_calls (need : Need) (f : Fault) : (m.abandon t f need).calls = [] := by
  cases need <;> rfl

/-- A task that is given its connection leaves the gate. -/
theorem proceed_machine {need : Need} {c : ConnectionId} {p : Phase}
    (turn : p.inTurn = need.takesTurn) (gate : p.inGate = true) :
    ({ m with gate := m.gate.release }.proceed t c need).machine = m.place t p (need.given c) := by
  unfold place
  rw [turn, gate]
  cases need <;> rfl

theorem proceed_calls (c : ConnectionId) (need : Need) :
    (m.proceed t c need).calls = need.calls c := by
  cases need <;> rfl

theorem pass_stepped {need : Need} (gate : m.gate.holder = some t) :
    Stepped m t (.awaitingGate need) .granted (m.pass t need) := by
  rcases m with ⟨options, turns, gates, _ | c, opened, tasks⟩
  · unfold pass
    dsimp only
    split
    · rename_i texts
      refine ⟨_, _, .gateClosed gate rfl texts, ?_⟩
      cases need <;> rfl
    · rename_i texts
      refine ⟨_, _, ?_, abandon_machine (m := ⟨options, turns, gates, none, opened, tasks⟩) rfl rfl⟩
      rw [abandon_calls]
      exact .gateRefused gate rfl (by simpa using texts)
  · refine ⟨_, _, ?_, proceed_machine (m := ⟨options, turns, gates, some c, opened, tasks⟩) rfl rfl⟩
    rw [pass, proceed_calls]
    exact .gateOpen gate rfl

theorem shut_stepped (gate : m.gate.holder = some t) :
    Stepped m t .awaitingGateToClose .granted (m.shut t) := by
  rcases m with ⟨options, turns, gates, _ | c, opened, tasks⟩
  · exact ⟨_, _, .nothingToShut gate rfl, rfl⟩
  · exact ⟨_, _, .shuts gate rfl, rfl⟩

theorem connected_stepped (need : Need) :
    let next :=
      { m with
        handle := some (m.opened + 1), opened := m.opened + 1,
        gate := m.gate.release }.proceed t (m.opened + 1) need
    Stepped m t (.connecting need) (.connected (.ok ()))
      { next with notes := .logged m.openedEvent :: next.notes } := by
  refine ⟨_, { m with handle := some (m.opened + 1), opened := m.opened + 1 }, ?_,
    proceed_machine (m := { m with handle := some (m.opened + 1), opened := m.opened + 1 }) rfl rfl⟩
  cases need <;> exact .connected

theorem step_passes {h : Happening} {moved : Moved} (stepped : m.step t h = some moved) :
    ∃ p, m.tasks[t]? = some p ∧ Stepped m t p h moved := by
  unfold step at stepped
  split at stepped
  · rename_i p stands
    refine ⟨p, stands, ?_⟩
    cases p with
    | awaitingTurn text values =>
      cases h with
      | granted =>
        obtain ⟨turn, same⟩ := Option.ite_none_right_eq_some.mp stepped
        cases same
        exact reach_stepped turn
      | _ => cases stepped
    | awaitingGate need =>
      cases h with
      | granted =>
        obtain ⟨gate, same⟩ := Option.ite_none_right_eq_some.mp stepped
        cases same
        exact pass_stepped gate
      | _ => cases stepped
    | connecting need =>
      cases h with
      | connected r =>
        cases r with
        | ok u =>
          cases stepped
          exact connected_stepped need
        | error f =>
          cases stepped
          refine ⟨_, m, ?_, abandon_machine rfl rfl⟩
          rw [abandon_calls]
          exact .unconnected
      | _ => cases stepped
    | openingCursor c text values =>
      cases h with
      | cursorOpened r =>
        cases r with
        | ok u =>
          cases stepped
          exact ⟨_, _, .cursorOpened, rfl⟩
        | error f =>
          cases stepped
          exact ⟨_, _, .cursorRefused, rfl⟩
      | _ => cases stepped
    | executing c =>
      cases h with
      | executed r =>
        cases r with
        | ok done =>
          cases rows : done.rowColumns with
          | none =>
            simp only [advance, rows] at stepped
            cases stepped
            exact ⟨_, _, .written rows, rfl⟩
          | some columns =>
            simp only [advance, rows] at stepped
            cases stepped
            exact ⟨_, _, .returnsRows rows, rfl⟩
        | error f =>
          cases stepped
          exact ⟨_, _, .unexecuted, rfl⟩
      | _ => cases stepped
    | fetching c columns =>
      cases h with
      | fetched r =>
        cases stepped
        exact ⟨_, _, .fetched, rfl⟩
      | _ => cases stepped
    | closingCursor c outcome =>
      cases h with
      | cursorClosed r =>
        cases stepped
        exact ⟨_, _, .cursorClosed, rfl⟩
      | _ => cases stepped
    | awaitingTurnToClose =>
      cases h with
      | granted =>
        obtain ⟨turn, same⟩ := Option.ite_none_right_eq_some.mp stepped
        cases same
        exact ⟨_, _, .turnToClose turn, rfl⟩
      | _ => cases stepped
    | awaitingGateToClose =>
      cases h with
      | granted =>
        obtain ⟨gate, same⟩ := Option.ite_none_right_eq_some.mp stepped
        cases same
        exact shut_stepped gate
      | _ => cases stepped
    | disconnecting c =>
      cases h with
      | disconnected r =>
        cases stepped
        exact ⟨_, _, .disconnected, rfl⟩
      | _ => cases stepped
    | finished outcome => cases h <;> cases stepped
  · cases stepped

theorem Passes.rest {p p' : Phase} {h : Happening} {m' : Machine} {calls : List NetworkCall}
    (passes : Passes m t p h p' m' calls) :
    m'.options = m.options ∧ m'.turn = m.turn ∧ m'.gate = m.gate ∧ m'.tasks = m.tasks := by
  cases passes <;> exact ⟨rfl, rfl, rfl, rfl⟩

theorem place_task {p p' : Phase} {h : Happening} {m' : Machine} {calls : List NetworkCall}
    (stands : m.tasks[t]? = some p) (passes : Passes m t p h p' m' calls) (u : TaskId) :
    (m'.place t p p').tasks[u]? = if u = t then some p' else m.tasks[u]? := by
  obtain ⟨-, -, -, tasks⟩ := passes.rest
  show (m'.tasks.set t p')[u]? = _
  rw [tasks]
  by_cases own : u = t
  · subst own
    rw [if_pos rfl, List.getElem?_set_self (List.getElem?_eq_some_iff.mp stands).1]
  · rw [if_neg own, List.getElem?_set_ne (Ne.symm own)]

theorem place_length {p p' : Phase} {h : Happening} {m' : Machine} {calls : List NetworkCall}
    (passes : Passes m t p h p' m' calls) :
    (m'.place t p p').tasks.length = m.tasks.length := by
  show (m'.tasks.set t p').length = _
  rw [List.length_set, passes.rest.2.2.2]

/-- Who stands somewhere after a step is the task that took the step, or stood there before. -/
theorem stands_place {p p' q : Phase} {h : Happening} {m' : Machine} {calls : List NetworkCall}
    (stands : m.tasks[t]? = some p) (passes : Passes m t p h p' m' calls) {u : TaskId}
    (there : (m'.place t p p').tasks[u]? = some q) :
    u = t ∧ q = p' ∨ u ≠ t ∧ m.tasks[u]? = some q := by
  rw [place_task stands passes] at there
  split at there
  · exact .inl ⟨‹_›, (Option.some.inj there).symm⟩
  · exact .inr ⟨‹_›, there⟩

/-! ### New tasks -/

/-- Where a task stands when its job has been taken. -/
inductive Enters (m : Machine) : Job → Phase → Prop where
  | statement {text : String} {values : List Value} :
      Enters m (.need (.statement text values)) (.awaitingTurn text values)
  | given {c : ConnectionId} (opened : m.handle = some c) :
      Enters m (.need .connection) (.finished (.ok (.connection c)))
  | waits (vacant : m.handle = none) : Enters m (.need .connection) (.awaitingGate .connection)
  | close : Enters m .close .awaitingTurnToClose

/-- Puts a new task in a place, and into the locks. -/
def enter (m : Machine) (p : Phase) : Machine :=
  { m with
    turn := m.turn.shift m.tasks.length false p.inTurn
    gate := m.gate.shift m.tasks.length false p.inGate
    tasks := m.tasks ++ [p] }

theorem enter_length (m : Machine) (p : Phase) :
    (m.enter p).tasks.length = m.tasks.length + 1 :=
  List.length_append

theorem enter_task (m : Machine) (p : Phase) (u : Nat) :
    (m.enter p).tasks[u]? = if u = m.tasks.length then some p else m.tasks[u]? := by
  show (m.tasks ++ [p])[u]? = _
  by_cases own : u = m.tasks.length
  · subst own
    rw [if_pos rfl, List.getElem?_concat_length]
  · rw [if_neg own, List.getElem?_append]
    split
    · rfl
    · rw [List.getElem?_eq_none (l := m.tasks) (by omega)]
      exact List.getElem?_eq_none (by rw [List.length_singleton]; omega)

theorem stands_enter {p q : Phase} {u : Nat} (there : (m.enter p).tasks[u]? = some q) :
    u = m.tasks.length ∧ q = p ∨ u ≠ m.tasks.length ∧ m.tasks[u]? = some q := by
  rw [enter_task] at there
  split at there
  · exact .inl ⟨‹_›, (Option.some.inj there).symm⟩
  · exact .inr ⟨‹_›, there⟩

theorem submit_enters (m : Machine) (job : Job) :
    ∃ p, Enters m job p ∧ m.submit job = ⟨m.enter p, []⟩ := by
  have last (p p' : Phase) : (m.tasks ++ [p]).set m.tasks.length p' = m.tasks ++ [p'] := by
    rw [List.set_append_right _ _ (Nat.le_refl _), Nat.sub_self]
    rfl
  cases job with
  | need need =>
    cases need with
    | statement text values => exact ⟨_, .statement, rfl⟩
    | connection =>
      rcases m with ⟨options, turns, gates, _ | c, opened, tasks⟩
      · refine ⟨_, .waits rfl, ?_⟩
        simp only [submit, reach, put, last]
        rfl
      · refine ⟨_, .given rfl, ?_⟩
        simp only [submit, reach, proceed, finish, put, last]
        rfl
  | close => exact ⟨_, .close, rfl⟩

end Machine

end TableQuery

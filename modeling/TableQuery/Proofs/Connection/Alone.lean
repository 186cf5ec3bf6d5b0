import TableQuery.Proofs.Connection.Account
import TableQuery.Proofs.Connection.Progress

/-!
# Statements by themselves

When a statement is asked for and no other task holds a lock, what it comes to depends on the
replies of the network and on whether there is a connection. `call_statement` follows it through all its
replies: it ends, both locks are free again, and there is a connection unless there was none and
none could be opened.
-/

namespace TableQuery

/-- What the network replies to a statement, call by call. -/
structure Responses where
  connect : Except Fault Unit := .ok ()
  cursor : Except Fault Unit := .ok ()
  statement : Except Fault Completed
  rows : Except Fault (List Value) := .ok []
  close : Except Fault Unit := .ok ()

namespace Responses

/-- What happens to a task, one after another. Whatever it does not wait for cannot happen. -/
def happenings (r : Responses) : List Happening :=
  [.granted, .granted, .connected r.connect, .cursorOpened r.cursor, .executed r.statement,
    .fetched r.rows, .cursorClosed r.close]

/-- The rows as maps, or what is known of a write. -/
def result (r : Responses) : Except Fault Outcome := do
  let done ← r.statement
  match done.rowColumns with
  | some columns => return .value (.list (← (← r.rows).mapM (rowMap columns)))
  | none => return .value done.outcome

section

variable {r : Responses} {done : Completed} {columns : List String} {f : Fault}

theorem result_read (statement : r.statement = .ok done) (rows : done.rowColumns = some columns) :
    r.result = r.rows.bind fun rows => do
      return .value (.list (← rows.mapM (rowMap columns))) := by
  simp only [result, statement, ok_bind, rows]
  rfl

theorem result_written (statement : r.statement = .ok done) (rows : done.rowColumns = none) :
    r.result = .ok (.value done.outcome) := by
  simp only [result, statement, ok_bind, rows]
  rfl

theorem result_failed (statement : r.statement = .error f) : r.result = .error f := by
  rw [result, statement, error_bind]

end

/-- What a statement comes to: the first failure, but that of closing the cursor goes before that of
what was done with it. -/
def outcome (r : Responses) : Except Fault Outcome := do
  r.connect
  r.cursor
  r.close
  r.result

/-- The replies to a machine, which opens a connection if it has none. Options whose names are not
texts cannot be handed over. -/
def on (r : Responses) (m : Machine) : Responses :=
  if m.handle.isSome then { r with connect := .ok () }
  else if m.options.namesAreTexts then r
  else { r with connect := .error (.shape .wrongType) }

/-- The connection that there is afterwards. -/
def handle (r : Responses) (m : Machine) : Option ConnectionId :=
  m.handle.or (if (r.on m).connect.toBool then some (m.opened + 1) else none)

end Responses

namespace Machine

variable {m m' : Machine} {t : TaskId} {p p' : Phase} {h : Happening} {calls : List NetworkCall}

/-- A task stands in a place, and nobody else in the line of a lock. -/
structure Alone (m : Machine) (t : TaskId) (p : Phase) : Prop where
  stands : m.tasks[t]? = some p
  turn : m.turn = ({} : Lock).shift t false p.inTurn
  gate : m.gate = ({} : Lock).shift t false p.inGate

theorem shift_shift (t : TaskId) (before after : Bool) :
    (({} : Lock).shift t false before).shift t before after = ({} : Lock).shift t false after := by
  cases before <;> cases after <;> rfl

theorem Alone.turn_holder (alone : m.Alone t p) (line : p.inTurn = true) : m.turn.holder = some t := by
  rw [alone.turn, line]
  rfl

theorem Alone.gate_holder (alone : m.Alone t p) (line : p.inGate = true) : m.gate.holder = some t := by
  rw [alone.gate, line]
  rfl

theorem Alone.free {o : Except Fault Outcome} (alone : m.Alone t (.finished o)) :
    m.turn = {} ∧ m.gate = {} :=
  ⟨alone.turn, alone.gate⟩

theorem Alone.place (alone : m.Alone t p) (passes : Passes m t p h p' m' calls) :
    (m'.place t p p').Alone t p' where
  stands := by rw [place_task alone.stands passes, if_pos rfl]
  turn := by
    show m'.turn.shift t p.inTurn p'.inTurn = _
    rw [passes.rest.2.1, alone.turn, shift_shift]
  gate := by
    show m'.gate.shift t p.inGate p'.inGate = _
    rw [passes.rest.2.2.1, alone.gate, shift_shift]

theorem Alone.enter (turn : m.turn = {}) (gate : m.gate = {}) (p : Phase) :
    (m.enter p).Alone m.tasks.length p where
  stands := by rw [enter_task, if_pos rfl]
  turn := by
    show m.turn.shift m.tasks.length false p.inTurn = _
    rw [turn]
  gate := by
    show m.gate.shift m.tasks.length false p.inGate = _
    rw [gate]

/-- Nothing keeps a task from going on. -/
theorem Alone.passes (alone : m.Alone t p) (awaits : p.Awaits h) :
    ∃ moved, m.step t h = some moved := by
  have unfinished : p.Unfinished := by
    rintro r rfl
    cases h <;> exact awaits
  obtain ⟨q, stands, -, steps⟩ := ready_of_locks alone.stands unfinished
    (fun line _ => alone.turn_holder line) alone.gate_holder
  rw [alone.stands] at stands
  cases stands
  exact steps h awaits

/-- Only what a task waits for is a step of it. -/
theorem Passes.awaits (passes : Passes m t p h p' m' calls) : p.Awaits h := by
  cases passes with
  | turnOpen | turnClosed | gateOpen | gateClosed | gateRefused => rfl
  | turnToClose | shuts | nothingToShut => rfl
  | _ => exact ⟨_, rfl⟩

end Machine

namespace History

variable {s : History} {t : TaskId} {p : Phase} {h : Happening}

/-- Tells a task what happens, one after another. -/
def tell (s : History) (t : TaskId) (hs : List Happening) : History := s.run (hs.map (.happens t))

/-- A task that is told what happens ends with an outcome and leaves a connection. -/
structure Ends (s : History) (t : TaskId) (hs : List Happening) (o : Except Fault Outcome)
    (handle : Option ConnectionId) : Prop where
  alone : (s.tell t hs).machine.Alone t (.finished o)
  handle : (s.tell t hs).machine.handle = handle

variable {hs : List Happening} {o : Except Fault Outcome} {handle : Option ConnectionId}
  {r : Responses}

theorem act_passes (alone : s.machine.Alone t p) (awaits : p.Awaits h) :
    ∃ p' m' calls, s.machine.Passes t p h p' m' calls ∧
      s.act (.happens t h) = ⟨m'.place t p p', s.calls ++ calls⟩ := by
  obtain ⟨moved, stepped⟩ := alone.passes awaits
  obtain ⟨q, p', m', stands, passes, acted⟩ := s.act_passed stepped
  rw [alone.stands] at stands
  cases stands
  exact ⟨p', m', _, passes, acted⟩

/-- What a task waits for leads it on, to where it goes on being told. -/
theorem ends_step (alone : s.machine.Alone t p) (awaits : p.Awaits h)
    (next : ∀ {p' m' calls}, s.machine.Passes t p h p' m' calls → (m'.place t p p').Alone t p' →
      (History.mk (m'.place t p p') (s.calls ++ calls)).Ends t hs o handle) :
    s.Ends t (h :: hs) o handle := by
  obtain ⟨p', m', calls, passes, acted⟩ := act_passes alone awaits
  have later : (s.act (.happens t h)).Ends t hs o handle := by
    rw [acted]
    exact next passes (alone.place passes)
  exact ⟨later.alone, later.handle⟩

/-- What a task does not wait for changes nothing. -/
theorem ends_skip (alone : s.machine.Alone t p) (other : ¬ p.Awaits h)
    (next : s.Ends t hs o handle) : s.Ends t (h :: hs) o handle := by
  have stuck : s.machine.step t h = none := by
    refine Option.eq_none_iff_forall_ne_some.mpr fun moved stepped => ?_
    obtain ⟨q, stands, p', m', passes, -⟩ := Machine.step_passes stepped
    rw [alone.stands] at stands
    cases stands
    exact other passes.awaits
  have same : s.tell t (h :: hs) = s.tell t hs := congrArg (·.tell t hs) (s.act_stuck stuck)
  refine ⟨?_, ?_⟩
  · rw [same]
    exact next.alone
  · rw [same]
    exact next.handle

theorem ends_finished (alone : s.machine.Alone t (.finished o)) (hs : List Happening) :
    s.Ends t hs o s.machine.handle := by
  induction hs with
  | nil => exact ⟨alone, rfl⟩
  | cons h hs ih => exact ends_skip alone (fun awaits => by cases h <;> exact awaits) ih

theorem ends_closing {c : ConnectionId} (alone : s.machine.Alone t (.closingCursor c o))
    (close : Except Fault Unit) :
    s.Ends t [.cursorClosed close] (close.bind fun _ => o) s.machine.handle := by
  refine ends_step alone ⟨close, rfl⟩ fun passes alone => ?_
  cases passes
  exact ends_finished alone []

theorem ends_fetching {c : ConnectionId} {columns : List String}
    (alone : s.machine.Alone t (.fetching c columns)) (r : Responses) :
    s.Ends t [.fetched r.rows, .cursorClosed r.close]
      (r.close.bind fun _ => r.rows.bind fun rows => do
        return .value (.list (← rows.mapM (rowMap columns)))) s.machine.handle := by
  refine ends_step alone ⟨r.rows, rfl⟩ fun passes alone => ?_
  cases passes
  exact ends_closing alone r.close

theorem ends_executing {c : ConnectionId} (alone : s.machine.Alone t (.executing c))
    (r : Responses) :
    s.Ends t [.executed r.statement, .fetched r.rows, .cursorClosed r.close]
      (r.close.bind fun _ => r.result) s.machine.handle := by
  refine ends_step alone ⟨r.statement, rfl⟩ fun passes alone => ?_
  have unread {c : ConnectionId} {o : Except Fault Outcome} :
      ¬ (Phase.closingCursor c o).Awaits (.fetched r.rows) := by
    rintro ⟨close, never⟩
    cases never
  generalize told : r.statement = answer at passes
  cases passes with
  | returnsRows rows =>
    rw [Responses.result_read told rows]
    exact ends_fetching alone r
  | written rows =>
    rw [Responses.result_written told rows]
    exact ends_skip alone unread (ends_closing alone r.close)
  | unexecuted =>
    rw [Responses.result_failed told]
    exact ends_skip alone unread (ends_closing alone r.close)

/-- A statement on a connection leaves the connection as it is, whatever the network replies. -/
theorem ends_opening {c : ConnectionId} {text : String} {values : List Value}
    (alone : s.machine.Alone t (.openingCursor c text values)) (r : Responses) :
    s.Ends t [.cursorOpened r.cursor, .executed r.statement, .fetched r.rows, .cursorClosed r.close]
      (r.cursor.bind fun _ => r.close.bind fun _ => r.result) s.machine.handle := by
  refine ends_step alone ⟨r.cursor, rfl⟩ fun passes alone => ?_
  generalize r.cursor = answer at passes ⊢
  cases passes with
  | cursorOpened => exact ends_executing alone r
  | cursorRefused => exact ends_finished alone _

theorem ends_connecting {text : String} {values : List Value}
    (alone : s.machine.Alone t (.connecting (.statement text values)))
    (vacant : s.machine.handle = none) (r : Responses) :
    s.Ends t [.connected r.connect, .cursorOpened r.cursor, .executed r.statement, .fetched r.rows,
        .cursorClosed r.close]
      (r.connect.bind fun _ => r.cursor.bind fun _ => r.close.bind fun _ => r.result)
      (if r.connect.toBool then some (s.machine.opened + 1) else none) := by
  refine ends_step alone ⟨r.connect, rfl⟩ fun passes alone => ?_
  generalize r.connect = answer at passes ⊢
  cases passes with
  | connected => exact ends_opening alone r
  | unconnected =>
    rw [← vacant]
    exact ends_finished alone _

theorem ends_gate {text : String} {values : List Value}
    (alone : s.machine.Alone t (.awaitingGate (.statement text values)))
    (vacant : s.machine.handle = none) (r : Responses) :
    s.Ends t r.happenings.tail (r.on s.machine).outcome (r.handle s.machine) := by
  refine ends_step alone rfl fun passes alone => ?_
  cases passes with
  | gateOpen gate opened =>
    rw [vacant] at opened
    cases opened
  | gateClosed gate vacant texts =>
    have asked : r.on s.machine = r := by simp [Responses.on, vacant, texts]
    rw [Responses.handle, asked, vacant]
    exact ends_connecting (s := ⟨_, s.calls ++ _⟩) alone vacant r
  | gateRefused gate vacant texts =>
    have refused : r.on s.machine = { r with connect := .error (.shape .wrongType) } := by
      simp [Responses.on, vacant, texts]
    rw [Responses.handle, refused, vacant]
    have ended := ends_finished (s := ⟨_, s.calls ++ []⟩) alone r.happenings.tail.tail
    exact ⟨ended.alone, ended.handle.trans vacant⟩

theorem ends_turn {text : String} {values : List Value}
    (alone : s.machine.Alone t (.awaitingTurn text values)) (r : Responses) :
    s.Ends t r.happenings (r.on s.machine).outcome (r.handle s.machine) := by
  refine ends_step alone rfl fun passes alone => ?_
  cases passes with
  | @turnOpen _ _ c turn opened =>
    have unasked : r.on s.machine = { r with connect := .ok () } := by simp [Responses.on, opened]
    rw [Responses.handle, unasked, opened]
    -- There is nothing to wait for before the cursor.
    have granted : ¬ (Phase.openingCursor c text values).Awaits .granted := nofun
    have connected : ¬ (Phase.openingCursor c text values).Awaits (.connected r.connect) := nofun
    have ended := ends_opening (s := ⟨_, s.calls ++ [.openCursor c]⟩) alone r
    have ended := ends_skip alone granted (ends_skip alone connected ended)
    exact ⟨ended.alone, ended.handle.trans opened⟩
  | turnClosed turn vacant => exact ends_gate (s := ⟨_, s.calls ++ []⟩) alone vacant r

/-- A request comes in, and its task is told what the network replies. -/
def call (s : History) (q : Request) (r : Responses) : History :=
  (s.act (.request q)).tell s.machine.tasks.length r.happenings

theorem run_call (s : History) (q : Request) (r : Responses) :
    s.run (.request q :: r.happenings.map (.happens s.machine.tasks.length)) = s.call q r := by
  rw [call, tell, run, run, List.foldl_cons]

/-- A statement that nobody else is in the way of ends, with both locks free. -/
theorem call_statement (turn : s.machine.turn = {}) (gate : s.machine.gate = {}) {sql : String}
    {params : Value} {job : Job} (read : (Request.execute sql params).job = .ok job) (r : Responses) :
    let s' := s.call (.execute sql params) r
    s'.machine.tasks[s.machine.tasks.length]? = some (.finished (r.on s.machine).outcome) ∧
      s'.machine.turn = {} ∧ s'.machine.gate = {} ∧ s'.machine.handle = r.handle s.machine := by
  obtain ⟨text, values, rfl, -⟩ := Request.job_execute read
  obtain ⟨p, enters, entered⟩ := s.act_entered read
  cases enters
  dsimp only [call]
  have alone := Machine.Alone.enter turn gate (.awaitingTurn text values)
  have ended : (s.act (.request (.execute sql params))).Ends s.machine.tasks.length r.happenings
      (r.on s.machine).outcome (r.handle s.machine) := by
    rw [entered]
    exact ends_turn (s := ⟨_, s.calls⟩) alone r
  obtain ⟨turn', gate'⟩ := ended.alone.free
  exact ⟨ended.alone.stands, turn', gate', ended.handle⟩

end History

end TableQuery

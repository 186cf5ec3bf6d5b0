import TableQuery.Proofs.Connection.Alone
import TableQuery.Proofs.Connection.Turns

/-!
# Cursors and locks after a statement

A statement closes the cursor that it was given before it leaves its turn, and stands in no line when
it has ended, whatever failed. Nothing that happens to it after the connection was opened changes
the connection, so that until the connection is closed all statements use one. `run_cleans_up` is
the main statement.
-/

namespace TableQuery

namespace NetworkCall

def opensCursor? : NetworkCall → Option ConnectionId
  | .openCursor c => some c
  | _ => none

def closesCursor? : NetworkCall → Option ConnectionId
  | .closeCursor c => some c
  | _ => none

/-- The connection that a statement uses with a call. -/
def on? : NetworkCall → Option ConnectionId
  | .openCursor c => some c
  | .execute c .. => some c
  | .fetchAll c => some c
  | .closeCursor c => some c
  | _ => none

end NetworkCall

namespace Happening

def givesCursor : Happening → Bool
  | .cursorOpened (.ok _) => true
  | _ => false

def endsCursor : Happening → Bool
  | .cursorClosed _ => true
  | _ => false

def connected? : Happening → Option (Except Fault Unit)
  | .connected r => some r
  | _ => none

def cursorOpened? : Happening → Option (Except Fault Unit)
  | .cursorOpened r => some r
  | _ => none

def executed? : Happening → Option (Except Fault Completed)
  | .executed r => some r
  | _ => none

def fetched? : Happening → Option (Except Fault (List Value))
  | .fetched r => some r
  | _ => none

def cursorClosed? : Happening → Option (Except Fault Unit)
  | .cursorClosed r => some r
  | _ => none

end Happening

/-- The replies among what a task was told. If nothing was heard of a connection, there was one. -/
def Responses.told (hs : List Happening) : Responses where
  connect := (hs.findSome? Happening.connected?).getD (.ok ())
  cursor := (hs.findSome? Happening.cursorOpened?).getD (.ok ())
  statement := (hs.findSome? Happening.executed?).getD (.error (.shape .wrongType))
  rows := (hs.findSome? Happening.fetched?).getD (.ok [])
  close := (hs.findSome? Happening.cursorClosed?).getD (.ok ())

/-- A statement has a cursor closed that it was given, and no other, and comes to the replies that
it was told. -/
structure Tidy (hs : List Happening) (cs : List NetworkCall) (p : Phase) : Prop where
  unopened : hs.any Happening.givesCursor = false → cs.filterMap NetworkCall.closesCursor? = []
  held : hs.any Happening.givesCursor = true → p.hasTurn = true ∨ ∃ o, p = .finished o
  closed : ∀ o, p = .finished o → hs.any Happening.givesCursor = true →
    hs.any Happening.endsCursor = true ∧ ∃ c, cs.filterMap NetworkCall.opensCursor? = [c] ∧
      cs.filterMap NetworkCall.closesCursor? = [c]
  outcome : ∀ o, p = .finished o → o = (Responses.told hs).outcome

section

variable {options : Options} {text : String} {values : List Value} {hs rs : List Happening}
  {cs fs : List NetworkCall} {c : ConnectionId} {p : Phase} {o : Except Fault Outcome}

/-- On its way to a connection a statement has nothing to do with a cursor. -/
theorem Way.before (way : Way options (.statement text values) hs cs) :
    hs.any Happening.givesCursor = false ∧ cs.filterMap NetworkCall.opensCursor? = [] ∧
      cs.filterMap NetworkCall.closesCursor? = [] := by
  cases way <;> exact ⟨rfl, rfl, rfl⟩

theorem Way.told (way : Way options (.statement text values) hs cs)
    (later : rs.findSome? Happening.connected? = none) :
    Responses.told (hs ++ rs) = Responses.told rs := by
  cases way <;> simp [Responses.told, Need.start, List.findSome?_cons, later,
    Happening.connected?, Happening.cursorOpened?, Happening.executed?, Happening.fetched?,
    Happening.cursorClosed?]

theorem Ran.calls (ran : Ran c rs fs o) :
    fs.filterMap NetworkCall.opensCursor? = [] ∧ fs.filterMap NetworkCall.closesCursor? = [] := by
  cases ran <;> exact ⟨rfl, rfl⟩

theorem Ran.unconnected (ran : Ran c rs fs o) (r : Except Fault Unit) :
    (.cursorOpened (.ok ()) :: rs ++ [Happening.cursorClosed r]).findSome? Happening.connected? =
      none := by
  cases ran <;> rfl

theorem Ran.told (ran : Ran c rs fs o) (r : Except Fault Unit) :
    (Responses.told (.cursorOpened (.ok ()) :: rs ++ [.cursorClosed r])).outcome =
      r.bind fun _ => o := by
  cases ran with
  | failed => cases r <;> rfl
  | @wrote done rows =>
    have told : Responses.told [.cursorOpened (.ok ()), .executed (.ok done), .cursorClosed r] =
        { statement := .ok done, close := r } := rfl
    rw [List.cons_append, List.cons_append, List.nil_append, told]
    cases r with
    | error f => rfl
    | ok u =>
      exact Responses.result_written (r := { statement := .ok done, close := .ok u }) rfl rows
  | @read done columns rows answer =>
    have told : Responses.told [.cursorOpened (.ok ()), .executed (.ok done), .fetched answer,
        .cursorClosed r] = { statement := .ok done, rows := answer, close := r } := rfl
    rw [List.cons_append, List.cons_append, List.cons_append, List.nil_append, told]
    cases r with
    | error f => rfl
    | ok u =>
      exact Responses.result_read
        (r := { statement := .ok done, rows := answer, close := .ok u }) rfl rows

/-- Before a statement is given a cursor it is enough that it closes none. -/
theorem Tidy.before (silent : hs.any Happening.givesCursor = false)
    (closes : cs.filterMap NetworkCall.closesCursor? = [])
    (outcome : ∀ o, p = .finished o → o = (Responses.told hs).outcome) : Tidy hs cs p where
  unopened _ := closes
  held given := by
    rw [silent] at given
    cases given
  closed _ _ given := by
    rw [silent] at given
    cases given
  outcome := outcome

/-- A statement in its turn has not come to anything yet. -/
theorem Tidy.inTurn (turn : p.hasTurn = true) (going : ∀ o, p ≠ .finished o)
    (closes : hs.any Happening.givesCursor = false →
      cs.filterMap NetworkCall.closesCursor? = []) : Tidy hs cs p where
  unopened := closes
  held _ := .inl turn
  closed o ended := (going o ended).elim
  outcome o ended := (going o ended).elim

theorem Along.tidy (along : Along options (.need (.statement text values)) hs cs p) :
    Tidy hs cs p := by
  cases along with
  | turn => exact .before rfl rfl nofun
  | gate => exact .before rfl rfl nofun
  | connecting => exact .before rfl rfl nofun
  | unnamed texts =>
    refine .before rfl rfl ?_
    rintro o ⟨⟩
    rfl
  | unconnected =>
    refine .before rfl rfl ?_
    rintro o ⟨⟩
    rfl
  | opening way =>
    obtain ⟨silent, -, closes⟩ := way.before
    refine .before silent ?_ nofun
    rw [List.filterMap_append, closes]
    rfl
  | cursorRefused way =>
    obtain ⟨silent, -, closes⟩ := way.before
    refine .before ?_ ?_ ?_
    · rw [List.any_append, silent]
      rfl
    · rw [List.filterMap_append, closes]
      rfl
    · rintro o ⟨⟩
      rw [way.told rfl]
      rfl
  | executing way =>
    refine .inTurn rfl nofun fun _ => ?_
    rw [List.filterMap_append, List.filterMap_append, way.before.2.2]
    rfl
  | fetching way rows =>
    refine .inTurn rfl nofun fun _ => ?_
    rw [List.filterMap_append, List.filterMap_append, List.filterMap_append, way.before.2.2]
    rfl
  | closing way ran =>
    refine .inTurn rfl nofun fun never => ?_
    simp [Happening.givesCursor] at never
  | @ran hs rs cs fs c _ _ o way ran r =>
    obtain ⟨-, opens, closes⟩ := way.before
    obtain ⟨opens', closes'⟩ := ran.calls
    refine ⟨fun never => ?_, fun _ => .inr ⟨_, rfl⟩, fun o ended given => ⟨?_, c, ?_, ?_⟩, ?_⟩
    · simp [Happening.givesCursor] at never
    · simp [Happening.endsCursor]
    · simp only [List.filterMap_append, opens, opens']
      rfl
    · simp only [List.filterMap_append, closes, closes']
      rfl
    · rintro o ⟨⟩
      have same : hs ++ [.cursorOpened (.ok ())] ++ rs ++ [.cursorClosed r] =
          hs ++ (.cursorOpened (.ok ()) :: rs ++ [.cursorClosed r]) := by simp
      rw [same, way.told (ran.unconnected r), ran.told]

end

namespace Phase

/-- The task is there to close the connection. -/
def closes : Phase → Bool
  | .awaitingTurnToClose => true
  | .awaitingGateToClose => true
  | .disconnecting _ => true
  | _ => false

end Phase

namespace Machine

variable {m m' : Machine} {t : TaskId} {p p' : Phase} {h : Happening} {calls : List NetworkCall}
  {c : ConnectionId}

/-- Nothing that happens to a statement with a connection changes the connection. -/
theorem Passes.handle_of_cursorOn? (passes : Passes m t p h p' m' calls)
    (cursor : p.cursorOn? = some c) : m'.handle = m.handle := by
  cases passes with
  | connected | shuts => cases cursor
  | _ => rfl

/-- Nobody is there to close the connection. -/
def Staying (m : Machine) : Prop := ∀ (t : TaskId) p, m.tasks[t]? = some p → p.closes = false

theorem Passes.closes (passes : Passes m t p h p' m' calls) (stays : p.closes = false) :
    p'.closes = false := by
  cases passes with
  | @gateOpen need | @connected need => cases need <;> rfl
  | turnToClose | shuts => cases stays
  | _ => rfl

/-- Whoever does not close the connection leaves the one that there is. -/
theorem Passes.stays (passes : Passes m t p h p' m' calls) (stays : p.closes = false)
    (opened : m.handle = some c) (vacant : p.hasGate = true → m.handle = none) :
    m'.handle = some c := by
  cases passes with
  | connected =>
    rw [vacant rfl] at opened
    cases opened
  | shuts => cases stays
  | _ => exact opened

/-- A statement uses the connection that there is. -/
theorem Passes.on (passes : Passes m t p h p' m' calls)
    (served : ∀ c, p.cursorOn? = some c → m.handle = some c) {call : NetworkCall}
    (made : call ∈ calls) (on : call.on? = some c) : m'.handle = some c := by
  cases passes with
  | @gateOpen need c' gate opened =>
    cases need with
    | statement text values =>
      cases List.mem_singleton.mp made
      cases on
      exact opened
    | connection => cases made
  | @connected need =>
    cases need with
    | statement text values =>
      cases List.mem_singleton.mp made
      cases on
      rfl
    | connection => cases made
  | turnOpen turn opened =>
    cases List.mem_singleton.mp made
    cases on
    exact opened
  | cursorOpened | returnsRows | written | unexecuted | fetched =>
    cases List.mem_singleton.mp made
    cases on
    exact served _ rfl
  | gateClosed | shuts =>
    cases List.mem_singleton.mp made
    cases on
  | _ => cases made

end Machine

namespace History

variable {s : History} {t : TaskId} {p : Phase} {c : ConnectionId}

/-- The connection stays, and every call of a statement is on it. -/
structure Stays (s s' : History) (log : List Entry) : Prop where
  handle : ∀ c, s.machine.handle = some c → s'.machine.handle = some c
  calls : ∀ e ∈ log, ∀ call ∈ e.calls, ∀ c, call.on? = some c → s'.machine.handle = some c

/-- Where nothing is called for, it is enough that the connection is the same. -/
theorem stays_of_handle {s' : History} (same : s'.machine.handle = s.machine.handle) :
    s.Stays s' [] where
  handle _ opened := same.trans opened
  calls _ never := (List.not_mem_nil never).elim

theorem act_stays (s : History) {a : Action} (kept : a ≠ .request .close) (sound : s.machine.Sound)
    (served : s.machine.Served) (staying : s.machine.Staying) :
    (s.act a).machine.Served ∧ (s.act a).machine.Staying ∧ s.Stays (s.act a) (s.entries a) := by
  have recorded := s.act_recorded a
  generalize s.act a = s' at recorded
  generalize s.entries a = es at recorded
  generalize a.issued = rs at recorded
  cases recorded with
  | @enters r job p read enters =>
    refine ⟨Machine.enter_served served enters, fun u q there => ?_, stays_of_handle rfl⟩
    rcases Machine.stands_enter there with ⟨-, rfl⟩ | ⟨-, there⟩
    · cases enters with
      | close =>
        cases r with
        | close => exact (kept rfl).elim
        | connection => cases read
        | execute sql params =>
          obtain ⟨text, values, never, -⟩ := Request.job_execute read
          cases never
      | _ => rfl
    · exact staying u q there
  | @passes t h p p' m' calls stands passes =>
    refine ⟨Machine.place_served sound served stands passes, fun u q there => ?_, fun c opened => ?_,
      fun e member call made c on => ?_⟩
    · rcases Machine.stands_place stands passes there with ⟨-, rfl⟩ | ⟨-, there⟩
      · exact passes.closes (staying t p stands)
      · exact staying u q there
    · exact passes.stays (staying t p stands) opened (sound.vacant t p stands)
    · cases List.mem_singleton.mp member
      exact passes.on (fun c cursor => served t p c stands cursor) made on
  | stays => exact ⟨served, staying, stays_of_handle rfl⟩

/-- Until the connection is asked to close, all statements use one. -/
theorem run_stays (later : List Action) {s : History} (kept : ∀ a ∈ later, a ≠ .request .close)
    (sound : s.machine.Sound) (served : s.machine.Served) (staying : s.machine.Staying) :
    s.Stays (s.run later) (s.record later) := by
  induction later generalizing s with
  | nil => exact stays_of_handle rfl
  | cons a as ih =>
    obtain ⟨served', staying', first⟩ :=
      s.act_stays (kept a List.mem_cons_self) sound served staying
    have rest := ih (fun b member => kept b (List.mem_cons_of_mem a member)) (s.act_sound a sound)
      served' staying'
    refine ⟨fun c opened => rest.handle c (first.handle c opened), fun e member => ?_⟩
    rcases List.mem_append.mp member with now | later
    · exact fun call made c on => rest.handle c (first.calls e now call made c on)
    · exact rest.calls e later

/-- A lock with nobody in its line is free. -/
theorem free_of_line {l : Lock} (empty : l.line = []) : l = {} := by
  obtain ⟨holder, waiting⟩ := l
  obtain ⟨unheld, nobody⟩ := List.append_eq_nil_iff.mp empty
  cases holder with
  | none => exact congrArg (Lock.mk none) nobody
  | some t => cases unheld

/-- A task that has ended stands in the line of neither lock. -/
theorem outside {o : Except Fault Outcome} (sound : s.machine.Sound)
    (ended : s.machine.tasks[t]? = some (.finished o)) :
    t ∉ s.machine.turn.line ∧ t ∉ s.machine.gate.line := by
  rw [sound.turn.member, sound.gate.member, ended]
  refine ⟨?_, ?_⟩ <;>
    · rintro ⟨p, same, inside⟩
      cases same
      cases inside

theorem locks_free (sound : s.machine.Sound)
    (ended : ∀ (t : TaskId) p, s.machine.tasks[t]? = some p → ∃ o, p = .finished o) :
    s.machine.turn = {} ∧ s.machine.gate = {} := by
  have out (t : TaskId) (p : Phase) (stands : s.machine.tasks[t]? = some p) :
      t ∉ s.machine.turn.line ∧ t ∉ s.machine.gate.line := by
    obtain ⟨o, rfl⟩ := ended t p stands
    exact outside sound stands
  refine ⟨free_of_line (List.eq_nil_iff_forall_not_mem.mpr fun t there => ?_),
    free_of_line (List.eq_nil_iff_forall_not_mem.mpr fun t there => ?_)⟩
  · obtain ⟨p, stands, -⟩ := (sound.turn.member t).mp there
    exact (out t p stands).1 there
  · obtain ⟨p, stands, -⟩ := (sound.gate.member t).mp there
    exact (out t p stands).2 there

theorem act_cursor (h : Happening) (stands : s.machine.tasks[t]? = some p)
    (cursor : p.cursorOn? = some c) : (s.act (.happens t h)).machine.handle = s.machine.handle := by
  have acts := s.act_acts (.happens t h)
  generalize s.act (.happens t h) = s' at acts
  cases acts with
  | passes there passes =>
    rw [stands] at there
    cases there
    exact passes.handle_of_cursorOn? cursor
  | stays => rfl

/-! ### Every history -/

/-- In every history a statement that was given a cursor has its turn until the cursor is closed,
which is asked for once, and one that was given none closes none. It ends with what it was told: the
first failure, but that of closing the cursor before that of what was done with it, or else the rows
or what is known of a write; then it stands in the line of neither lock. When all tasks have ended,
both locks are free. Nothing that happens to a statement on a connection changes the connection, and
until it is asked to close all statements are on one. A statement that comes in when both locks are
free ends, however the network replies, with both locks free and the connection there, if there was
one or one could be opened. -/
theorem run_cleans_up (options : Options) (as : List Action) :
    let start : History := { machine := { options } }
    let s := start.run as
    let log := start.record as
    (∀ (t : Nat) sql params, (issued as)[t]? = some (.execute sql params) →
      ∃ p, s.machine.tasks[t]? = some p ∧ Tidy (told log t) (made log t) p ∧
        (p.hasTurn = true → s.machine.turn.holder = some t) ∧
        ∀ o, p = .finished o → t ∉ s.machine.turn.line ∧ t ∉ s.machine.gate.line) ∧
    ((∀ (t : TaskId) p, s.machine.tasks[t]? = some p → ∃ o, p = .finished o) →
      s.machine.turn = {} ∧ s.machine.gate = {}) ∧
    (∀ (t : TaskId) p c h, s.machine.tasks[t]? = some p → p.cursorOn? = some c →
      s.machine.handle = some c ∧ (s.act (.happens t h)).machine.handle = some c) ∧
    (∀ later, s.machine.Staying → (∀ a ∈ later, a ≠ .request .close) →
      s.Stays (s.run later) (s.record later)) ∧
    (s.machine.turn = {} → s.machine.gate = {} → ∀ sql params job,
      (Request.execute sql params).job = .ok job → ∀ r : Responses,
      let s' := s.call (.execute sql params) r
      s'.machine.tasks[s.machine.tasks.length]? = some (.finished (r.on s.machine).outcome) ∧
        s'.machine.turn = {} ∧ s'.machine.gate = {} ∧ s'.machine.handle = r.handle s.machine) := by
  intro start s log
  have sound : s.machine.Sound := sound_run options as
  have served : s.machine.Served := served_run options as
  refine ⟨fun t sql params asked => ?_, locks_free sound, fun t p c h stands cursor => ?_,
    fun later staying kept => run_stays later kept sound served staying,
    fun turn gate sql params job read r => call_statement turn gate read r⟩
  · obtain ⟨job, p, read, stands, along⟩ := (along_run options as).along t _ asked
    obtain ⟨text, values, rfl, -⟩ := Request.job_execute read
    refine ⟨p, stands, along.tidy, sound.turn.held t p stands, ?_⟩
    rintro o rfl
    exact outside sound stands
  · have opened := served t p c stands cursor
    exact ⟨opened, (act_cursor h stands cursor).trans opened⟩

/-- The rows of a statement cannot be fetched, and its cursor cannot be closed. The next statement is
on the same connection. -/
theorem run_cleans_up_close_fails :
    let options : Options :=
      [(.text "host", .text "localhost"), (.text "port", .int 3306), (.text "user", .text "app"),
        (.text "password", .text "secret"), (.text "database", .text "shop")]
    let lost : Fault := .raised (.other "OSError" "connection lost")
    let stuck : Fault := .raised (.other "RuntimeError" "cursor is busy")
    let r : Responses :=
      { statement := .ok { columns := some ["7"] }, rows := .error lost, close := .error stuck }
    let q : Request := .execute "SELECT ?" (.tuple [.int 7])
    let as : List Action := .request q :: r.happenings.map (.happens 0)
    let later : List Action := [.request (.execute "DO 1" (.tuple [])), .happens 1 .granted]
    let start : History := { machine := { options } }
    let s := start.run as
    let log := start.record as
    (s.machine.tasks[0]? = some (.finished (.error stuck)) ∧ s.machine.handle = some 1) ∧
      (s.machine.turn = {} ∧ s.machine.gate = {}) ∧
      (∃ p, s.machine.tasks[0]? = some p ∧ Tidy (told log 0) (made log 0) p) ∧
      (made log 0).filterMap NetworkCall.closesCursor? = [1] ∧
      s.Stays (s.run later) (s.record later) ∧
      ((s.record later).flatMap Entry.calls).filterMap NetworkCall.on? = [1] := by
  intro options lost stuck r q as later start s log
  have closes : (made log 0).filterMap NetworkCall.closesCursor? = [1] := by decide +kernel
  have on : ((s.record later).flatMap Entry.calls).filterMap NetworkCall.on? = [1] := by
    decide +kernel
  have open' : ∀ p ∈ s.machine.tasks, p.closes = false := by decide +kernel
  have asked : (issued as)[0]? = some q := rfl
  have outcome : (r.on start.machine).outcome = .error stuck := rfl
  have left : r.handle start.machine = some 1 := rfl
  have staying : s.machine.Staying := fun t p there => open' p (List.mem_of_getElem? there)
  have kept : ∀ a ∈ later, a ≠ .request .close := by
    intro a member
    simp only [later, List.mem_cons, List.not_mem_nil, or_false] at member
    rcases member with rfl | rfl <;> nofun
  have same : s = start.call (.execute "SELECT ?" (.tuple [.int 7])) r := start.run_call q r
  have begun : run { machine := { options } } [] = start := rfl
  have empty : start.machine.tasks.length = 0 := rfl
  obtain ⟨-, -, -, -, call⟩ := run_cleans_up options []
  obtain ⟨stands, turn, gate, handle⟩ := call rfl rfl "SELECT ?" (.tuple [.int 7]) _ rfl r
  rw [begun, ← same] at stands turn gate handle
  rw [empty, outcome] at stands
  -- What these actions come to has been computed and is not computed again.
  clear_value as
  obtain ⟨own, -, -, stays, -⟩ := run_cleans_up options as
  obtain ⟨p, there, tidy, -⟩ := own 0 "SELECT ?" (.tuple [.int 7]) asked
  have stayed := stays later staying kept
  exact ⟨⟨stands, handle.trans left⟩, ⟨turn, gate⟩, ⟨p, there, tidy⟩, closes, stayed, on⟩

end History

end TableQuery

import TableQuery.Connection.Link
import TableQuery.Proofs.Veil.Builder

/-!
# Veiled connections

A connection machine takes a statement with as many values as it has placeholders and hands both to
a cursor. It looks at the number of values only: `step_veil` says that every step of the machine
commutes with the veil, and `channel_veil` that a link answers a statement without regard to the
values it binds.
-/

namespace TableQuery

/-! ### What a machine holds -/

def Need.veil : Need → Need
  | .statement text values => .statement text (Value.veil values)
  | .connection => .connection

def Job.veil : Job → Job
  | .need n => .need n.veil
  | .close => .close

def NetworkCall.veil : NetworkCall → NetworkCall
  | .execute c text values => .execute c text (Value.veil values)
  | call => call

def Note.veil : Note → Note
  | .called call => .called call.veil
  | .logged event => .logged event

def Phase.veil : Phase → Phase
  | .awaitingTurn text values => .awaitingTurn text (Value.veil values)
  | .awaitingGate need => .awaitingGate need.veil
  | .connecting need => .connecting need.veil
  | .openingCursor c text values => .openingCursor c text (Value.veil values)
  | p => p

def Machine.veil (m : Machine) : Machine := { m with tasks := m.tasks.map Phase.veil }

def Moved.veil (moved : Moved) : Moved := ⟨moved.machine.veil, moved.notes.map Note.veil⟩

namespace Machine

/-! ### Steps -/

theorem put_veil (m : Machine) (t : TaskId) (p : Phase) :
    (m.put t p).veil = m.veil.put t p.veil := by
  simp only [veil, put, List.map_set]

theorem finish_veil (m : Machine) (t : TaskId) (r : Except Fault Outcome) :
    m.veil.finish t r = (m.finish t r).veil := by
  simp only [finish, Moved.veil, put_veil]
  rfl

theorem finishTurn_veil (m : Machine) (t : TaskId) (r : Except Fault Outcome) :
    m.veil.finishTurn t r = (m.finishTurn t r).veil :=
  finish_veil { m with turn := m.turn.release } t r

theorem proceed_veil (m : Machine) (t : TaskId) (c : ConnectionId) (need : Need) :
    m.veil.proceed t c need.veil = (m.proceed t c need).veil := by
  cases need with
  | statement text values =>
    simp only [proceed, Need.veil, Moved.veil, put_veil]
    rfl
  | connection => exact m.finish_veil t _

theorem abandon_veil (m : Machine) (t : TaskId) (f : Fault) (need : Need) :
    m.veil.abandon t f need.veil = (m.abandon t f need).veil := by
  cases need with
  | statement text values => exact m.finishTurn_veil t _
  | connection => exact m.finish_veil t _

theorem reach_veil (m : Machine) (t : TaskId) (need : Need) :
    m.veil.reach t need.veil = (m.reach t need).veil := by
  rcases m with ⟨options, turn, gate, _ | c, opened, tasks⟩
  · simp only [reach, Moved.veil, put_veil]
    rfl
  · exact proceed_veil ⟨options, turn, gate, some c, opened, tasks⟩ t c need

theorem pass_veil (m : Machine) (t : TaskId) (need : Need) :
    m.veil.pass t need.veil = (m.pass t need).veil := by
  rcases m with ⟨options, turn, gate, _ | c, opened, tasks⟩
  · by_cases texts : options.namesAreTexts
    · simp only [pass, veil, texts, if_true, Moved.veil, put, List.map_set]
      rfl
    · simp only [pass, veil, texts, Bool.false_eq_true, if_false]
      exact abandon_veil ⟨options, turn, gate.release, none, opened, tasks⟩ t _ need
  · exact proceed_veil ⟨options, turn, gate.release, some c, opened, tasks⟩ t c need

theorem shut_veil (m : Machine) (t : TaskId) : m.veil.shut t = (m.shut t).veil := by
  rcases m with ⟨options, turn, gate, _ | c, opened, tasks⟩
  · exact finishTurn_veil ⟨options, turn, gate.release, none, opened, tasks⟩ t _
  · simp only [shut, Moved.veil, put_veil]
    rfl

theorem leave_veil (m : Machine) (t : TaskId) (c : ConnectionId) (r : Except Fault Outcome) :
    m.veil.leave t c r = (m.leave t c r).veil := by
  simp only [leave, Moved.veil, put_veil]
  rfl

theorem submit_veil (m : Machine) (job : Job) : m.veil.submit job.veil = (m.submit job).veil := by
  match job with
  | .need .connection =>
    have reached := reach_veil { m with tasks := m.tasks ++ [.awaitingGate .connection] }
      m.tasks.length .connection
    simpa only [submit, Job.veil, Need.veil, Phase.veil, veil, List.map_append, List.map_cons, List.map_nil,
      List.length_map] using reached
  | .need (.statement text values) =>
    simp [submit, Job.veil, Need.veil, Moved.veil, veil, Phase.veil]
  | .close => simp [submit, Job.veil, Moved.veil, veil, Phase.veil]

theorem advance_veil (m : Machine) (t : TaskId) (p : Phase) (h : Happening) :
    m.veil.advance t p.veil h = (m.advance t p h).map Moved.veil := by
  have turn : m.veil.turn = m.turn := rfl
  have gate : m.veil.gate = m.gate := rfl
  -- Each phase answers to one happening and refuses all others, veiled or not.
  cases p with
  | awaitingTurn text values =>
    cases h with
    | granted =>
      by_cases mine : m.turn.holder = some t
      · simp only [Phase.veil, advance, turn, mine, if_true, Option.map_some]
        exact congrArg some (m.reach_veil t (.statement text values))
      · simp only [Phase.veil, advance, turn, mine, if_false, Option.map_none]
    | _ => rfl
  | awaitingGate need =>
    cases h with
    | granted =>
      by_cases mine : m.gate.holder = some t
      · simp only [Phase.veil, advance, gate, mine, if_true, Option.map_some, pass_veil]
      · simp only [Phase.veil, advance, gate, mine, if_false, Option.map_none]
    | _ => rfl
  | connecting need =>
    cases h with
    | connected r =>
      cases r with
      | ok _ =>
        have went := proceed_veil
          { m with handle := some (m.opened + 1), opened := m.opened + 1, gate := m.gate.release }
          t (m.opened + 1) need
        simp only [Phase.veil, advance, Option.map_some]
        simp only [veil] at went ⊢
        rw [went]
        rfl
      | error f =>
        exact congrArg some (abandon_veil { m with gate := m.gate.release } t f need)
    | _ => rfl
  | openingCursor c text values =>
    cases h with
    | cursorOpened r =>
      cases r with
      | ok _ =>
        simp only [Phase.veil, advance, Option.map_some, Moved.veil, put_veil]
        rfl
      | error f => exact congrArg some (m.finishTurn_veil t (.error f))
    | _ => rfl
  | executing c =>
    cases h with
    | executed r =>
      cases r with
      | ok done =>
        cases columns : done.rowColumns with
        | some columns =>
          simp only [Phase.veil, advance, columns, Option.map_some, Moved.veil, put_veil]
          rfl
        | none => simp only [Phase.veil, advance, columns, Option.map_some, leave_veil]
      | error f => exact congrArg some (m.leave_veil t c (.error f))
    | _ => rfl
  | fetching c columns =>
    cases h with
    | fetched r => exact congrArg some (m.leave_veil t c _)
    | _ => rfl
  | closingCursor c outcome =>
    cases h with
    | cursorClosed r => exact congrArg some (m.finishTurn_veil t _)
    | _ => rfl
  | awaitingTurnToClose =>
    cases h with
    | granted =>
      by_cases mine : m.turn.holder = some t
      · simp only [Phase.veil, advance, turn, gate, mine, if_true, Option.map_some, Moved.veil,
          put_veil]
        rfl
      · simp only [Phase.veil, advance, turn, mine, if_false, Option.map_none]
    | _ => rfl
  | awaitingGateToClose =>
    cases h with
    | granted =>
      by_cases mine : m.gate.holder = some t
      · simp only [Phase.veil, advance, gate, mine, if_true, Option.map_some, shut_veil]
      · simp only [Phase.veil, advance, gate, mine, if_false, Option.map_none]
    | _ => rfl
  | disconnecting c =>
    cases h with
    | disconnected r =>
      have ended := finishTurn_veil { m with gate := m.gate.release } t (r.map fun _ => .closed)
      simp only [Phase.veil, advance, Option.map_some]
      simp only [veil] at ended ⊢
      rw [ended]
      rfl
    | _ => rfl
  | finished r => rfl

theorem step_veil (m : Machine) (t : TaskId) (h : Happening) :
    m.veil.step t h = (m.step t h).map Moved.veil := by
  simp only [step, veil, List.getElem?_map]
  cases m.tasks[t]? with
  | none => rfl
  | some p => exact m.advance_veil t p h

end Machine

/-! ### Links -/

theorem Phase.movesLeft_veil (p : Phase) : p.veil.movesLeft = p.movesLeft := by
  cases p <;> rfl

theorem Replies.next_veil (rs : Replies) (p : Phase) : rs.next p.veil = rs.next p := by
  cases p <;> rfl

namespace Link

/-- A link with the values of its statements veiled, in its machine and in its trace. -/
def veil (l : Link) : Link :=
  { l with machine := l.machine.veil, trace := l.trace.map NetworkCall.veil }

theorem keep_veil (l : Link) (moved : Moved) (replies : Replies) :
    l.veil.keep moved.veil replies =
      let r := l.keep moved replies
      (r.1.veil, r.2) := by
  -- Calls on the network show values and are veiled; events show none.
  have calls : (moved.notes.map Note.veil).filterMap Note.call? =
      (moved.notes.filterMap Note.call?).map NetworkCall.veil := by
    rw [List.filterMap_map, List.map_filterMap]
    congr 1
    funext note
    cases note <;> rfl
  have events : (moved.notes.map Note.veil).filterMap Note.event? =
      moved.notes.filterMap Note.event? := by
    rw [List.filterMap_map]
    congr 1
    funext note
    cases note <;> rfl
  simp only [keep, Moved.veil, calls, events, veil, List.map_append]

theorem settle_active {l : Link} {t : TaskId} {p : Phase} (stands : l.machine.tasks[t]? = some p)
    (active : ∀ r, p ≠ .finished r) (n : Nat) :
    l.settle t (n + 1) =
      match l.machine.step t (l.replies.next p).1 with
      | none => (.error (.cancelled ""), l, [])
      | some moved =>
        let k := l.keep moved (l.replies.next p).2
        let r := k.1.settle t n
        (r.1, r.2.1, k.2 ++ r.2.2) := by
  cases p with
  | finished r => exact (active r rfl).elim
  | _ =>
    have opened := settle.eq_def l t (n + 1)
    rw [stands] at opened
    exact opened

theorem settle_veil (l : Link) (t : TaskId) (n : Nat) :
    l.veil.settle t n =
      let r := l.settle t n
      (r.1, r.2.1.veil, r.2.2) := by
  have task (l : Link) : l.veil.machine.tasks[t]? = l.machine.tasks[t]?.map Phase.veil :=
    List.getElem?_map
  -- By induction on the moves that are left; a task that has ended takes none of them.
  induction n generalizing l with
  | zero =>
    simp only [settle, task]
    rcases l.machine.tasks[t]? with _ | p
    · rfl
    · cases p <;> rfl
  | succ n ih =>
    cases stands : l.machine.tasks[t]? with
    | none => simp only [settle, task, stands, Option.map_none]
    | some p =>
      by_cases ended : ∃ r, p = .finished r
      · obtain ⟨r, rfl⟩ := ended
        simp only [settle, task, stands, Option.map_some, Phase.veil]
      · have active : ∀ r, p ≠ .finished r := fun r same => ended ⟨r, same⟩
        have active' : ∀ r, p.veil ≠ .finished r := by
          intro r same
          cases p with
          | finished r => exact ended ⟨r, rfl⟩
          | _ => cases same
        have stands' : l.veil.machine.tasks[t]? = some p.veil := by rw [task, stands]; rfl
        have moves : l.veil.machine.step t (l.replies.next p).1 =
            (l.machine.step t (l.replies.next p).1).map Moved.veil := Machine.step_veil ..
        have replies : l.veil.replies = l.replies := rfl
        rw [settle_active stands active, settle_active stands' active', replies,
          Replies.next_veil, moves]
        cases l.machine.step t (l.replies.next p).1 with
        | none => rfl
        | some moved => simp only [Option.map_some, keep_veil, ih]

theorem perform_veil (l : Link) {r r' : Request} (same : r'.job = r.job.map Job.veil) :
    l.veil.perform r' =
      let d := l.perform r
      (d.1, d.2.1.veil, d.2.2) := by
  simp only [perform, Machine.take, same]
  cases r.job with
  | error f => rfl
  | ok job =>
    have number : l.veil.machine.tasks.length = l.machine.tasks.length := List.length_map _
    have submitted : l.veil.machine.submit job.veil = (l.machine.submit job).veil :=
      Machine.submit_veil ..
    have moves : ((l.machine.submit job).veil.machine.tasks[l.machine.tasks.length]?.map
        Phase.movesLeft).getD 0 =
        ((l.machine.submit job).machine.tasks[l.machine.tasks.length]?.map
          Phase.movesLeft).getD 0 := by
      simp only [Moved.veil, Machine.veil, List.getElem?_map, Option.map_map]
      congr 2
      funext p
      exact p.movesLeft_veil
    have replies : l.veil.replies = l.replies := rfl
    simp only [map_ok, submitted, number, moves, replies, keep_veil, settle_veil]

/-- A statement makes the same job whatever its values are, as long as they are as many. -/
theorem job_veil (sql : String) (vs : List Value) :
    (Request.execute sql (.tuple (Value.veil vs))).job =
      (Request.execute sql (.tuple vs)).job.map Job.veil := by
  have aligned : Placeholder.align sql (.tuple (Value.veil vs)) =
      Placeholder.align sql (.tuple vs) := by
    simp only [Placeholder.align, Value.size?, Value.items?, map_ok, Value.length_veil]
  simp only [Request.job, Value.items?, ok_bind, aligned]
  cases Placeholder.align sql (.tuple vs) with
  | error f => rfl
  | ok n =>
    simp only [ok_bind]
    cases Placeholder.toPercent sql <;> rfl

theorem channel_veil (l : Link) (sql : String) (vs : List Value) :
    Link.channel l.veil sql (Value.veil vs) =
      let d := Link.channel l sql vs
      { d with state := d.state.veil } := by
  simp only [channel, execute, perform_veil l (job_veil sql vs)]

end Link

end TableQuery

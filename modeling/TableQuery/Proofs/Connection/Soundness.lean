import TableQuery.Proofs.Connection.Steps
import TableQuery.Proofs.Except

/-!
# Sound connection machines

In a sound machine both locks agree with the places of the tasks, and nobody has a connection while
one is opened or closed. Every step keeps it so (`place_sound`), and every new task (`enter_sound`).
-/

namespace TableQuery.Machine

/-- Both locks agree with the places of the tasks. While a task opens or closes a connection, nobody
has one. A statement whose cursor is closed has come to a value or failed. -/
structure Sound (m : Machine) : Prop where
  turn : m.turn.Kept m.tasks Phase.inTurn Phase.hasTurn
  gate : m.gate.Kept m.tasks Phase.inGate Phase.hasGate
  vacant : ∀ (t : TaskId) (p : Phase), m.tasks[t]? = some p → p.hasGate = true → m.handle = none
  texts : ∀ (t : TaskId) need, m.tasks[t]? = some (Phase.connecting need) → m.options.namesAreTexts = true
  results : ∀ (t : TaskId) c o, m.tasks[t]? = some (Phase.closingCursor c (.ok o)) → ∃ v, o = .value v

theorem sound_start (options : Options) : Sound { options } where
  turn := Lock.kept_nil
  gate := Lock.kept_nil
  vacant t p stands := by cases stands
  texts t need stands := by cases stands
  results t c o stands := by cases stands

variable {m m' : Machine} {t : TaskId} {p p' : Phase} {h : Happening} {calls : List NetworkCall}

/-- Who moves on from the line of the turn lock has the lock. -/
theorem Passes.turn_holder (passes : Passes m t p h p' m' calls) (sound : m.Sound)
    (stands : m.tasks[t]? = some p) (line : p.inTurn = true) : m.turn.holder = some t := by
  have held (holds : p.hasTurn = true) := sound.turn.held t p stands holds
  cases passes with
  | turnOpen turn => exact turn
  | turnClosed turn => exact turn
  | turnToClose turn => exact turn
  | _ => exact held line

theorem Passes.gate_holder (passes : Passes m t p h p' m' calls) (sound : m.Sound)
    (stands : m.tasks[t]? = some p) (line : p.inGate = true) : m.gate.holder = some t := by
  have held (holds : p.hasGate = true) := sound.gate.held t p stands holds
  cases passes with
  | gateOpen gate => exact gate
  | gateClosed gate => exact gate
  | gateRefused gate => exact gate
  | shuts gate => exact gate
  | nothingToShut gate => exact gate
  | connected | unconnected | disconnected => exact held rfl
  | _ => cases line

/-- Nobody comes to the turn by a step. -/
theorem Passes.inTurn (passes : Passes m t p h p' m' calls) (line : p'.inTurn = true) :
    p.inTurn = true := by
  cases passes with
  | gateOpen => exact (Need.given_inTurn _ _).symm.trans line
  | gateClosed => exact line
  | gateRefused | unconnected => cases line
  | connected => exact (Need.given_inTurn _ _).symm.trans line
  | _ => rfl

/-- Who comes to hold the gate has waited for it. -/
theorem Passes.inGate (passes : Passes m t p h p' m' calls) (holds : p'.hasGate = true) :
    p.inGate = true := by
  cases passes with
  | gateOpen | gateClosed | gateRefused | connected | unconnected => rfl
  | shuts | nothingToShut | disconnected => rfl
  | _ => cases holds

/-- Only who has the gate changes the connection. -/
theorem Passes.handle (passes : Passes m t p h p' m' calls) :
    m'.handle = m.handle ∨ p.inGate = true := by
  cases passes with
  | connected | shuts => exact .inr rfl
  | _ => exact .inl rfl

theorem Passes.vacant (passes : Passes m t p h p' m' calls) (holds : p'.hasGate = true) :
    m'.handle = none := by
  cases passes with
  | gateOpen => rw [Need.given_hasGate] at holds; cases holds
  | gateClosed gate vacant => exact vacant
  | connected => rw [Need.given_hasGate] at holds; cases holds
  | shuts => rfl
  | _ => cases holds

theorem Passes.texts (passes : Passes m t p h p' m' calls) {need : Need}
    (connects : p' = .connecting need) : m.options.namesAreTexts = true := by
  cases passes with
  | @gateOpen need _ _ _ => cases need <;> cases connects
  | gateClosed gate vacant texts => exact texts
  | @connected need => cases need <;> cases connects
  | _ => cases connects

/-- A statement comes to the end with a value. -/
theorem Passes.results (passes : Passes m t p h p' m' calls) {c : ConnectionId} {o : Outcome}
    (closes : p' = .closingCursor c (.ok o)) : ∃ v, o = .value v := by
  cases passes with
  | @gateOpen need _ _ _ => cases need <;> cases closes
  | @connected need => cases need <;> cases closes
  | written rows =>
    cases closes
    exact ⟨_, rfl⟩
  | fetched =>
    obtain ⟨-, result⟩ := Phase.closingCursor.inj closes
    obtain ⟨rows, -, read⟩ := bind_eq_ok.mp result
    obtain ⟨maps, -, same⟩ := bind_eq_ok.mp read
    cases same
    exact ⟨_, rfl⟩
  | _ => cases closes

/-- A task that passes on keeps the machine sound. -/
theorem place_sound (sound : m.Sound) (stands : m.tasks[t]? = some p)
    (passes : Passes m t p h p' m' calls) : (m'.place t p p').Sound := by
  have task := place_task stands passes
  have others (u : TaskId) (other : u ≠ t) : (m'.place t p p').tasks[u]? = m.tasks[u]? := by
    rw [task, if_neg other]
  have now : (m'.place t p p').tasks[t]? = some p' := by rw [task, if_pos rfl]
  have stood (line : Phase → Bool) : (∃ q, m.tasks[t]? = some q ∧ line q = true) ↔ line p = true := by
    rw [stands]
    exact ⟨fun ⟨q, same, there⟩ => by cases same; exact there, fun there => ⟨p, rfl, there⟩⟩
  obtain ⟨options, turn, gate, -⟩ := passes.rest
  refine ⟨?_, ?_, fun u q there holds => ?_, fun u need there => ?_, fun u c o there => ?_⟩
  · show Lock.Kept (m'.turn.shift t p.inTurn p'.inTurn) _ _ _
    rw [turn]
    refine sound.turn.shift others now ((sound.turn.member t).trans (stood _))
      (fun line _ => passes.turn_holder sound stands line) fun holds => ?_
    have line := Phase.inTurn_of_hasTurn holds
    exact ⟨line, passes.turn_holder sound stands (passes.inTurn line)⟩
  · show Lock.Kept (m'.gate.shift t p.inGate p'.inGate) _ _ _
    rw [gate]
    refine sound.gate.shift others now ((sound.gate.member t).trans (stood _))
      (fun line _ => passes.gate_holder sound stands line) fun holds => ?_
    exact ⟨Phase.inGate_of_hasGate holds, passes.gate_holder sound stands (passes.inGate holds)⟩
  · rcases stands_place stands passes there with ⟨rfl, rfl⟩ | ⟨own, there⟩
    · exact passes.vacant holds
    · -- Another task has the gate, so this one leaves the connection as it is.
      rcases passes.handle with kept | line
      · exact kept.trans (sound.vacant u q there holds)
      · have holder := sound.gate.held u q there holds
        rw [passes.gate_holder sound stands line] at holder
        exact (own (Option.some.inj holder).symm).elim
  · show m'.options.namesAreTexts = true
    rw [options]
    rcases stands_place stands passes there with ⟨-, connects⟩ | ⟨-, there⟩
    · exact passes.texts connects.symm
    · exact sound.texts u need there
  · rcases stands_place stands passes there with ⟨-, closes⟩ | ⟨-, there⟩
    · exact passes.results closes.symm
    · exact sound.results u c o there

/-- A new task keeps the machine sound. -/
theorem enter_sound (sound : m.Sound) {job : Job} (enters : m.Enters job p) : (m.enter p).Sound := by
  have task := m.enter_task p
  have free : p.hasTurn = false ∧ p.hasGate = false := by cases enters <;> exact ⟨rfl, rfl⟩
  have others (u : TaskId) (other : u ≠ m.tasks.length) : (m.enter p).tasks[u]? = m.tasks[u]? := by
    rw [task, if_neg other]
  have now : (m.enter p).tasks[m.tasks.length]? = some p := by rw [task, if_pos rfl]
  have absent (line : Phase → Bool) :
      (∃ q, m.tasks[m.tasks.length]? = some q ∧ line q = true) ↔ false = true := by
    refine ⟨fun ⟨q, there, _⟩ => ?_, fun never => by cases never⟩
    rw [List.getElem?_eq_none (Nat.le_refl _)] at there
    cases there
  refine ⟨?_, ?_, fun u q there holds => ?_, fun u need there => ?_, fun u c o there => ?_⟩
  · refine sound.turn.shift others now ((sound.turn.member _).trans (absent _))
      (fun never => by cases never) fun holds => ?_
    rw [free.1] at holds
    cases holds
  · refine sound.gate.shift others now ((sound.gate.member _).trans (absent _))
      (fun never => by cases never) fun holds => ?_
    rw [free.2] at holds
    cases holds
  · rcases stands_enter there with ⟨-, rfl⟩ | ⟨-, there⟩
    · rw [free.2] at holds
      cases holds
    · exact sound.vacant u q there holds
  · rcases stands_enter there with ⟨-, rfl⟩ | ⟨-, there⟩
    · cases enters
    · exact sound.texts u need there
  · rcases stands_enter there with ⟨-, rfl⟩ | ⟨-, there⟩
    · cases enters
    · exact sound.results u c o there

end TableQuery.Machine

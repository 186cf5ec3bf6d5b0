import Mathlib
import TableQuery.Proofs.Connection.History

/-!
# Progress

In a sound machine with a task that has not ended, some task can go on (`Sound.progress`): the one
that holds the gate lock, or else the one that holds the turn lock, which then waits for the network
at most. Every step takes one of the moves that the tasks have left, so all of them end.
-/

namespace TableQuery

namespace Phase

/-- What a task waits for where it stands: that a lock is its own, or that a call on the network
ends, however it does. -/
def Awaits : Phase → Happening → Prop
  | .awaitingTurn .., h => h = .granted
  | .awaitingGate _, h => h = .granted
  | .connecting _, h => ∃ r, h = .connected r
  | .openingCursor .., h => ∃ r, h = .cursorOpened r
  | .executing _, h => ∃ r, h = .executed r
  | .fetching .., h => ∃ r, h = .fetched r
  | .closingCursor .., h => ∃ r, h = .cursorClosed r
  | .awaitingTurnToClose, h => h = .granted
  | .awaitingGateToClose, h => h = .granted
  | .disconnecting _, h => ∃ r, h = .disconnected r
  | .finished _, _ => False

def Unfinished (p : Phase) : Prop := ∀ r, p ≠ .finished r

/-- Who waits for something waits for something that can happen. -/
theorem awaits_some {p : Phase} (unfinished : p.Unfinished) : ∃ h, p.Awaits h := by
  cases p with
  | awaitingTurn | awaitingGate | awaitingTurnToClose | awaitingGateToClose => exact ⟨.granted, rfl⟩
  | connecting => exact ⟨.connected (.ok ()), _, rfl⟩
  | openingCursor => exact ⟨.cursorOpened (.ok ()), _, rfl⟩
  | executing => exact ⟨.executed (.ok {}), _, rfl⟩
  | fetching => exact ⟨.fetched (.ok []), _, rfl⟩
  | closingCursor => exact ⟨.cursorClosed (.ok ()), _, rfl⟩
  | disconnecting => exact ⟨.disconnected (.ok ()), _, rfl⟩
  | finished r => exact (unfinished r rfl).elim

/-- Who has not ended stands in the line of a lock. -/
theorem inTurn_or_inGate {p : Phase} (unfinished : p.Unfinished) :
    p.inTurn = true ∨ p.inGate = true := by
  cases p with
  | awaitingGate | connecting => exact .inr rfl
  | finished r => exact (unfinished r rfl).elim
  | _ => exact .inl rfl

theorem unfinished_of_inTurn {p : Phase} (line : p.inTurn = true) : p.Unfinished := by
  rintro r rfl
  cases line

theorem unfinished_of_inGate {p : Phase} (line : p.inGate = true) : p.Unfinished := by
  rintro r rfl
  cases line

end Phase

namespace Machine

variable {m m' : Machine} {t : TaskId} {p p' : Phase} {h : Happening} {calls : List NetworkCall}

/-! ### Somebody can go on -/

/-- A task can go on: it waits for something, and whatever it waits for is a step. -/
def Ready (m : Machine) (t : TaskId) : Prop :=
  ∃ p, m.tasks[t]? = some p ∧ (∃ h, p.Awaits h) ∧
    ∀ h, p.Awaits h → ∃ moved, m.step t h = some moved

/-- A task that holds the lock that it waits for can go on. -/
theorem ready_of_locks (stands : m.tasks[t]? = some p) (unfinished : p.Unfinished)
    (turn : p.inTurn = true → p.inGate = false → m.turn.holder = some t)
    (gate : p.inGate = true → m.gate.holder = some t) : m.Ready t := by
  refine ⟨p, stands, Phase.awaits_some unfinished, fun h awaits => ?_⟩
  simp only [step, stands]
  cases p with
  | awaitingTurn =>
    cases awaits
    simp only [advance, turn rfl rfl, if_true]
    exact ⟨_, rfl⟩
  | awaitingTurnToClose =>
    cases awaits
    simp only [advance, turn rfl rfl, if_true]
    exact ⟨_, rfl⟩
  | awaitingGate =>
    cases awaits
    simp only [advance, gate rfl, if_true]
    exact ⟨_, rfl⟩
  | awaitingGateToClose =>
    cases awaits
    simp only [advance, gate rfl, if_true]
    exact ⟨_, rfl⟩
  | connecting =>
    obtain ⟨r, rfl⟩ := awaits
    cases r <;> exact ⟨_, rfl⟩
  | openingCursor =>
    obtain ⟨r, rfl⟩ := awaits
    cases r <;> exact ⟨_, rfl⟩
  | executing =>
    obtain ⟨r, rfl⟩ := awaits
    cases r with
    | error f => exact ⟨_, rfl⟩
    | ok done => cases rows : done.rowColumns <;> simp only [advance, rows] <;> exact ⟨_, rfl⟩
  | fetching | closingCursor | disconnecting =>
    obtain ⟨r, rfl⟩ := awaits
    exact ⟨_, rfl⟩
  | finished r => exact (unfinished r rfl).elim

/-- Where a task has not ended, some task can go on. -/
theorem Sound.progress (sound : m.Sound) (stands : m.tasks[t]? = some p)
    (unfinished : p.Unfinished) : ∃ u, m.Ready u := by
  by_cases gate : ∃ (u : TaskId) (q : Phase), m.tasks[u]? = some q ∧ q.inGate = true
  · -- Who has the gate never waits for the turn.
    obtain ⟨u, waits⟩ := gate
    obtain ⟨v, q, holder, there, inside⟩ := sound.gate.head ((sound.gate.member u).mpr waits)
    refine ⟨v, ready_of_locks there (Phase.unfinished_of_inGate inside) (fun _ outside => ?_)
      fun _ => holder⟩
    rw [inside] at outside
    cases outside
  · have turn : p.inTurn = true :=
      (Phase.inTurn_or_inGate unfinished).resolve_right fun inside => gate ⟨t, p, stands, inside⟩
    obtain ⟨v, q, holder, there, inside⟩ :=
      sound.turn.head ((sound.turn.member t).mpr ⟨p, stands, turn⟩)
    exact ⟨v, ready_of_locks there (Phase.unfinished_of_inTurn inside) (fun _ _ => holder)
      fun waits => (gate ⟨v, q, there, waits⟩).elim⟩

/-! ### Every step counts -/

/-- The most moves that all tasks together still make. -/
def remaining (m : Machine) : Nat := (m.tasks.map Phase.movesLeft).sum

theorem Passes.movesLeft (passes : Passes m t p h p' m' calls) : p'.movesLeft < p.movesLeft := by
  cases passes with
  | @gateOpen need | @connected need => cases need <;> simp [Need.given, Phase.movesLeft]
  | _ => simp [Phase.movesLeft]

theorem sum_set {tasks : List Phase} {t : TaskId} (stands : tasks[t]? = some p) (p' : Phase) :
    ((tasks.set t p').map Phase.movesLeft).sum + p.movesLeft =
      (tasks.map Phase.movesLeft).sum + p'.movesLeft := by
  induction tasks generalizing t with
  | nil => cases stands
  | cons q tasks ih =>
    cases t with
    | zero =>
      cases stands
      simp only [List.set_cons_zero, List.map_cons, List.sum_cons]
      omega
    | succ t =>
      have rest := ih stands
      simp only [List.set_cons_succ, List.map_cons, List.sum_cons]
      omega

theorem step_remaining {moved : Moved} (stepped : m.step t h = some moved) :
    moved.machine.remaining < m.remaining := by
  obtain ⟨p, stands, p', m', passes, placed⟩ := step_passes stepped
  have total := sum_set stands p'
  have fewer := passes.movesLeft
  rw [placed]
  show ((m'.tasks.set t p').map Phase.movesLeft).sum < (m.tasks.map Phase.movesLeft).sum
  rw [passes.rest.2.2.2]
  omega

end Machine

namespace History

variable {t : TaskId}

/-- What a task has come to stays so. -/
theorem run_finished {s : History} {r : Except Fault Outcome}
    (ended : s.machine.tasks[t]? = some (.finished r)) (later : List Action) :
    (s.run later).machine.tasks[t]? = some (.finished r) := by
  refine run_keeps (P := fun s => s.machine.tasks[t]? = some (.finished r)) (fun s a ended => ?_)
    ended later
  have acts := s.act_acts a
  generalize s.act a = s' at acts
  cases acts with
  | @enters r' job p read enters =>
    show (s.machine.enter p).tasks[t]? = _
    rw [s.machine.enter_task, if_neg]
    · exact ended
    · exact Nat.ne_of_lt (List.getElem?_eq_some_iff.mp ended).1
  | @passes u h p p' m' calls stands passes =>
    show (m'.place u p p').tasks[t]? = _
    rw [Machine.place_task stands passes, if_neg]
    · exact ended
    · rintro rfl
      rw [ended] at stands
      cases stands
      cases passes
  | stays => exact ended

end History

end TableQuery

import TableQuery.Proofs.Connection.Soundness

/-!
# Histories of a connection

In a history requests come in and things happen to tasks, in any order, and the calls on the network
are written down. `act_acts` lists what one of them can do, and `sound_run` shows that every history
leaves the machine sound.
-/

namespace TableQuery

/-- A request comes in, or something happens to a task. -/
inductive Action where
  | request (r : Request)
  | happens (t : TaskId) (h : Happening)

/-- A machine and the calls on its network so far. -/
structure History where
  machine : Machine
  calls : List NetworkCall := []

namespace History

def keep (s : History) (moved : Moved) : History := ⟨moved.machine, s.calls ++ moved.calls⟩

/-- A request that is not in order, and what cannot happen, changes nothing. -/
def act (s : History) : Action → History
  | .request r =>
    match s.machine.take r with
    | .ok moved => s.keep moved
    | .error _ => s
  | .happens t h =>
    match s.machine.step t h with
    | some moved => s.keep moved
    | none => s

def run (s : History) (as : List Action) : History := as.foldl act s

/-- What every action keeps holds after every run. -/
theorem run_keeps {P : History → Prop} (keeps : ∀ s a, P s → P (s.act a)) {s : History} (holds : P s)
    (as : List Action) : P (s.run as) :=
  List.foldlRecOn as act holds fun s held a _ => keeps s a held

/-- An action puts a new task in its place, passes a task on, or changes nothing. -/
inductive Acts (s : History) : Action → History → Prop where
  | enters {r : Request} {job : Job} {p : Phase} (read : r.job = .ok job)
      (enters : s.machine.Enters job p) : Acts s (.request r) ⟨s.machine.enter p, s.calls⟩
  | passes {t : TaskId} {h : Happening} {p p' : Phase} {m' : Machine} {calls : List NetworkCall}
      (stands : s.machine.tasks[t]? = some p) (passes : s.machine.Passes t p h p' m' calls) :
      Acts s (.happens t h) ⟨m'.place t p p', s.calls ++ calls⟩
  | stays {a : Action} : Acts s a s

theorem act_entered (s : History) {r : Request} {job : Job} (read : r.job = .ok job) :
    ∃ p, s.machine.Enters job p ∧ s.act (.request r) = ⟨s.machine.enter p, s.calls⟩ := by
  obtain ⟨p, enters, submitted⟩ := s.machine.submit_enters job
  refine ⟨p, enters, ?_⟩
  simp only [act, Machine.take, read, map_ok, submitted, keep]
  exact congrArg _ (List.append_nil _)

theorem act_refused (s : History) {r : Request} {f : Fault} (read : r.job = .error f) :
    s.act (.request r) = s := by
  simp only [act, Machine.take, read, map_error]

theorem act_passed (s : History) {t : TaskId} {h : Happening} {moved : Moved}
    (stepped : s.machine.step t h = some moved) :
    ∃ p p' m', s.machine.tasks[t]? = some p ∧ s.machine.Passes t p h p' m' moved.calls ∧
      s.act (.happens t h) = ⟨m'.place t p p', s.calls ++ moved.calls⟩ := by
  obtain ⟨p, stands, p', m', passes, placed⟩ := Machine.step_passes stepped
  refine ⟨p, p', m', stands, passes, ?_⟩
  simp only [act, stepped, keep, placed]

theorem act_stuck (s : History) {t : TaskId} {h : Happening} (stuck : s.machine.step t h = none) :
    s.act (.happens t h) = s := by
  simp only [act, stuck]

theorem act_acts (s : History) (a : Action) : s.Acts a (s.act a) := by
  cases a with
  | request r =>
    cases read : r.job with
    | error f =>
      rw [s.act_refused read]
      exact .stays
    | ok job =>
      obtain ⟨p, enters, entered⟩ := s.act_entered read
      rw [entered]
      exact .enters read enters
  | happens t h =>
    cases stepped : s.machine.step t h with
    | none =>
      rw [s.act_stuck stepped]
      exact .stays
    | some moved =>
      obtain ⟨p, p', m', stands, passes, passed⟩ := s.act_passed stepped
      rw [passed]
      exact .passes stands passes

/-! ### What every history keeps -/

theorem act_sound (s : History) (a : Action) (sound : s.machine.Sound) :
    (s.act a).machine.Sound := by
  have acts := s.act_acts a
  generalize s.act a = s' at acts
  cases acts with
  | enters read enters => exact Machine.enter_sound sound enters
  | passes stands passes => exact Machine.place_sound sound stands passes
  | stays => exact sound

theorem sound_run (options : Options) (as : List Action) :
    (run { machine := { options } } as).machine.Sound :=
  run_keeps (P := fun s => s.machine.Sound) act_sound (Machine.sound_start options) as

theorem act_options (s : History) (a : Action) :
    (s.act a).machine.options = s.machine.options := by
  have acts := s.act_acts a
  generalize s.act a = s' at acts
  cases acts with
  | enters read enters => rfl
  | passes stands passes => exact passes.rest.1
  | stays => rfl

theorem run_options (s : History) (as : List Action) :
    (s.run as).machine.options = s.machine.options :=
  run_keeps (P := fun s' => s'.machine.options = s.machine.options)
    (fun s' a same => (s'.act_options a).trans same) rfl as

end History

end TableQuery

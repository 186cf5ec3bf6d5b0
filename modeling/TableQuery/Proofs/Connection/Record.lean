import TableQuery.Proofs.Connection.History

/-!
# Records of a history

The record of a history says of every step what happened, to which task, and what the task called
for then. The requests that were in order are its tasks, one after another. `run_keeps_record` goes
through a history and its record together, and `Recorded` lists what one action adds to them.
-/

namespace TableQuery

/-- What happened to a task, and the calls that it made then. -/
structure Entry where
  task : TaskId
  happening : Happening
  calls : List NetworkCall

/-- The request that comes in, if it is in order. -/
def Action.issued : Action → List Request
  | .request r =>
    match r.job with
    | .ok _ => [r]
    | .error _ => []
  | .happens .. => []

/-- What happens to a task by an action. -/
def Action.happenings (t : TaskId) : Action → List Happening
  | .request _ => []
  | .happens u h => if u = t then [h] else []

namespace History

/-- What an action leaves on record. Whatever cannot happen leaves nothing. -/
def entries (s : History) : Action → List Entry
  | .request _ => []
  | .happens t h =>
    match s.machine.step t h with
    | some moved => [⟨t, h, moved.calls⟩]
    | none => []

def record (s : History) : List Action → List Entry
  | [] => []
  | a :: as => s.entries a ++ (s.act a).record as

/-- The requests that were in order, in the order in which they came in. -/
def issued (as : List Action) : List Request := as.flatMap Action.issued

/-- What an action does, with the entries and the requests that it adds to the record. -/
inductive Recorded (s : History) : Action → History → List Entry → List Request → Prop where
  | enters {r : Request} {job : Job} {p : Phase} (read : r.job = .ok job)
      (enters : s.machine.Enters job p) :
      Recorded s (.request r) ⟨s.machine.enter p, s.calls⟩ [] [r]
  | passes {t : TaskId} {h : Happening} {p p' : Phase} {m' : Machine} {calls : List NetworkCall}
      (stands : s.machine.tasks[t]? = some p) (passes : s.machine.Passes t p h p' m' calls) :
      Recorded s (.happens t h) ⟨m'.place t p p', s.calls ++ calls⟩ [⟨t, h, calls⟩] []
  | stays {a : Action} : Recorded s a s [] []

theorem act_recorded (s : History) (a : Action) :
    s.Recorded a (s.act a) (s.entries a) a.issued := by
  cases a with
  | request r =>
    simp only [entries, Action.issued]
    cases read : r.job with
    | error f =>
      rw [s.act_refused read]
      exact .stays
    | ok job =>
      obtain ⟨p, enters, entered⟩ := s.act_entered read
      rw [entered]
      exact .enters read enters
  | happens t h =>
    simp only [entries, Action.issued]
    cases stepped : s.machine.step t h with
    | none =>
      rw [s.act_stuck stepped]
      exact .stays
    | some moved =>
      obtain ⟨p, p', m', stands, passes, passed⟩ := s.act_passed stepped
      rw [passed]
      exact .passes stands passes

variable {P : History → List Entry → List Request → Prop}

theorem run_keeps_record_after
    (keeps : ∀ {s a s' es rs log before}, Recorded s a s' es rs → P s log before →
      P s' (log ++ es) (before ++ rs))
    {s : History} {log : List Entry} {before : List Request} (holds : P s log before)
    (as : List Action) : P (s.run as) (log ++ s.record as) (before ++ issued as) := by
  induction as generalizing s log before with
  | nil =>
    rw [record, List.append_nil, issued, List.flatMap_nil, List.append_nil]
    exact holds
  | cons a as ih =>
    have next := ih (keeps (s.act_recorded a) holds)
    rw [List.append_assoc, List.append_assoc] at next
    rw [record, issued, List.flatMap_cons]
    exact next

/-- What every action keeps of a history and its record holds after every run. -/
theorem run_keeps_record
    (keeps : ∀ {s a s' es rs log before}, Recorded s a s' es rs → P s log before →
      P s' (log ++ es) (before ++ rs))
    {s : History} (start : P s [] []) (as : List Action) :
    P (s.run as) (s.record as) (issued as) :=
  run_keeps_record_after keeps start as

/-! ### What one task was told -/

/-- What happened to a task, one after another. -/
def told (log : List Entry) (t : TaskId) : List Happening :=
  (log.filter (·.task == t)).map Entry.happening

/-- The calls that a task made. -/
def made (log : List Entry) (t : TaskId) : List NetworkCall :=
  (log.filter (·.task == t)).flatMap Entry.calls

variable {log : List Entry} {e : Entry} {t : TaskId}

theorem told_append (log later : List Entry) (t : TaskId) :
    told (log ++ later) t = told log t ++ told later t := by
  rw [told, List.filter_append, List.map_append]
  rfl

theorem told_one (own : e.task = t) : told [e] t = [e.happening] := by
  rw [told, List.filter_cons_of_pos (by simpa using own)]
  rfl

theorem told_none (other : e.task ≠ t) : told [e] t = [] := by
  rw [told, List.filter_cons_of_neg (by simpa using other)]
  rfl

theorem told_own (own : e.task = t) : told (log ++ [e]) t = told log t ++ [e.happening] := by
  rw [told_append, told_one own]

theorem told_other (other : e.task ≠ t) : told (log ++ [e]) t = told log t := by
  rw [told_append, told_none other, List.append_nil]

theorem made_own (own : e.task = t) : made (log ++ [e]) t = made log t ++ e.calls := by
  have one : [e].filter (·.task == t) = [e] := by simp [own]
  rw [made, List.filter_append, one, List.flatMap_append]
  exact congrArg _ (List.append_nil _)

theorem made_other (other : e.task ≠ t) : made (log ++ [e]) t = made log t := by
  have none : [e].filter (·.task == t) = [] := by simp [other]
  rw [made, List.filter_append, none, List.append_nil]
  rfl

theorem told_entries (s : History) (a : Action) (t : TaskId) :
    (told (s.entries a) t).Sublist (a.happenings t) := by
  cases a with
  | request r => exact .slnil
  | happens u h =>
    rw [entries, Action.happenings]
    split
    · rename_i moved _
      by_cases own : u = t
      · have one : told [⟨u, h, moved.calls⟩] t = [h] := told_one own
        simp only [one, if_pos own, List.Sublist.refl]
      · have none : told [⟨u, h, moved.calls⟩] t = [] := told_none own
        rw [none]
        exact List.nil_sublist _
    · exact List.nil_sublist _

/-- A task is told nothing but what happens to it, in order. -/
theorem told_sublist (s : History) (as : List Action) (t : TaskId) :
    (told (s.record as) t).Sublist (as.flatMap (Action.happenings t)) := by
  induction as generalizing s with
  | nil => exact .slnil
  | cons a as ih =>
    rw [record, told_append, List.flatMap_cons]
    exact (s.told_entries a t).append (ih (s.act a))

/-- A task that is not on record was told nothing and called for nothing. -/
theorem told_absent (absent : ∀ e ∈ log, e.task ≠ t) : told log t = [] ∧ made log t = [] := by
  have none : log.filter (·.task == t) = [] := by
    refine List.filter_eq_nil_iff.mpr fun e there => ?_
    simpa using absent e there
  unfold told made
  rw [none]
  exact ⟨rfl, rfl⟩

end History

end TableQuery

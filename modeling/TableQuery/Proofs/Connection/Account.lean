import TableQuery.Proofs.Connection.Record

/-!
# The account of a task

`Along` says what a task has been told and what it has called for when it stands in a place: a
statement has its turn, finds its way to a connection, opens a cursor, runs and closes the cursor.
What it comes to depends on nothing else. `along_run` shows that every task of a history is on its
account, as its request asked.
-/

namespace TableQuery

/-- What a task was told before it needs the connection: a statement has been given its turn. -/
def Need.start : Need → List Happening
  | .statement .. => [.granted]
  | .connection => []

/-- How a task comes to a connection: there is one, someone else opens one, or it opens one. -/
inductive Way (options : Options) (need : Need) : List Happening → List NetworkCall → Prop where
  | there : Way options need need.start []
  | shared : Way options need (need.start ++ [.granted]) []
  | opened : Way options need (need.start ++ [.granted] ++ [.connected (.ok ())]) [.connect options]

/-- What a statement that was handed over comes to, before its cursor is closed. -/
inductive Ran (c : ConnectionId) :
    List Happening → List NetworkCall → Except Fault Outcome → Prop where
  | failed {f : Fault} : Ran c [.executed (.error f)] [] (.error f)
  | wrote {done : Completed} (rows : done.rowColumns = none) :
      Ran c [.executed (.ok done)] [] (.ok (.value done.outcome))
  | read {done : Completed} {columns : List String} (rows : done.rowColumns = some columns)
      (r : Except Fault (List Value)) :
      Ran c [.executed (.ok done), .fetched r] [.fetchAll c] (r.bind fun rows => do
        return .value (.list (← rows.mapM (rowMap columns))))

/-- What a task was told, and what it has called for, when it stands in a place. -/
inductive Along (options : Options) :
    Job → List Happening → List NetworkCall → Phase → Prop where
  | turn {text : String} {values : List Value} :
      Along options (.need (.statement text values)) [] [] (.awaitingTurn text values)
  | gate {need : Need} : Along options (.need need) need.start [] (.awaitingGate need)
  | connecting {need : Need} :
      Along options (.need need) (need.start ++ [.granted]) [.connect options] (.connecting need)
  | unnamed {need : Need} (texts : options.namesAreTexts = false) :
      Along options (.need need) (need.start ++ [.granted]) []
        (.finished (.error (.shape .wrongType)))
  | unconnected {need : Need} {f : Fault} :
      Along options (.need need) (need.start ++ [.granted] ++ [.connected (.error f)])
        [.connect options] (.finished (.error f))
  | given {hs : List Happening} {cs : List NetworkCall} {c : ConnectionId}
      (way : Way options .connection hs cs) :
      Along options (.need .connection) hs cs (.finished (.ok (.connection c)))
  | opening {hs : List Happening} {cs : List NetworkCall} {c : ConnectionId} {text : String}
      {values : List Value} (way : Way options (.statement text values) hs cs) :
      Along options (.need (.statement text values)) hs (cs ++ [.openCursor c])
        (.openingCursor c text values)
  | cursorRefused {hs : List Happening} {cs : List NetworkCall} {c : ConnectionId} {text : String}
      {values : List Value} {f : Fault} (way : Way options (.statement text values) hs cs) :
      Along options (.need (.statement text values)) (hs ++ [.cursorOpened (.error f)])
        (cs ++ [.openCursor c]) (.finished (.error f))
  | executing {hs : List Happening} {cs : List NetworkCall} {c : ConnectionId} {text : String}
      {values : List Value} (way : Way options (.statement text values) hs cs) :
      Along options (.need (.statement text values)) (hs ++ [.cursorOpened (.ok ())])
        (cs ++ [.openCursor c] ++ [.execute c text values]) (.executing c)
  | fetching {hs : List Happening} {cs : List NetworkCall} {c : ConnectionId} {text : String}
      {values : List Value} {done : Completed} {columns : List String}
      (way : Way options (.statement text values) hs cs) (rows : done.rowColumns = some columns) :
      Along options (.need (.statement text values))
        (hs ++ [.cursorOpened (.ok ())] ++ [.executed (.ok done)])
        (cs ++ [.openCursor c] ++ [.execute c text values] ++ [.fetchAll c]) (.fetching c columns)
  | closing {hs rs : List Happening} {cs fs : List NetworkCall} {c : ConnectionId} {text : String}
      {values : List Value} {outcome : Except Fault Outcome}
      (way : Way options (.statement text values) hs cs) (ran : Ran c rs fs outcome) :
      Along options (.need (.statement text values)) (hs ++ [.cursorOpened (.ok ())] ++ rs)
        (cs ++ [.openCursor c] ++ [.execute c text values] ++ fs ++ [.closeCursor c])
        (.closingCursor c outcome)
  | ran {hs rs : List Happening} {cs fs : List NetworkCall} {c : ConnectionId} {text : String}
      {values : List Value} {outcome : Except Fault Outcome}
      (way : Way options (.statement text values) hs cs) (ran : Ran c rs fs outcome)
      (r : Except Fault Unit) :
      Along options (.need (.statement text values))
        (hs ++ [.cursorOpened (.ok ())] ++ rs ++ [.cursorClosed r])
        (cs ++ [.openCursor c] ++ [.execute c text values] ++ fs ++ [.closeCursor c])
        (.finished (r.bind fun _ => outcome))
  | turnToClose : Along options .close [] [] .awaitingTurnToClose
  | gateToClose : Along options .close [.granted] [] .awaitingGateToClose
  | nothingToShut : Along options .close [.granted, .granted] [] (.finished (.ok .closed))
  | disconnecting {c : ConnectionId} :
      Along options .close [.granted, .granted] [.disconnect c] (.disconnecting c)
  | disconnected {c : ConnectionId} (r : Except Fault Unit) :
      Along options .close [.granted, .granted, .disconnected r] [.disconnect c]
        (.finished (r.map fun _ => .closed))

variable {options : Options} {job : Job} {need : Need} {hs : List Happening}
  {cs : List NetworkCall} {c : ConnectionId} {p p' : Phase}

/-- A task that has found its way to a connection goes on as it should. -/
theorem Way.along (way : Way options need hs cs) (c : ConnectionId) :
    Along options (.need need) hs (cs ++ need.calls c) (need.given c) := by
  cases need with
  | statement text values => exact .opening way
  | connection =>
    show Along options _ hs (cs ++ []) _
    rw [List.append_nil]
    exact .given way

namespace Machine

variable {m m' : Machine} {t : TaskId} {h : Happening} {calls : List NetworkCall}

theorem Enters.along (enters : m.Enters job p) : Along options job [] [] p := by
  cases enters with
  | statement => exact .turn
  | given => exact .given .there
  | waits => exact .gate
  | close => exact .turnToClose

/-- A step leads on along the account. -/
theorem Passes.along (passes : Passes m t p h p' m' calls) (along : Along m.options job hs cs p) :
    Along m.options job (hs ++ [h]) (cs ++ calls) p' := by
  cases passes with
  | turnOpen =>
    cases along with
    | turn => exact .opening .there
  | turnClosed =>
    cases along with
    | turn => exact .gate
  | gateOpen =>
    cases along with
    | gate => exact Way.shared.along _
  | gateClosed =>
    cases along with
    | gate => exact .connecting
  | gateRefused gate vacant texts =>
    cases along with
    | gate => exact .unnamed texts
  | connected =>
    cases along with
    | connecting => exact Way.opened.along _
  | unconnected =>
    cases along with
    | connecting => exact .unconnected
  | cursorOpened =>
    cases along with
    | opening way => exact .executing way
  | cursorRefused =>
    cases along with
    | opening way =>
      rw [List.append_nil]
      exact .cursorRefused way
  | returnsRows rows =>
    cases along with
    | executing way => exact .fetching way rows
  | written rows =>
    cases along with
    | executing way => simpa using Along.closing way (Ran.wrote rows)
  | unexecuted =>
    cases along with
    | executing way => simpa using Along.closing way Ran.failed
  | fetched =>
    cases along with
    | fetching way rows => simpa using Along.closing way (Ran.read rows _)
  | cursorClosed =>
    cases along with
    | closing way ran =>
      rw [List.append_nil]
      exact .ran way ran _
  | turnToClose =>
    cases along with
    | turnToClose => exact .gateToClose
  | shuts =>
    cases along with
    | gateToClose => exact .disconnecting
  | nothingToShut =>
    cases along with
    | gateToClose => exact .nothingToShut
  | disconnected =>
    cases along with
    | disconnecting => exact .disconnected _

end Machine

/-- A request to run a statement is in order when its values are in a row and line up with it. It is
run in percent form with these values. -/
theorem Request.job_execute {sql : String} {params : Value} {job : Job}
    (read : (Request.execute sql params).job = .ok job) :
    ∃ text values, job = .need (.statement text values) ∧ params.items? = .ok values ∧
      (∃ n, Placeholder.align sql (.tuple values) = .ok n) ∧
      Placeholder.toPercent sql = .ok text := by
  obtain ⟨values, items, read⟩ := bind_eq_ok.mp read
  obtain ⟨n, aligned, read⟩ := bind_eq_ok.mp read
  obtain ⟨text, converted, made⟩ := bind_eq_ok.mp read
  cases made
  exact ⟨text, values, rfl, items, ⟨n, aligned⟩, converted⟩

namespace History

/-- The tasks of a history are the requests that were in order, each on its account, and the calls
are those on record. -/
structure Accounted (options : Options) (s : History) (log : List Entry) (issued : List Request) :
    Prop where
  fixed : s.machine.options = options
  calls : s.calls = log.flatMap Entry.calls
  tasks : s.machine.tasks.length = issued.length
  known : ∀ e ∈ log, e.task < s.machine.tasks.length
  along : ∀ (t : Nat) r, issued[t]? = some r → ∃ job p, r.job = .ok job ∧
    s.machine.tasks[t]? = some p ∧ Along options job (told log t) (made log t) p

theorem accounted_start (options : Options) :
    Accounted options { machine := { options } } [] [] where
  fixed := rfl
  calls := rfl
  tasks := rfl
  known e never := by cases never
  along t r never := by cases never

section

variable {s : History} {log : List Entry} {issued : List Request}

/-- A new task comes last and is not on record yet. -/
theorem enter_accounted (accounted : Accounted options s log issued) {r : Request}
    (read : r.job = .ok job) (enters : s.machine.Enters job p) :
    Accounted options ⟨s.machine.enter p, s.calls⟩ log (issued ++ [r]) where
  fixed := accounted.fixed
  calls := accounted.calls
  tasks := by
    rw [Machine.enter_length, accounted.tasks, List.length_append]
    rfl
  known e there := by
    rw [Machine.enter_length]
    exact Nat.lt_succ_of_lt (accounted.known e there)
  along t r' there := by
    rw [s.machine.enter_task]
    by_cases own : t = s.machine.tasks.length
    · subst own
      rw [accounted.tasks, List.getElem?_concat_length] at there
      cases there
      obtain ⟨silent, idle⟩ := told_absent fun e there => Nat.ne_of_lt (accounted.known e there)
      rw [silent, idle, if_pos rfl]
      exact ⟨job, p, read, rfl, enters.along⟩
    · have bound := (List.getElem?_eq_some_iff.mp there).1
      rw [List.length_append, List.length_singleton, ← accounted.tasks] at bound
      have before : t < s.machine.tasks.length :=
        Nat.lt_of_le_of_ne (Nat.le_of_lt_succ bound) own
      rw [accounted.tasks] at before
      rw [List.getElem?_append_left before] at there
      rw [if_neg own]
      exact accounted.along t r' there

/-- What happens to a task goes on its own account and on no other. -/
theorem place_accounted (accounted : Accounted options s log issued) {t : TaskId} {h : Happening}
    {m' : Machine} {calls : List NetworkCall} (stands : s.machine.tasks[t]? = some p)
    (passes : s.machine.Passes t p h p' m' calls) :
    Accounted options ⟨m'.place t p p', s.calls ++ calls⟩ (log ++ [⟨t, h, calls⟩]) issued where
  fixed := passes.rest.1.trans accounted.fixed
  calls := by
    rw [List.flatMap_append, ← accounted.calls]
    exact congrArg _ (List.append_nil calls).symm
  tasks := (Machine.place_length passes).trans accounted.tasks
  known e there := by
    rw [Machine.place_length passes]
    rcases List.mem_append.mp there with there | there
    · exact accounted.known e there
    · rw [List.mem_singleton.mp there]
      exact (List.getElem?_eq_some_iff.mp stands).1
  along u r there := by
    obtain ⟨job, q, read, stood, along⟩ := accounted.along u r there
    rw [Machine.place_task stands passes]
    by_cases own : u = t
    · subst own
      rw [stands] at stood
      cases stood
      rw [told_own rfl, made_own rfl, if_pos rfl]
      rw [← accounted.fixed] at along ⊢
      exact ⟨job, p', read, rfl, passes.along along⟩
    · rw [told_other (Ne.symm own), made_other (Ne.symm own), if_neg own]
      exact ⟨job, q, read, stood, along⟩

theorem accounted_recorded {s' : History} {a : Action} {es : List Entry} {rs : List Request}
    (recorded : Recorded s a s' es rs) (accounted : Accounted options s log issued) :
    Accounted options s' (log ++ es) (issued ++ rs) := by
  cases recorded with
  | enters read enters =>
    rw [List.append_nil]
    exact enter_accounted accounted read enters
  | passes stands passes =>
    rw [List.append_nil]
    exact place_accounted accounted stands passes
  | stays =>
    rw [List.append_nil, List.append_nil]
    exact accounted

end

theorem along_run (options : Options) (as : List Action) :
    let s : History := { machine := { options } }
    Accounted options (s.run as) (s.record as) (issued as) := by
  intro s
  exact run_keeps_record (P := Accounted options) accounted_recorded (accounted_start options) as

end History

end TableQuery

import TableQuery.Proofs.Connection.Record

/-!
# Turns

Statements and closings take turns. Whoever is in progress has the turn lock, so there is one at
most. The line of the turn lock is in the order of the tasks, and tasks start from its head, so they
start in the order in which they came (`Ordered`). While a statement is in progress on a connection,
that connection is the one there is (`Served`).
-/

namespace TableQuery

namespace Phase

/-- The connection on which a statement is in progress: its cursor is asked for, open or closing. -/
def cursorOn? : Phase → Option ConnectionId
  | .openingCursor c _ _ => some c
  | .executing c => some c
  | .fetching c _ => some c
  | .closingCursor c _ => some c
  | _ => none

/-- A statement or a closing is in progress. -/
def inProgress : Phase → Bool
  | .disconnecting _ => true
  | p => p.cursorOn?.isSome

/-- The task is in the line of the turn lock and has not started. -/
def queues (p : Phase) : Bool := p.inTurn && !p.inProgress

theorem hasTurn_of_inProgress {p : Phase} (progress : p.inProgress = true) : p.hasTurn = true := by
  cases p with
  | openingCursor | executing | fetching | closingCursor | disconnecting => rfl
  | _ => cases progress

theorem inProgress_of_cursorOn? {p : Phase} {c : ConnectionId} (cursor : p.cursorOn? = some c) :
    p.inProgress = true := by
  unfold inProgress
  split
  · rfl
  · rw [cursor]
    rfl

end Phase

/-- A statement starts with its cursor, a closing with the connection that it closes. -/
def NetworkCall.starts : NetworkCall → Bool
  | .openCursor _ => true
  | .disconnect _ => true
  | _ => false

namespace Machine

variable {m m' : Machine} {t : TaskId} {p p' : Phase} {h : Happening} {calls : List NetworkCall}

/-! ### One at a time -/

theorem Sound.exclusive (sound : m.Sound) {t u : TaskId} {p q : Phase}
    (stands : m.tasks[t]? = some p) (stands' : m.tasks[u]? = some q)
    (progress : p.inProgress = true) (progress' : q.inProgress = true) : t = u := by
  have holder := sound.turn.held t p stands (Phase.hasTurn_of_inProgress progress)
  rw [sound.turn.held u q stands' (Phase.hasTurn_of_inProgress progress')] at holder
  exact (Option.some.inj holder).symm

/-! ### In order -/

/-- Nobody comes back to the line. -/
theorem Passes.queues (passes : Passes m t p h p' m' calls) (waits : p'.queues = true) :
    p.queues = true := by
  cases passes with
  | @gateOpen need | @connected need => cases need <;> cases waits
  | gateClosed => exact waits
  | turnClosed | turnToClose => rfl
  | _ => cases waits

/-- A task starts out of the line. -/
theorem Passes.starts (passes : Passes m t p h p' m' calls)
    (starts : calls.any NetworkCall.starts = true) : p.queues = true ∧ p'.queues = false := by
  cases passes with
  | turnOpen | shuts => exact ⟨rfl, rfl⟩
  | @gateOpen need | @connected need =>
    cases need with
    | statement text values => exact ⟨rfl, rfl⟩
    | connection => cases starts
  | _ => cases starts

/-- A step takes nobody into the line of the turn lock. -/
theorem place_line (sound : m.Sound) (stands : m.tasks[t]? = some p)
    (passes : Passes m t p h p' m' calls) :
    (m'.place t p p').turn.line.Sublist m.turn.line := by
  show (m'.turn.shift t p.inTurn p'.inTurn).line.Sublist m.turn.line
  rw [passes.rest.2.1]
  cases before : p.inTurn with
  | false =>
    cases after : p'.inTurn with
    | false => exact List.Sublist.refl _
    | true =>
      rw [passes.inTurn after] at before
      cases before
  | true =>
    cases after : p'.inTurn with
    | true => exact List.Sublist.refl _
    | false =>
      have holder := passes.turn_holder sound stands before
      show (m.turn.release).line.Sublist _
      rw [Lock.line_release, Lock.line_eq_cons holder]
      exact List.sublist_cons_self _ _

/-- A new task comes last, if it takes a turn. -/
theorem enter_line (sound : m.Sound) (p : Phase) :
    (m.enter p).turn.line.Sublist (m.turn.line ++ [m.tasks.length]) := by
  show (m.turn.shift m.tasks.length false p.inTurn).line.Sublist _
  cases p.inTurn with
  | false => exact List.sublist_append_left _ _
  | true =>
    have last : (m.turn.request m.tasks.length).line = m.turn.line ++ [m.tasks.length] :=
      Lock.line_request sound.turn.idle _
    show (m.turn.request m.tasks.length).line.Sublist _
    exact last ▸ List.Sublist.refl _

theorem Sound.known (sound : m.Sound) {u : TaskId} (waits : u ∈ m.turn.line) :
    u < m.tasks.length := by
  obtain ⟨p, there, -⟩ := (sound.turn.member u).mp waits
  exact (List.getElem?_eq_some_iff.mp there).1

/-- The line of the turn lock is in order, the tasks that started did so in order, and they are
ahead of all who queue. -/
structure Ordered (m : Machine) (started : List TaskId) : Prop where
  line : m.turn.line.Pairwise (· < ·)
  sorted : started.Pairwise (· < ·)
  known : ∀ u ∈ started, u < m.tasks.length
  ahead : ∀ u ∈ started, ∀ (t : TaskId) p, m.tasks[t]? = some p → p.queues = true → u < t

theorem ordered_start (options : Options) : Ordered { options } [] where
  line := .nil
  sorted := .nil
  known u never := by cases never
  ahead u never := by cases never

theorem enter_ordered (sound : m.Sound) {started : List TaskId} (ordered : m.Ordered started)
    (p : Phase) : (m.enter p).Ordered started where
  line := by
    refine List.Pairwise.sublist (enter_line sound p) ?_
    refine List.pairwise_append.mpr ⟨ordered.line, List.pairwise_singleton _ _, ?_⟩
    intro u waits v last
    rw [List.mem_singleton.mp last]
    exact sound.known waits
  sorted := ordered.sorted
  known u begun := by
    rw [enter_length]
    exact Nat.lt_succ_of_lt (ordered.known u begun)
  ahead u begun t q there waits := by
    rcases stands_enter there with ⟨rfl, -⟩ | ⟨-, there⟩
    · exact ordered.known u begun
    · exact ordered.ahead u begun t q there waits

theorem place_ordered (sound : m.Sound) {started : List TaskId} (ordered : m.Ordered started)
    (stands : m.tasks[t]? = some p) (passes : Passes m t p h p' m' calls) :
    (m'.place t p p').Ordered (started ++ if calls.any NetworkCall.starts then [t] else []) := by
  have line := List.Pairwise.sublist (place_line sound stands passes) ordered.line
  have ahead (u : TaskId) (begun : u ∈ started) (v : TaskId) (q : Phase)
      (there : (m'.place t p p').tasks[v]? = some q) (waits : q.queues = true) : u < v := by
    rcases stands_place stands passes there with ⟨rfl, rfl⟩ | ⟨-, there⟩
    · exact ordered.ahead u begun v p stands (passes.queues waits)
    · exact ordered.ahead u begun v q there waits
  by_cases starts : calls.any NetworkCall.starts = true
  · obtain ⟨queued, started'⟩ := passes.starts starts
    have inLine : p.inTurn = true := (Bool.and_eq_true_iff.mp queued).1
    have holder := passes.turn_holder sound stands inLine
    rw [if_pos starts]
    refine ⟨line, ?_, fun u begun => ?_, fun u begun v q there waits => ?_⟩
    · refine List.pairwise_append.mpr ⟨ordered.sorted, List.pairwise_singleton _ _, ?_⟩
      intro u begun v last
      rw [List.mem_singleton.mp last]
      exact ordered.ahead u begun t p stands queued
    · rw [place_length passes]
      rcases List.mem_append.mp begun with begun | last
      · exact ordered.known u begun
      · rw [List.mem_singleton.mp last]
        exact (List.getElem?_eq_some_iff.mp stands).1
    · rcases List.mem_append.mp begun with begun | last
      · exact ahead u begun v q there waits
      · -- The task was the head of the line, so whoever still queues stands behind it.
        rw [List.mem_singleton.mp last]
        rcases stands_place stands passes there with ⟨-, rfl⟩ | ⟨other, there⟩
        · rw [started'] at waits
          cases waits
        · have behind : v ∈ m.turn.line :=
            (sound.turn.member v).mpr ⟨q, there, (Bool.and_eq_true_iff.mp waits).1⟩
          have sorted := ordered.line
          rw [Lock.line_eq_cons holder] at behind sorted
          exact List.rel_of_pairwise_cons sorted ((List.mem_cons.mp behind).resolve_left other)
  · rw [if_neg starts, List.append_nil]
    refine ⟨line, ordered.sorted, fun u begun => ?_, ahead⟩
    rw [place_length passes]
    exact ordered.known u begun

/-! ### On the connection there is -/

/-- A statement in progress is on the connection there is. -/
def Served (m : Machine) : Prop :=
  ∀ (t : TaskId) p c, m.tasks[t]? = some p → p.cursorOn? = some c → m.handle = some c

/-- A step that leads a statement on leaves it on its connection, or gives it the one there is. -/
theorem Passes.served (passes : Passes m t p h p' m' calls) {c : ConnectionId}
    (cursor : p'.cursorOn? = some c) :
    m'.handle = some c ∨ p.cursorOn? = some c ∧ m'.handle = m.handle := by
  cases passes with
  | turnOpen turn opened =>
    cases cursor
    exact .inl opened
  | @gateOpen need c' gate opened =>
    cases need with
    | statement text values =>
      cases cursor
      exact .inl opened
    | connection => cases cursor
  | @connected need =>
    cases need with
    | statement text values =>
      cases cursor
      exact .inl rfl
    | connection => cases cursor
  | cursorOpened | returnsRows | written | unexecuted | fetched => exact .inr ⟨cursor, rfl⟩
  | _ => cases cursor

/-- Who changes the connection while there is one closes it, in its turn. -/
theorem Passes.keeps_handle (passes : Passes m t p h p' m' calls) {c : ConnectionId}
    (opened : m.handle = some c) (vacant : p.hasGate = true → m.handle = none) :
    m'.handle = some c ∨ p.hasTurn = true := by
  cases passes with
  | connected =>
    rw [vacant rfl] at opened
    cases opened
  | shuts => exact .inr rfl
  | _ => exact .inl opened

theorem place_served (sound : m.Sound) (served : m.Served) (stands : m.tasks[t]? = some p)
    (passes : Passes m t p h p' m' calls) : (m'.place t p p').Served := by
  intro u q c there cursor
  show m'.handle = some c
  rcases stands_place stands passes there with ⟨-, rfl⟩ | ⟨other, there⟩
  · rcases passes.served cursor with opened | ⟨before, same⟩
    · exact opened
    · exact same.trans (served t p c stands before)
  · have opened := served u q c there cursor
    rcases passes.keeps_handle opened (sound.vacant t p stands) with kept | turn
    · exact kept
    · -- Both would have the turn.
      have holder := sound.turn.held t p stands turn
      have progress := Phase.inProgress_of_cursorOn? cursor
      rw [sound.turn.held u q there (Phase.hasTurn_of_inProgress progress)] at holder
      exact (other (Option.some.inj holder)).elim

theorem enter_served (served : m.Served) {job : Job} (enters : m.Enters job p) :
    (m.enter p).Served := by
  intro u q c there cursor
  rcases stands_enter there with ⟨-, rfl⟩ | ⟨-, there⟩
  · cases enters <;> cases cursor
  · exact served u q c there cursor

end Machine

namespace History

/-- The tasks that started a statement or a closing, in the order in which they did. -/
def starts (log : List Entry) : List TaskId :=
  (log.filter fun e => e.calls.any NetworkCall.starts).map Entry.task

theorem starts_append (log : List Entry) (e : Entry) :
    starts (log ++ [e]) =
      starts log ++ if e.calls.any NetworkCall.starts then [e.task] else [] := by
  unfold starts
  rw [List.filter_append, List.map_append, List.filter_cons]
  by_cases begins : e.calls.any NetworkCall.starts = true
  · rw [if_pos begins, if_pos begins]
    rfl
  · rw [if_neg begins, if_neg begins]
    rfl

theorem ordered_run (options : Options) (as : List Action) :
    let s : History := { machine := { options } }
    (s.run as).machine.Ordered (starts (s.record as)) := by
  intro s
  have start : s.machine.Sound ∧ s.machine.Ordered (starts []) :=
    ⟨Machine.sound_start options, Machine.ordered_start options⟩
  refine (run_keeps_record (P := fun s log _ => s.machine.Sound ∧ s.machine.Ordered (starts log))
    (fun recorded ⟨sound, ordered⟩ => ?_) start as).2
  cases recorded with
  | enters read enters =>
    rw [List.append_nil]
    exact ⟨Machine.enter_sound sound enters, Machine.enter_ordered sound ordered _⟩
  | passes stands passes =>
    rw [starts_append]
    exact ⟨Machine.place_sound sound stands passes, Machine.place_ordered sound ordered stands passes⟩
  | stays =>
    rw [List.append_nil]
    exact ⟨sound, ordered⟩

theorem served_run (options : Options) (as : List Action) :
    (run { machine := { options } } as).machine.Served := by
  refine (run_keeps (P := fun s => s.machine.Sound ∧ s.machine.Served)
    (fun s a ⟨sound, served⟩ => ⟨s.act_sound a sound, ?_⟩)
    ⟨Machine.sound_start options, fun t p c never => by cases never⟩ as).2
  have acts := s.act_acts a
  generalize s.act a = s' at acts
  cases acts with
  | enters read enters => exact Machine.enter_served served enters
  | passes stands passes => exact Machine.place_served sound served stands passes
  | stays => exact served

end History

end TableQuery

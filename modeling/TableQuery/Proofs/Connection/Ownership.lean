import TableQuery.Proofs.Connection.History

/-!
# One connection at a time

A machine opens a connection only when it has none and nobody closes one, so at most one connection
is live in every history. A connection is closed once at most. A request for the connection gives the
current one, and a failed attempt to open one leaves the machine ready for the next. The main
statement is `run_one_connection`; what carries it is the invariant `Owned`.
-/

namespace TableQuery

def NetworkCall.closes? : NetworkCall → Option ConnectionId
  | .disconnect c => some c
  | _ => none

def NetworkCall.connects : NetworkCall → Bool
  | .connect _ => true
  | _ => false

/-- The connection that a task has just been given. -/
def Phase.given? : Phase → Option ConnectionId
  | .openingCursor c _ _ => some c
  | .finished (.ok (.connection c)) => some c
  | _ => none

/-- A task that was asked for the connection, and fails if it does not give it. -/
def Phase.ForConnection : Phase → Prop
  | .awaitingGate need => need = .connection
  | .connecting need => need = .connection
  | .finished (.ok (.connection _)) => True
  | .finished (.error _) => True
  | _ => False

namespace Machine

variable {m m' : Machine} {t : TaskId} {p p' : Phase} {h : Happening} {calls : List NetworkCall}

theorem given_closes (need : Need) (c : ConnectionId) :
    (need.calls c).filterMap NetworkCall.closes? = [] := by
  cases need <;> rfl

/-- A step leaves the connection as it is, opens the next one, or closes the one there is. -/
theorem Passes.connection (passes : Passes m t p h p' m' calls) :
    (m'.handle = m.handle ∧ m'.opened = m.opened ∧ calls.filterMap NetworkCall.closes? = []) ∨
      (p.hasGate = true ∧ m'.handle = some (m.opened + 1) ∧ m'.opened = m.opened + 1 ∧
        calls.filterMap NetworkCall.closes? = []) ∨
      ∃ c, m.handle = some c ∧ m'.handle = none ∧ m'.opened = m.opened ∧
        calls.filterMap NetworkCall.closes? = [c] := by
  cases passes with
  | gateOpen => exact .inl ⟨rfl, rfl, given_closes _ _⟩
  | connected => exact .inr (.inl ⟨rfl, rfl, rfl, given_closes _ _⟩)
  | shuts gate opened => exact .inr (.inr ⟨_, opened, rfl, rfl, rfl⟩)
  | _ => exact .inl ⟨rfl, rfl, rfl⟩

/-- A step that leads to the end with a connection gives the one there is afterwards. -/
theorem Passes.given (passes : Passes m t p h p' m' calls) (sound : m.Sound)
    (stands : m.tasks[t]? = some p) {c : ConnectionId} (given : p'.given? = some c) :
    m'.handle = some c := by
  cases passes with
  | turnOpen turn opened =>
    cases given
    exact opened
  | @gateOpen need c' gate opened => cases need <;> cases given <;> exact opened
  | @connected need => cases need <;> cases given <;> rfl
  | @cursorClosed c' outcome r =>
    -- A statement comes to a value, so it never ends with a connection.
    cases r with
    | error f => cases given
    | ok u =>
      cases outcome with
      | error f => cases given
      | ok o =>
        obtain ⟨v, rfl⟩ := sound.results t c' o stands
        cases given
  | @disconnected c' r => cases r <;> cases given
  | _ => cases given

theorem Enters.current {job : Job} (enters : m.Enters job p) {c : ConnectionId}
    (given : p.given? = some c) : m.handle = some c := by
  cases enters with
  | given opened =>
    cases given
    exact opened
  | _ => cases given

/-- A connection that is there was asked for. -/
theorem Passes.unopened (passes : Passes m t p h p' m' calls) (vacant : m.handle = none)
    (idle : ∀ need, p ≠ .connecting need) (quiet : calls.filter NetworkCall.connects = []) :
    m'.handle = none ∧ ∀ need, p' ≠ .connecting need := by
  cases passes with
  | gateOpen gate opened =>
    rw [vacant] at opened
    cases opened
  | gateClosed => cases quiet
  | @connected need => exact (idle need rfl).elim
  | shuts => exact ⟨rfl, fun need never => by cases never⟩
  | _ => exact ⟨vacant, fun need never => by cases never⟩

theorem Passes.forConnection (passes : Passes m t p h p' m' calls) (asked : p.ForConnection) :
    p'.ForConnection := by
  cases passes with
  | gateOpen =>
    cases asked
    trivial
  | gateClosed => exact asked
  | gateRefused | unconnected => trivial
  | connected =>
    cases asked
    trivial
  | _ => exact asked.elim

end Machine

namespace History

/-- The connections that were asked to close, in order. -/
def closing (s : History) : List ConnectionId := s.calls.filterMap NetworkCall.closes?

/-- A connection that was opened and has not been closed to the end: that was not asked for, or a
task still waits for it. -/
def Live (s : History) (c : ConnectionId) : Prop :=
  1 ≤ c ∧ c ≤ s.machine.opened ∧
    (c ∈ s.closing → ∃ t : TaskId, s.machine.tasks[t]? = some (.disconnecting c))

/-- How often a connection was asked for. -/
def attempts (s : History) : Nat := (s.calls.filter NetworkCall.connects).length

/-! ### The connection and those that were closed -/

/-- The connections so far are the one there is and those that were asked to close, each once. -/
structure Owned (handle : Option ConnectionId) (opened : Nat) (closing : List ConnectionId) : Prop where
  current : ∀ c, handle = some c → 1 ≤ c ∧ c ≤ opened ∧ c ∉ closing
  known : ∀ c, 1 ≤ c → c ≤ opened → handle = some c ∨ c ∈ closing
  opened : ∀ c ∈ closing, c ≤ opened
  once : closing.Nodup

theorem owned_start : Owned none 0 [] where
  current c never := by cases never
  known c positive small := by omega
  opened c never := by cases never
  once := List.nodup_nil

theorem Owned.open {opened : Nat} {closing : List ConnectionId} (owned : Owned none opened closing) :
    Owned (some (opened + 1)) (opened + 1) closing where
  current c same := by
    cases same
    exact ⟨Nat.le_add_left 1 opened, Nat.le_refl _,
      fun gone => Nat.not_succ_le_self opened (owned.opened _ gone)⟩
  known c positive small := by
    by_cases last : c = opened + 1
    · exact .inl (congrArg some last.symm)
    · refine .inr ((owned.known c positive ?_).resolve_left fun never => by cases never)
      have below : (c : Nat) ≤ opened + 1 := small
      omega
  opened c gone := Nat.le_succ_of_le (owned.opened c gone)
  once := owned.once

theorem Owned.close {c : ConnectionId} {opened : Nat} {closing : List ConnectionId}
    (owned : Owned (some c) opened closing) : Owned none opened (closing ++ [c]) where
  current c never := by cases never
  known d positive small := by
    rcases owned.known d positive small with same | gone
    · cases same
      exact .inr (List.mem_append_right _ (List.mem_singleton.mpr rfl))
    · exact .inr (List.mem_append_left _ gone)
  opened d gone := by
    rcases List.mem_append.mp gone with gone | same
    · exact owned.opened d gone
    · cases List.mem_singleton.mp same
      exact (owned.current _ rfl).2.1
  once := by
    refine List.nodup_append.mpr ⟨owned.once, List.pairwise_singleton _ c, fun d gone e same => ?_⟩
    cases List.mem_singleton.mp same
    rintro rfl
    exact (owned.current _ rfl).2.2 gone

theorem act_owned (s : History) (a : Action) (sound : s.machine.Sound)
    (owned : Owned s.machine.handle s.machine.opened s.closing) :
    Owned (s.act a).machine.handle (s.act a).machine.opened (s.act a).closing := by
  have acts := s.act_acts a
  generalize s.act a = s' at acts
  cases acts with
  | enters read enters => exact owned
  | stays => exact owned
  | @passes t h p p' m' calls stands passes =>
    have closing : closing ⟨m'.place t p p', s.calls ++ calls⟩ =
        s.closing ++ calls.filterMap NetworkCall.closes? := List.filterMap_append
    rw [closing]
    show Owned m'.handle m'.opened _
    rcases passes.connection with ⟨handle, opened, silent⟩ | ⟨gate, handle, opened, silent⟩ |
      ⟨c, current, handle, opened, one⟩
    · rw [handle, opened, silent, List.append_nil]
      exact owned
    · rw [sound.vacant t p stands gate] at owned
      rw [handle, opened, silent, List.append_nil]
      exact owned.open
    · rw [current] at owned
      rw [handle, opened, one]
      exact owned.close

theorem owned_run (options : Options) (as : List Action) :
    let s := run { machine := { options } } as
    s.machine.Sound ∧ Owned s.machine.handle s.machine.opened s.closing :=
  run_keeps (P := fun s => s.machine.Sound ∧ Owned s.machine.handle s.machine.opened s.closing)
    (fun s a ⟨sound, owned⟩ => ⟨s.act_sound a sound, s.act_owned a sound owned⟩)
    ⟨Machine.sound_start options, owned_start⟩ as

/-- Who closes a connection has the gate, so nobody else closes one and there is none. -/
theorem live_unique {s : History} (sound : s.machine.Sound)
    (owned : Owned s.machine.handle s.machine.opened s.closing) {c c' : ConnectionId}
    (live : s.Live c) (live' : s.Live c') : c = c' := by
  have closes {t : TaskId} {d : ConnectionId} (closes : s.machine.tasks[t]? = some (.disconnecting d)) :
      s.machine.handle = none ∧ s.machine.gate.holder = some t :=
    ⟨sound.vacant t _ closes rfl, sound.gate.held t _ closes rfl⟩
  obtain ⟨positive, small, waits⟩ := live
  obtain ⟨positive', small', waits'⟩ := live'
  rcases owned.known c positive small with current | gone <;>
    rcases owned.known c' positive' small' with current' | gone'
  · exact Option.some.inj (current.symm.trans current')
  · obtain ⟨t, stands⟩ := waits' gone'
    rw [(closes stands).1] at current
    cases current
  · obtain ⟨t, stands⟩ := waits gone
    rw [(closes stands).1] at current'
    cases current'
  · obtain ⟨t, stands⟩ := waits gone
    obtain ⟨u, stands'⟩ := waits' gone'
    have same := (closes stands).2.symm.trans (closes stands').2
    cases same
    rw [stands] at stands'
    cases stands'
    rfl

/-! ### Who asks for the connection -/

/-- A task that was given a connection by an action has the current one. -/
theorem act_given {s : History} (sound : s.machine.Sound) {a : Action} {t : TaskId} {p : Phase}
    {c : ConnectionId} (now : (s.act a).machine.tasks[t]? = some p)
    (new : s.machine.tasks[t]? ≠ some p) (given : p.given? = some c) :
    (s.act a).machine.handle = some c := by
  have acts := s.act_acts a
  generalize s.act a = s' at acts now
  cases acts with
  | @enters r job q read enters =>
    rcases Machine.stands_enter now with ⟨-, rfl⟩ | ⟨-, stood⟩
    · exact enters.current given
    · exact (new stood).elim
  | passes stands passes =>
    rcases Machine.stands_place stands passes now with ⟨-, rfl⟩ | ⟨-, stood⟩
    · exact passes.given sound stands given
    · exact (new stood).elim
  | stays => exact (new now).elim

theorem act_forConnection (s : History) (a : Action) {t : TaskId}
    (asked : ∃ p, s.machine.tasks[t]? = some p ∧ p.ForConnection) :
    ∃ p, (s.act a).machine.tasks[t]? = some p ∧ p.ForConnection := by
  obtain ⟨p, stands, asked⟩ := asked
  have acts := s.act_acts a
  generalize s.act a = s' at acts
  cases acts with
  | enters read enters =>
    refine ⟨p, ?_, asked⟩
    rw [s.machine.enter_task, if_neg]
    · exact stands
    · exact Nat.ne_of_lt (List.getElem?_eq_some_iff.mp stands).1
  | @passes u h q q' m' calls stands' passes =>
    by_cases own : t = u
    · subst own
      rw [stands] at stands'
      cases stands'
      refine ⟨q', ?_, passes.forConnection asked⟩
      rw [Machine.place_task stands passes, if_pos rfl]
    · refine ⟨p, ?_, asked⟩
      rw [Machine.place_task stands' passes, if_neg own]
      exact stands
  | stays => exact ⟨p, stands, asked⟩

/-- A request for the connection ends with one, or with a fault. -/
theorem run_connection (s : History) (later : List Action) {o : Outcome}
    (ended : ((s.act (.request .connection)).run later).machine.tasks[s.machine.tasks.length]? =
      some (.finished (.ok o))) : ∃ c, o = .connection c := by
  have asked : ∃ p, (s.act (.request .connection)).machine.tasks[s.machine.tasks.length]? = some p ∧
      p.ForConnection := by
    obtain ⟨p, enters, submitted⟩ := s.machine.submit_enters (.need .connection)
    have entered : s.act (.request .connection) = s.keep ⟨s.machine.enter p, []⟩ := by
      simp only [act, Machine.take, Request.job, map_ok, submitted]
    rw [entered]
    refine ⟨p, ?_, ?_⟩
    · show (s.machine.enter p).tasks[s.machine.tasks.length]? = _
      rw [s.machine.enter_task, if_pos rfl]
    · cases enters with
      | given => trivial
      | waits => rfl
  obtain ⟨p, stands, kind⟩ := run_keeps
    (P := fun s' => ∃ p, s'.machine.tasks[s.machine.tasks.length]? = some p ∧ p.ForConnection)
    (fun s' a asked => s'.act_forConnection a asked) asked later
  rw [ended] at stands
  cases stands
  cases o with
  | connection c => exact ⟨c, rfl⟩
  | _ => cases kind

/-! ### Failed attempts -/

/-- There is no connection and nobody opens one, unless one was asked for more often. -/
structure Vacant (attempts : Nat) (s : History) : Prop where
  more : attempts ≤ s.attempts
  vacant : s.attempts = attempts → s.machine.handle = none ∧
    ∀ (t : TaskId) need, s.machine.tasks[t]? ≠ some (.connecting need)

theorem act_vacant {attempts : Nat} (s : History) (a : Action) (vacant : s.Vacant attempts) :
    (s.act a).Vacant attempts := by
  have acts := s.act_acts a
  generalize s.act a = s' at acts
  cases acts with
  | @enters r job p read enters =>
    refine ⟨vacant.more, fun same => ?_⟩
    obtain ⟨absent, idle⟩ := vacant.vacant same
    refine ⟨absent, fun t need there => ?_⟩
    rcases Machine.stands_enter there with ⟨-, rfl⟩ | ⟨-, there⟩
    · cases enters
    · exact idle t need there
  | @passes t h p p' m' calls stands passes =>
    have added : History.attempts ⟨m'.place t p p', s.calls ++ calls⟩ =
        s.attempts + (calls.filter NetworkCall.connects).length := by
      unfold History.attempts
      rw [List.filter_append, List.length_append]
    have more := vacant.more
    refine ⟨by rw [added]; omega, fun same => ?_⟩
    rw [added] at same
    obtain ⟨absent, idle⟩ := vacant.vacant (by omega)
    have quiet : calls.filter NetworkCall.connects = [] := List.length_eq_zero_iff.mp (by omega)
    obtain ⟨absent', idle'⟩ :=
      passes.unopened absent (fun need same => idle t need (same ▸ stands)) quiet
    refine ⟨absent', fun u need there => ?_⟩
    rcases Machine.stands_place stands passes there with ⟨-, connects⟩ | ⟨-, there⟩
    · exact idle' need connects.symm
    · exact idle u need there
  | stays => exact vacant

/-- A failed attempt ends its task outside both locks and leaves no connection. -/
theorem act_unconnected {s : History} (sound : s.machine.Sound) {t : TaskId} {need : Need}
    (stands : s.machine.tasks[t]? = some (.connecting need)) (f : Fault) :
    let s' := s.act (.happens t (.connected (.error f)))
    s'.machine.tasks[t]? = some (.finished (.error f)) ∧ s'.Vacant s'.attempts ∧
      t ∉ s'.machine.turn.line ∧ t ∉ s'.machine.gate.line := by
  intro s'
  have passed : s' = ⟨s.machine.place t (.connecting need) (.finished (.error f)), s.calls ++ []⟩ := by
    have stepped : s.machine.step t (.connected (.error f)) =
        some ({ s.machine with gate := s.machine.gate.release }.abandon t f need) := by
      simp only [Machine.step, stands, Machine.advance]
    simp only [s', act, stepped, keep, Machine.abandon_calls]
    rw [Machine.abandon_machine (p := .connecting need) rfl rfl]
  have passes : s.machine.Passes t (.connecting need) (.connected (.error f)) (.finished (.error f))
      s.machine [] := .unconnected
  have sound' : s'.machine.Sound := s.act_sound _ sound
  have ended : s'.machine.tasks[t]? = some (.finished (.error f)) := by
    rw [passed]
    exact (Machine.place_task stands passes t).trans (if_pos rfl)
  have outside {line : Phase → Bool} (out : line (.finished (.error f)) = false) :
      ¬ ∃ p, s'.machine.tasks[t]? = some p ∧ line p = true := by
    rintro ⟨p, there, inside⟩
    rw [ended] at there
    cases there
    rw [out] at inside
    cases inside
  refine ⟨ended, ⟨Nat.le_refl _, fun _ => ⟨?_, fun u need' there => ?_⟩⟩, ?_, ?_⟩
  · rw [passed]
    exact sound.vacant t _ stands rfl
  · rw [passed] at there
    rcases Machine.stands_place stands passes there with ⟨-, never⟩ | ⟨other, there⟩
    · cases never
    · have holder := sound.gate.held t _ stands rfl
      rw [sound.gate.held u _ there rfl] at holder
      exact other (Option.some.inj holder)
  · rw [sound'.turn.member]
    exact outside rfl
  · rw [sound'.gate.member]
    exact outside rfl

/-- Who has the gate and finds no connection asks for one. -/
theorem act_asks {s : History} (absent : s.machine.handle = none)
    (texts : s.machine.options.namesAreTexts = true) {t : TaskId} {need : Need}
    (stands : s.machine.tasks[t]? = some (.awaitingGate need)) (holder : s.machine.gate.holder = some t) :
    (s.act (.happens t .granted)).calls = s.calls ++ [.connect s.machine.options] := by
  have stepped : s.machine.step t .granted = some ⟨s.machine.put t (.connecting need),
      [.called (.connect s.machine.options)]⟩ := by
    simp only [Machine.step, stands, Machine.advance, holder, Machine.pass, absent, texts, if_true]
  simp only [act, stepped]
  rfl

/-! ### Every history -/

/-- In every history at most one connection was opened and not closed to the end, and no connection
is asked to close twice. A request for the connection ends with one or with a fault; a task that is
given a connection has the current one. A failed attempt to open one leaves none, and its task stands
in the line of neither lock; until a connection is asked for again there is none, and the next task
that has the gate asks for it. -/
theorem run_one_connection (options : Options) (as : List Action) :
    let s := run { machine := { options } } as
    (∀ c c', s.Live c → s.Live c' → c = c') ∧
    s.closing.Nodup ∧
    (∀ later o, ((s.act (.request .connection)).run later).machine.tasks[s.machine.tasks.length]? =
      some (.finished (.ok o)) → ∃ c, o = .connection c) ∧
    (∀ a (t : TaskId) p c, (s.act a).machine.tasks[t]? = some p → s.machine.tasks[t]? ≠ some p →
      p.given? = some c → (s.act a).machine.handle = some c) ∧
    ∀ (t : TaskId) need f, s.machine.tasks[t]? = some (.connecting need) →
      let failed := s.act (.happens t (.connected (.error f)))
      failed.machine.tasks[t]? = some (.finished (.error f)) ∧ failed.machine.handle = none ∧
      t ∉ failed.machine.turn.line ∧ t ∉ failed.machine.gate.line ∧
      ∀ later, (failed.run later).attempts = failed.attempts →
        (failed.run later).machine.handle = none ∧
        ∀ (u : TaskId) need', (failed.run later).machine.tasks[u]? = some (.awaitingGate need') →
          (failed.run later).machine.gate.holder = some u →
          ((failed.run later).act (.happens u .granted)).calls =
            (failed.run later).calls ++ [.connect options] := by
  intro s
  obtain ⟨sound, owned⟩ := owned_run options as
  have fixed : s.machine.options = options := run_options _ as
  refine ⟨fun c c' => live_unique sound owned, owned.once, fun later o => s.run_connection later,
    fun a t p c => act_given sound, fun t need f stands => ?_⟩
  intro failed
  obtain ⟨ended, vacant, turn, gate⟩ := act_unconnected sound stands f
  refine ⟨ended, (vacant.vacant rfl).1, turn, gate, fun later same => ?_⟩
  have absent := ((run_keeps act_vacant vacant later).vacant same).1
  refine ⟨absent, fun u need' waits holder => ?_⟩
  have kept : (failed.run later).machine.options = options :=
    (run_options failed later).trans ((s.act_options _).trans fixed)
  have texts : (failed.run later).machine.options.namesAreTexts = true := by
    rw [kept, ← fixed]
    exact sound.texts t need stands
  rw [act_asks absent texts waits holder, kept]

/-- Of two tasks that wait for the connection the first fails to open one, and the second tries. -/
theorem run_one_connection_second_try :
    let options : Options :=
      [(.text "host", .text "localhost"), (.text "port", .int 3306), (.text "user", .text "app"),
        (.text "password", .text "secret"), (.text "database", .text "shop")]
    let f : Fault := .raised (.other "OSError" "unreachable")
    let s := run { machine := { options } }
      [.request .connection, .request .connection, .happens 0 .granted]
    let failed := s.act (.happens 0 (.connected (.error f)))
    s.machine.tasks[0]? = some (.connecting .connection) ∧
      failed.machine.tasks[1]? = some (.awaitingGate .connection) ∧
      failed.machine.gate.holder = some 1 ∧ 0 ∉ failed.machine.gate.line ∧
      (failed.act (.happens 1 .granted)).calls = [.connect options, .connect options] := by
  intro options f s failed
  obtain ⟨-, -, -, -, fails⟩ := run_one_connection options
    [.request .connection, .request .connection, .happens 0 .granted]
  obtain ⟨-, -, -, gate, tries⟩ := fails 0 .connection f rfl
  obtain ⟨-, asks⟩ := tries [] rfl
  exact ⟨rfl, rfl, rfl, gate, asks 1 .connection rfl rfl⟩

end History

end TableQuery

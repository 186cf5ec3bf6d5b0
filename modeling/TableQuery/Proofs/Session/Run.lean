import TableQuery.Proofs.Except
import TableQuery.Proofs.Session.Task

/-!
# Runs of a session

A run takes steps one after the other. A step is a call on a builder or on a wrapper of one.
`invoke_eq_take` shows that a call by name is a step. A call is a clause call, a scope, a terminal call
or one that only looks at the builder (`Builder.view`), and the lemmas `perform_clause`,
`perform_scope`, `perform_terminal` and `perform_look` say what it comes to on either object, whichever
way a wrapper hands it on.
-/

namespace TableQuery

/-- A call on an object. `name` is given to the builder that the call makes. -/
structure Step where
  handle : Handle
  call : Call
  name : String := ""

/-- A builder answers a terminal call, and a wrapper has reported the answer to a callback. -/
def Handle.respond (h : Handle) (answer : Except Fault Answer) : Response :=
  if h.wrapper.isNone then .ofAnswer answer else .reported [Answer.report answer]

/-! ### Kinds of calls -/

/-- The answer to a call that only looks at a builder. -/
def Builder.look (b : Builder) : Call → Option Response
  | .buildSelect fields => some (.ofCompiled (b.compileSelect fields))
  | .buildInsert data upsert => some (.ofCompiled (b.compileInsert data upsert))
  | .buildUpdate data => some (.ofCompiled (b.compileUpdate data))
  | .buildDelete => some (.ofCompiled b.compileDelete)
  | .table => some (.tableName b.table)
  | .isValid => some (.validity b.isValid)
  | .error => some (.misuse b.misuse)
  | .clause _ | .terminal _ | .scope => none

inductive Builder.View (b : Builder) : Call → Prop where
  | clause (c : ClauseCall) : View b (.clause c)
  | terminal (t : Terminal) : View b (.terminal t)
  | scope : View b .scope
  | look {c : Call} {r : Response} (looks : b.look c = some r) : View b c

theorem Builder.view (b : Builder) (c : Call) : b.View c := by
  cases c with
  | clause c => exact .clause c
  | terminal t => exact .terminal t
  | scope => exact .scope
  | _ => exact .look rfl

/-- What only looks at a builder gives no object and nothing to be awaited. -/
theorem Builder.look_plain {b : Builder} {c : Call} {r : Response} (looks : b.look c = some r) :
    (∀ t, r ≠ .coroutine t) ∧ ∀ made m, r ≠ .object made m := by
  have compiled (s : Except Fault Statement) :
      (∀ t, Response.ofCompiled s ≠ .coroutine t) ∧
        ∀ made m, Response.ofCompiled s ≠ .object made m := by
    cases s <;> exact ⟨nofun, nofun⟩
  cases c with
  | clause c => cases looks
  | terminal t => cases looks
  | scope => cases looks
  | buildSelect fields | buildInsert data upsert | buildUpdate data | buildDelete =>
    cases looks
    exact compiled _
  | table | isValid | error =>
    cases looks
    exact ⟨nofun, nofun⟩

/-! ### Names -/

namespace Arguments

variable {a : Arguments} {c : Call}

theorem bind0_eq_ok {made : Call} (bound : a.bind0 made = .ok c) : c = made := by
  obtain ⟨vs, -, read⟩ := bind_eq_ok.mp bound
  split at read
  · exact (Except.ok.inj read).symm
  · cases read

theorem bind1_eq_ok {p : Parameter} {f : Value → Call} (bound : a.bind1 p f = .ok c) :
    ∃ x, c = f x := by
  obtain ⟨vs, -, read⟩ := bind_eq_ok.mp bound
  split at read
  · exact ⟨_, (Except.ok.inj read).symm⟩
  · cases read

theorem bind2_eq_ok {p q : Parameter} {f : Value → Value → Call} (bound : a.bind2 p q f = .ok c) :
    ∃ x y, c = f x y := by
  obtain ⟨vs, -, read⟩ := bind_eq_ok.mp bound
  split at read
  · exact ⟨_, _, (Except.ok.inj read).symm⟩
  · cases read

theorem bind3_eq_ok {p q r : Parameter} {f : Value → Value → Value → Call}
    (bound : a.bind3 p q r f = .ok c) : ∃ x y z, c = f x y z := by
  obtain ⟨vs, -, read⟩ := bind_eq_ok.mp bound
  split at read
  · exact ⟨_, _, _, (Except.ok.inj read).symm⟩
  · cases read

theorem bindJoin_eq_ok {side : JoinSide} (bound : a.bindJoin side = .ok c) :
    ∃ t l r o, c = .clause (.join side t l r o) := by
  obtain ⟨vs, -, read⟩ := bind_eq_ok.mp bound
  split at read
  · exact ⟨_, _, _, _, (Except.ok.inj read).symm⟩
  · cases read

end Arguments

/-- A call has the name under which it was made. -/
theorem Call.method_read {method : String} {a : Arguments} {c : Call}
    (read : Call.read method a = .ok c) : c.method = method := by
  unfold Call.read at read
  split at read
  all_goals first
    | cases Arguments.bind0_eq_ok read; rfl
    | obtain ⟨_, rfl⟩ := Arguments.bind1_eq_ok read; rfl
    | obtain ⟨_, _, rfl⟩ := Arguments.bind2_eq_ok read; rfl
    | obtain ⟨_, _, _, rfl⟩ := Arguments.bind3_eq_ok read; rfl
    | obtain ⟨_, _, _, _, rfl⟩ := Arguments.bindJoin_eq_ok read; rfl
    | cases read; rfl
    | cases read

theorem Relay.of_terminal (t : Terminal) : Relay.of (.terminal t) = .report := by cases t <;> rfl

theorem Relay.of_clause (c : ClauseCall) : Relay.of (.clause c) = .chain := by
  cases c with
  | join side => cases side <;> rfl
  | _ => rfl

namespace Session

variable {σ : Type} (send : Channel σ) (world : σ)

def take (s : Session) (st : Step) : Performed σ :=
  match s.builder? st.handle with
  | some b => s.perform send world st.handle b st.name st.call
  | none =>
    { response := .fault (.missingKey (.int st.handle.builder)), session := s, channel := world }

def run (world : σ) (s : Session) : List Step → List (Performed σ)
  | [] => []
  | st :: rest =>
    let p := s.take send world st
    p :: run p.channel p.session rest

theorem take_present {s : Session} {st : Step} {b : Builder}
    (present : s.builder? st.handle = some b) :
    s.take send world st = s.perform send world st.handle b st.name st.call := by
  unfold take
  rw [present]

theorem invoke_eq_take {s : Session} {target method name : String} {a : Arguments} {h : Handle}
    {b : Builder} {c : Call} (known : s.handle? target = some h) (present : s.builder? h = some b)
    (read : Call.read method a = .ok c) :
    s.invoke send world target method a name = s.take send world ⟨h, c, name⟩ := by
  simp only [invoke, take, known, present, read]

/-- A wrapper goes by the name that is called: it hands on a value as it is, reports what a terminal
method comes to, and chains on every other method. -/
theorem invoke_wrapper {s : Session} {target method name : String} {a : Arguments} {h : Handle}
    {b : Builder} {c : Call} (known : s.handle? target = some h) (present : s.builder? h = some b)
    (read : Call.read method a = .ok c) (wraps : h.wrapper.isSome) :
    s.invoke send world target method a name =
      let p := s.ask world h.query b name c
      if c.isValue then p
      else if terminalMethods.contains method then report send h b p
      else chain h p := by
  rw [invoke_eq_take send world known present read, take_present send world present]
  have wrapper : h.wrapper.isNone = false := by simpa using wraps
  simp only [perform, Relay.of, wrapper, Call.method_read read, Bool.false_eq_true, if_false]
  cases c.isValue with
  | true => rfl
  | false => cases terminalMethods.contains method <;> rfl

/-! ### Calls on a builder and on a wrapper -/

variable (s : Session) (h : Handle) (b : Builder) (name : String)

theorem perform_clause (c : ClauseCall) :
    s.perform send world h b name (.clause c) =
      match b.call c with
      | .ok (b', es) =>
        { response := .object h b'.misuse, session := s.update h b', channel := world, events := es }
      | .error f => { response := .fault f, session := s, channel := world } := by
  obtain ⟨i, _ | w⟩ := h
  · simp only [perform, ask, await, Option.isNone_none, if_true]
    cases b.call c <;> rfl
  · simp only [perform, ask, Relay.of_clause]
    cases b.call c with
    | error f => rfl
    | ok r => simp [chain]; rfl

theorem perform_terminal (t : Terminal) :
    let r := b.run send world t
    s.perform send world h b name (.terminal t) =
      { response := h.respond r.answer, session := s.update h r.builder, channel := r.channel,
        sent := r.sent, events := r.events } := by
  obtain ⟨i, _ | w⟩ := h
  · rfl
  · simp only [perform, ask, Relay.of_terminal, report, CallbackTask.settle_eq]
    rfl

/-- A scope is a builder of its own, so no wrapper takes its place. -/
theorem perform_scope (present : s.builder? h = some b) :
    s.perform send world h b name .scope =
      { response := .object { builder := s.builders.length } b.scope.misuse,
        session := s.add name b.scope, channel := world } := by
  have older : h.builder ≠ s.builders.length :=
    Nat.ne_of_lt (List.getElem?_eq_some_iff.mp present).1
  obtain ⟨i, _ | w⟩ := h
  · rfl
  · have other : ({ builder := s.builders.length } : Handle) ≠ { builder := i } := fun same =>
      older (congrArg Handle.builder same).symm
    simp [perform, ask, chain, Handle.query, other, Relay.of, Call.isValue, Call.method, terminalMethods]

/-- The answer to a call that only looks at a builder is handed on as it is. -/
theorem perform_look {c : Call} {r : Response} (looks : b.look c = some r) :
    s.perform send world h b name c = { response := r, session := s, channel := world } := by
  have asked : s.ask world h.query b name c = { response := r, session := s, channel := world } := by
    cases c <;> cases looks <;> rfl
  obtain ⟨other, other'⟩ := b.look_plain looks
  unfold perform
  rw [asked]
  cases r with
  | coroutine t => exact (other t rfl).elim
  | object made m => exact (other' made m rfl).elim
  | _ =>
    dsimp only
    split
    · rfl
    · split <;> rfl

end Session

end TableQuery

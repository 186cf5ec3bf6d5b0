import TableQuery.Proofs.Veil.Connection
import TableQuery.Proofs.Veil.Terminal

/-!
# Veiled runs

`run_veil` follows a run under the veil: on a channel that is blind to values, veiled steps of
veiled builders come to what the steps themselves come to, veiled. So two runs that differ in bound
values only have the same texts, kinds, numbers of values, misuses and log, which is
`run_same_under_veil`, for scripted replies and for a link.
-/

namespace TableQuery

def Call.veil : Call → Call
  | .clause c => .clause c.veil
  | .buildInsert data upsert => .buildInsert data.veilEntries upsert
  | .buildUpdate data => .buildUpdate data.veilEntries
  | .terminal t => .terminal t.veil
  | c => c

def Step.veil (st : Step) : Step := { st with call := st.call.veil }

def Response.veil : Response → Response
  | .compiled s => .compiled s.veil
  | r => r

def Session.veil (s : Session) : Session := { s with builders := s.builders.map Builder.veil }

section Channels

variable {σ : Type}

/-- What a step comes to with all bound values veiled; `hide` veils the channel. -/
def Performed.veil (hide : σ → σ) (p : Performed σ) : Performed σ :=
  { response := p.response.veil, session := p.session.veil, channel := hide p.channel,
    sent := p.sent.map Statement.veil, events := p.events }

def Finished.veil (hide : σ → σ) (r : Finished σ) : Finished σ :=
  { answer := r.answer, builder := r.builder.veil, channel := hide r.channel,
    sent := r.sent.map Statement.veil, events := r.events }

/-- A channel is blind if it answers a statement in the same way whatever values are bound. -/
def Channel.Blind (send : Channel σ) (hide : σ → σ) : Prop :=
  ∀ world sql vs, send (hide world) sql (Value.veil vs) =
    { send world sql vs with state := hide (send world sql vs).state }

theorem Script.blind : Channel.Blind Script.channel id := by
  intro script sql vs
  cases script <;> rfl

theorem Link.blind : Channel.Blind Link.channel Link.veil := channel_veil

/-! ### Steps and runs -/

variable {send : Channel σ} {hide : σ → σ}

namespace Builder

theorem finishLeg_veil (blind : Channel.Blind send hide) (world : σ) (b : Builder) (l : Leg) :
    b.veil.finishLeg send (hide world) l.veil = (b.finishLeg send world l).veil hide := by
  cases l with
  | done answer => rfl
  | send s reading =>
    have sent := blind world s.sql s.values
    simp only [finishLeg, Leg.veil, Statement.veil, sent]
    rfl

theorem run_veil (blind : Channel.Blind send hide) (world : σ) (b : Builder) (t : Terminal) :
    b.veil.run send (hide world) t.veil = (b.run send world t).veil hide := by
  simp only [run, start_veil]
  rcases b.start t with ⟨b, es, l | ⟨s, size, number⟩⟩
  · simp only [Opening.veil, finishLeg_veil blind]
    rfl
  · have sent := blind world s.sql s.values
    simp only [Opening.veil, Statement.veil, sent, counted_veil, finishLeg_veil blind]
    rfl

/-- What only looks at a builder sees no values but those of a statement. -/
theorem look_veil (b : Builder) (c : Call) :
    b.veil.look c.veil = (b.look c).map Response.veil := by
  have compiles {x x' : Except Fault Statement} (same : x' = x.map Statement.veil) :
      some (Response.ofCompiled x') = some (Response.ofCompiled x).veil := by
    rw [same]
    cases x <;> rfl
  cases c with
  | buildSelect fields => exact compiles (b.compileSelect_veil fields)
  | buildInsert data upsert => exact compiles (b.compileInsert_veil data upsert)
  | buildUpdate data => exact compiles (b.compileUpdate_veil data)
  | buildDelete => exact compiles b.compileDelete_veil
  | _ => rfl

end Builder

theorem Handle.veil_respond (h : Handle) (answer : Except Fault Answer) :
    (h.respond answer).veil = h.respond answer := by
  unfold respond
  split
  · cases answer <;> rfl
  · rfl

namespace Session

theorem perform_veil (blind : Channel.Blind send hide) (world : σ) {s : Session} {h : Handle}
    {b : Builder} (name : String) (present : s.builder? h = some b) (c : Call) :
    s.veil.perform send (hide world) h b.veil name c.veil =
      (s.perform send world h b name c).veil hide := by
  have veiled : s.veil.builder? h = some b.veil := by
    unfold builder? at present ⊢
    rw [veil, List.getElem?_map, present]
    rfl
  cases b.view c with
  | clause c =>
    rw [Call.veil, perform_clause, perform_clause, Builder.call_veil]
    cases b.call c with
    | error f => rfl
    | ok r => simp [Performed.veil, Response.veil, veil, update]
  | terminal t =>
    rw [Call.veil, perform_terminal, perform_terminal, Builder.run_veil blind]
    simp [Performed.veil, Finished.veil, Handle.veil_respond, veil, update]
  | scope =>
    have scopes : Call.scope.veil = .scope := rfl
    rw [scopes, perform_scope send world s h b name present,
      perform_scope send (hide world) s.veil h b.veil name veiled]
    simp [Performed.veil, Response.veil, veil, add, Builder.scope_veil]
  | look looks =>
    have looks' := b.look_veil c
    rw [looks] at looks'
    rw [perform_look send world s h b name looks,
      perform_look send (hide world) s.veil h b.veil name looks']
    rfl

theorem take_veil (blind : Channel.Blind send hide) (world : σ) (s : Session) (st : Step) :
    s.veil.take send (hide world) st.veil = (s.take send world st).veil hide := by
  have builder : s.veil.builder? st.handle = (s.builder? st.handle).map Builder.veil :=
    List.getElem?_map
  have handle : st.veil.handle = st.handle := rfl
  cases present : s.builder? st.handle with
  | none =>
    simp only [take, handle, builder, present]
    rfl
  | some b =>
    simp only [take, handle, builder, present, Option.map_some]
    exact perform_veil blind world st.name present st.call

theorem run_veil (blind : Channel.Blind send hide) (world : σ) (s : Session) (steps : List Step) :
    s.veil.run send (hide world) (steps.map Step.veil) =
      (s.run send world steps).map (Performed.veil hide) := by
  induction steps generalizing world s with
  | nil => rfl
  | cons st rest ih =>
    simp only [List.map_cons, run, take_veil blind]
    rw [← ih]
    rfl

theorem run_eq_of_veil (blind : Channel.Blind send hide) (world : σ) (s : Session)
    {steps steps' : List Step} (same : steps.map Step.veil = steps'.map Step.veil) :
    (s.run send world steps).map (Performed.veil hide) =
      (s.run send world steps').map (Performed.veil hide) := by
  rw [← run_veil blind, ← run_veil blind, same]

end Session

end Channels

/-! ### Bound values do not show -/

/-- Two runs whose steps differ in bound values only come to the same under the veil: the same
statement texts and kinds with as many values, the same misuses recorded and raised, the same
answers and the same log. On a link, the cursor is given the same texts as well. -/
theorem Session.run_same_under_veil (s : Session) {steps steps' : List Step}
    (same : steps.map Step.veil = steps'.map Step.veil) :
    (∀ script : Script,
      (s.run Script.channel script steps).map (Performed.veil id) =
        (s.run Script.channel script steps').map (Performed.veil id)) ∧
    ∀ link : Link,
      (s.run Link.channel link steps).map (Performed.veil Link.veil) =
        (s.run Link.channel link steps').map (Performed.veil Link.veil) :=
  ⟨fun script => s.run_eq_of_veil Script.blind script same,
    fun link => s.run_eq_of_veil Link.blind link same⟩

theorem Session.run_same_under_veil_accounts :
    let s := Session.ofBuilder { table := .text "accounts" }
    let main (c : Call) : Step := ⟨⟨0, none⟩, c, "copy"⟩
    let steps : List Step :=
      [main (.clause (.matching (.text "owner") (.text "=") (.text "alice"))),
        main (.clause (.among (.text "state") (.list [.text "open", .text "held"]))),
        main .scope, main (.buildSelect .none), main (.terminal .get),
        ⟨⟨1, some 0⟩, .terminal (.update (.map [(.text "balance", .int 7)])), ""⟩]
    let steps' : List Step :=
      [main (.clause (.matching (.text "owner") (.text "=") (.text "'; DROP TABLE accounts"))),
        main (.clause (.among (.text "state") (.tuple [.none, .int 1]))),
        main .scope, main (.buildSelect .none), main (.terminal .get),
        ⟨⟨1, some 0⟩, .terminal (.update (.map [(.text "balance", .text "?")])), ""⟩]
    steps.map Step.veil = steps'.map Step.veil ∧
      (s.run Script.channel [] steps).map (Performed.veil id) =
        (s.run Script.channel [] steps').map (Performed.veil id) := by
  intro s main steps steps'
  have same : steps.map Step.veil = steps'.map Step.veil := rfl
  exact ⟨same, (Session.run_same_under_veil s same).1 []⟩

end TableQuery

import TableQuery.Proofs.Session.Run

/-!
# Calls on a builder and on a wrapper

Each step of a run is taken on a builder itself or on a wrapper of it. A terminal call on a wrapper is
a task, which comes to its end before the next step is taken. `take_agrees` compares a step with the
same step on the builder itself, and `run_agrees` shows that a run and the one that takes every step
on the builder itself have the same sessions, channel, statements and log, and that they return and
report the same, with a wrapper in the place of its builder.
-/

namespace TableQuery

/-- The step on the builder itself. -/
def Step.direct (st : Step) : Step := { st with handle := st.handle.query }

/-- A terminal call on a wrapper. -/
def Step.IsTask (st : Step) : Prop := st.handle.wrapper.isSome = true ∧ ∃ t, st.call = .terminal t

/-- What a step leaves behind: the session, the channel, what was sent and what was logged. -/
structure Effect (σ : Type) where
  session : Session
  channel : σ
  sent : List Statement
  events : List Event

def Performed.effect {σ : Type} (p : Performed σ) : Effect σ :=
  ⟨p.session, p.channel, p.sent, p.events⟩

/-- What a step gives, and what it gives on the builder itself. A task gives the calls on its
callback. -/
inductive Step.Outcome (st : Step) : Response → Response → Prop where
  | itself (m : Option Misuse) : Outcome st (.object st.handle m) (.object st.direct.handle m)
  | alike (plain : ¬st.IsTask) {r : Response} (other : ∀ m, r ≠ .object st.direct.handle m) :
      Outcome st r r
  | returned (task : st.IsTask) (a : Answer) : Outcome st (.reported [⟨none, some a⟩]) (.answered a)
  | raised (task : st.IsTask) {f : Fault} (ends : ∀ words, f ≠ .cancelled words) :
      Outcome st (.reported [⟨some f, none⟩]) (.fault f)
  | cancelled (task : st.IsTask) (words : String) :
      Outcome st (.reported [⟨some (.cancelled ""), none⟩]) (.fault (.cancelled words))

/-- The builder of a step was scoped: the step has made a builder, which is no wrapper, and has given
it its name. -/
def Session.Scoped (s : Session) (st : Step) (made : Handle) : Prop :=
  ∃ b, s.builder? st.handle = some b ∧ made.builder ≠ st.handle.builder ∧ made.wrapper = none ∧
    s.handle? st.name = some made ∧ s.builder? made = some b.scope

/-- A step, and the same step on the builder itself. -/
structure Step.Agrees {σ : Type} (st : Step) (mixed direct : Performed σ) : Prop where
  effect : mixed.effect = direct.effect
  outcome : st.Outcome mixed.response direct.response
  itself : ∀ m, mixed.response = .object st.handle m ↔ direct.response = .object st.direct.handle m
  scope : st.call = .scope → ∃ made m, mixed.response = .object made m ∧
    direct.response = .object made m ∧ mixed.session.Scoped st made

/-- The number of builders that a call adds. -/
def Call.added : Call → Nat
  | .scope => 1
  | _ => 0

/-- Steps on builders that are there when they are taken. -/
def Step.Known (builders : Nat) : List Step → Prop
  | [] => True
  | st :: rest => st.handle.builder < builders ∧ Known (builders + st.call.added) rest

/-- A fault that is no cancellation is given to the callback. -/
theorem Answer.report_raised {f : Fault} (ends : ∀ words, f ≠ .cancelled words) :
    Answer.report (.error f) = ⟨some f, none⟩ := by
  cases f with
  | cancelled words => exact (ends words rfl).elim
  | _ => rfl

/-- A task whose call faults calls its callback once, with no answer. -/
theorem Step.Outcome.of_fault {st : Step} (task : st.IsTask) {r : Response} {f : Fault}
    (outcome : st.Outcome r (.fault f)) : r = .reported [Answer.report (.error f)] := by
  cases outcome with
  | alike plain => exact (plain task).elim
  | raised _ ends => rw [Answer.report_raised ends]
  | cancelled => rfl

namespace Session

variable {σ : Type} (send : Channel σ) {s : Session} {h : Handle} {b : Builder}

theorem respond_not_object (answer : Except Fault Answer) (made : Handle) (m : Option Misuse) :
    h.respond answer ≠ .object made m := by
  unfold Handle.respond
  split
  · cases answer <;> exact nofun
  · exact nofun

/-- What a terminal call comes to on an object, and on the builder itself. -/
theorem respond_outcome (t : Terminal) (name : String) (answer : Except Fault Answer) :
    (⟨h, .terminal t, name⟩ : Step).Outcome (h.respond answer) (h.query.respond answer) := by
  obtain ⟨i, _ | w⟩ := h
  · exact .alike (by rintro ⟨⟨⟩, -⟩) fun m => respond_not_object answer _ m
  · have task : (⟨⟨i, some w⟩, .terminal t, name⟩ : Step).IsTask := ⟨rfl, t, rfl⟩
    cases answer with
    | ok a => exact .returned task a
    | error f =>
      by_cases ends : ∀ words, f ≠ .cancelled words
      · show Step.Outcome _ (.reported [Answer.report (.error f)]) (.fault f)
        rw [Answer.report_raised ends]
        exact .raised task ends
      · obtain ⟨words, rfl⟩ : ∃ words, f = .cancelled words := by simpa using ends
        exact .cancelled task words

theorem scoped_add (present : s.builder? h = some b) (name : String) :
    (s.add name b.scope).Scoped ⟨h, .scope, name⟩ { builder := s.builders.length } := by
  obtain ⟨inside, -⟩ := List.getElem?_eq_some_iff.mp present
  refine ⟨b, ?_, Nat.ne_of_gt inside, rfl, ?_, ?_⟩
  · exact (List.getElem?_append_left inside).trans present
  · simp [handle?, add]
  · exact List.getElem?_concat_length

theorem take_agrees (world : σ) {st : Step} (present : s.builder? st.handle = some b) :
    st.Agrees (s.take send world st) (s.take send world st.direct) := by
  have direct : s.builder? st.direct.handle = some b := present
  rw [take_present send world present, take_present send world direct]
  obtain ⟨h, c, name⟩ := st
  show Step.Agrees _ (s.perform send world h b name c) (s.perform send world h.query b name c)
  have plain (no : ∀ t, c ≠ .terminal t) : ¬(⟨h, c, name⟩ : Step).IsTask := fun ⟨_, t, is⟩ => no t is
  cases b.view c with
  | clause c =>
    rw [perform_clause, perform_clause]
    cases b.call c with
    | error f => exact ⟨rfl, .alike (plain nofun) nofun, fun m => ⟨nofun, nofun⟩, nofun⟩
    | ok r =>
      refine ⟨rfl, .itself r.1.misuse, fun m => ?_, nofun⟩
      constructor <;> intro own <;> cases own <;> rfl
  | terminal t =>
    rw [perform_terminal, perform_terminal]
    refine ⟨rfl, respond_outcome t name _, fun m => ?_, nofun⟩
    show h.respond _ = _ ↔ h.query.respond _ = _
    exact iff_of_false (respond_not_object _ _ m) (respond_not_object _ _ m)
  | scope =>
    -- What is made is neither the wrapper nor its builder.
    have older : h.builder ≠ s.builders.length :=
      Nat.ne_of_lt (List.getElem?_eq_some_iff.mp present).1
    have other (own : Handle) (same : own.builder = h.builder) (made m : Option Misuse) :
        Response.object { builder := s.builders.length } made ≠ .object own m := by
      intro equal
      cases equal
      exact older same.symm
    rw [perform_scope send world s h b name present, perform_scope send world s h.query b name direct]
    refine ⟨rfl, .alike (plain nofun) (other h.query rfl _), fun m => ?_, fun _ => ?_⟩
    · exact iff_of_false (other h rfl _ m) (other h.query rfl _ m)
    · exact ⟨_, _, rfl, rfl, scoped_add present name⟩
  | look looks =>
    obtain ⟨-, other⟩ := b.look_plain looks
    rw [perform_look send world s h b name looks, perform_look send world s h.query b name looks]
    refine ⟨rfl, .alike (plain ?_) (other _), fun m => ?_, ?_⟩
    · rintro t rfl
      cases looks
    · exact iff_of_false (other _ m) (other _ m)
    · rintro ⟨⟩
      cases looks

/-! ### Runs -/

/-- Only a scope adds a builder. -/
theorem take_length (world : σ) {st : Step} (present : s.builder? st.handle = some b) :
    (s.take send world st).session.builders.length = s.builders.length + st.call.added := by
  rw [take_present send world present]
  obtain ⟨h, c, name⟩ := st
  show (s.perform send world h b name c).session.builders.length = _
  cases b.view c with
  | clause c =>
    rw [perform_clause]
    cases b.call c with
    | ok r => exact List.length_set
    | error f => rfl
  | terminal t =>
    rw [perform_terminal]
    exact List.length_set
  | scope =>
    rw [perform_scope send world s h b name present]
    exact List.length_append
  | look looks =>
    rw [perform_look send world s h b name looks]
    cases c <;> cases looks <;> rfl

/-- Steps are taken on builders or on wrappers of them, and by the side of that all on the builders
themselves. After every step the session, the channel, what was sent and what was logged are the same.
A step gives the wrapper where the other gives its builder, and only there; a scope is the same new
builder, and what else is no task is alike. The callback of a task is called once: without a fault and
with the answer of the other call, or with the fault of the other call and without an answer. A
cancellation ends the task, whose callback is then given one without words. -/
theorem run_agrees (world : σ) (s : Session) {sts : List Step}
    (known : Step.Known s.builders.length sts) :
    let mixed := s.run send world sts
    let direct := s.run send world (sts.map Step.direct)
    mixed.length = sts.length ∧ direct.length = sts.length ∧
      ∀ (i : Nat) (st : Step), sts[i]? = some st →
        ∃ p q, mixed[i]? = some p ∧ direct[i]? = some q ∧ st.Agrees p q := by
  induction sts generalizing world s with
  | nil => exact ⟨rfl, rfl, fun i st found => by cases found⟩
  | cons st sts ih =>
    -- The first step agrees, so the others are taken in the same session.
    obtain ⟨inside, known⟩ := known
    have present : s.builder? st.handle = some s.builders[st.handle.builder] :=
      List.getElem?_eq_getElem inside
    have first := take_agrees send world present
    have length := take_length send world present
    generalize taken : s.take send world st.direct = q at first
    have channel : (s.take send world st).channel = q.channel := congrArg Effect.channel first.effect
    have session : (s.take send world st).session = q.session := congrArg Effect.session first.effect
    rw [session] at length
    rw [← length] at known
    obtain ⟨mixed, direct, rest⟩ := ih q.channel q.session known
    have mixed_cons : s.run send world (st :: sts) =
        s.take send world st :: q.session.run send q.channel sts := by
      rw [run, channel, session]
    have direct_cons : s.run send world ((st :: sts).map Step.direct) =
        q :: q.session.run send q.channel (sts.map Step.direct) := by
      rw [List.map_cons, run, taken]
    rw [mixed_cons, direct_cons]
    refine ⟨congrArg Nat.succ mixed, congrArg Nat.succ direct, fun i st' found => ?_⟩
    cases i with
    | zero =>
      cases found
      exact ⟨_, _, rfl, rfl, first⟩
    | succ i => exact rest i st' found

/-- A builder gets a selection, is scoped and is used twice, all through a wrapper. The first task is
cancelled, and the second one calls its callback with the misuse that the same call raises on the
builder itself. -/
theorem run_agrees_used :
    let s := ofBuilder { table := .text "orders" }
    let script : Script := [.error (.cancelled "gone")]
    let wrapper : Handle := ⟨0, some 0⟩
    let sts : List Step :=
      [⟨wrapper, .clause (.only (.list [.text "id"])), ""⟩, ⟨wrapper, .scope, "all"⟩,
        ⟨wrapper, .terminal .get, ""⟩, ⟨wrapper, .terminal .get, ""⟩]
    Step.Known 1 sts ∧
      (s.run Script.channel script (sts.map Step.direct)).map (·.response) =
        [.object ⟨0, none⟩ none, .object ⟨1, none⟩ none, .fault (.cancelled "gone"),
          .fault (.misuse .executed)] ∧
      (s.run Script.channel script sts)[0]?.map (·.response) = some (.object wrapper none) ∧
      (s.run Script.channel script sts)[2]?.map (·.response) =
        some (.reported [⟨some (.cancelled ""), none⟩]) ∧
      (s.run Script.channel script sts)[3]?.map (·.response) =
        some (.reported [⟨some (.misuse .executed), none⟩]) := by
  intro s script wrapper sts
  have known : Step.Known 1 sts := by simp [sts, wrapper, Step.Known, Call.added]
  obtain ⟨-, -, agrees⟩ := run_agrees Script.channel script s known
  have direct : (s.run Script.channel script (sts.map Step.direct)).map (·.response) =
      [.object ⟨0, none⟩ none, .object ⟨1, none⟩ none, .fault (.cancelled "gone"),
        .fault (.misuse .executed)] := rfl
  have task : (⟨wrapper, .terminal .get, ""⟩ : Step).IsTask := ⟨rfl, .get, rfl⟩
  refine ⟨known, direct, ?_, ?_, ?_⟩
  · obtain ⟨p, q, taken, took, agreed⟩ := agrees 0 _ rfl
    have object : q.response = .object ⟨0, none⟩ none :=
      congrArg Performed.response (Option.some.inj took).symm
    rw [taken]
    exact congrArg some ((agreed.itself none).mpr object)
  · obtain ⟨p, q, taken, took, agreed⟩ := agrees 2 _ rfl
    have fault : q.response = .fault (.cancelled "gone") :=
      congrArg Performed.response (Option.some.inj took).symm
    rw [taken]
    exact congrArg some ((fault ▸ agreed.outcome).of_fault task)
  · obtain ⟨p, q, taken, took, agreed⟩ := agrees 3 _ rfl
    have fault : q.response = .fault (.misuse .executed) :=
      congrArg Performed.response (Option.some.inj took).symm
    rw [taken]
    exact congrArg some ((fault ▸ agreed.outcome).of_fault task)

end Session

end TableQuery

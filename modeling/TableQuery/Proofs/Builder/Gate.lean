import TableQuery.Proofs.Builder.Growth
import TableQuery.Proofs.Builder.Pagination

/-!
# The gate before the channel

A terminal call is checked before its statement reaches the channel, and what the channel raises
ends it as it is. `run_gate` says so of every call on every builder: an error of the builder's own
class that the channel did not raise means that nothing was sent, and a statement that the channel
refused is the last one.
-/

namespace TableQuery

/-! ### Errors of the builder's class -/

/-- A misuse is an error of the builder's class, and so is one that a collaborator raises as such. -/
def Fault.isBuilderError : Fault → Bool
  | .misuse _ => true
  | .raised (.library .builder _) => true
  | _ => false

/-- A computation that does not end with an error of the builder's class. -/
def Blameless {α : Type} (x : Except Fault α) : Prop :=
  ∀ f, x = .error f → f.isBuilderError = false

theorem blameless_ok {α : Type} (a : α) : Blameless (.ok a) := by
  intro f failed
  cases failed

theorem blameless_error {α : Type} {f : Fault} (other : f.isBuilderError = false) :
    Blameless (.error f : Except Fault α) := by
  intro g failed
  cases failed
  exact other

theorem blameless_bind {α β : Type} {x : Except Fault α} {next : α → Except Fault β}
    (first : Blameless x) (rest : ∀ a, Blameless (next a)) : Blameless (x >>= next) := by
  cases x with
  | error f => exact blameless_error (first f rfl)
  | ok a => exact rest a

theorem blameless_mapError {ε α : Type} {x : Except ε α} {as : ε → Fault}
    (other : ∀ e, (as e).isBuilderError = false) : Blameless (x.mapError as) := by
  cases x with
  | error e => exact blameless_error (other e)
  | ok a => exact blameless_ok a

theorem blameless_mapM {α β : Type} {read : α → Except Fault β} (each : ∀ a, Blameless (read a))
    (as : List α) : Blameless (as.mapM read) := by
  induction as with
  | nil => exact blameless_ok []
  | cons a as ih =>
    rw [List.mapM_cons]
    exact blameless_bind (each a) fun _ => blameless_bind ih fun _ => blameless_ok _

/-! ### Reading replies -/

namespace Value

theorem blameless_items? (v : Value) : Blameless v.items? := by
  intro f failed
  cases v <;> cases failed <;> rfl

theorem blameless_text? (v : Value) : Blameless v.text? := by
  intro f failed
  cases v <;> cases failed <;> rfl

theorem blameless_first? (v : Value) : Blameless v.first? := by
  unfold first?
  split
  · split
    · exact blameless_ok _
    · exact blameless_error rfl
  · refine blameless_bind (blameless_items? v) fun items => ?_
    cases items with
    | nil => exact blameless_error rfl
    | cons x _ => exact blameless_ok x

theorem blameless_readInteger (literal : String) (cs : List Char) :
    Blameless (readInteger literal cs) := by
  refine blameless_mapError fun e => ?_
  cases e <;> rfl

theorem blameless_integer? (v : Value) : Blameless v.integer? := by
  unfold integer?
  split
  · exact blameless_ok _
  · exact blameless_ok _
  · exact blameless_mapError fun _ => rfl
  · exact blameless_readInteger _ _
  · exact blameless_readInteger _ _
  · exact blameless_error rfl

end Value

theorem blameless_countIn (reply : Value) : Blameless (countIn reply) := by
  refine blameless_bind reply.blameless_first? fun row => ?_
  split
  · split
    · exact Value.blameless_integer? _
    · exact blameless_error rfl
  · exact blameless_bind row.blameless_first? fun _ => Value.blameless_integer? _

theorem Reading.blameless_answer (reading : Reading) (reply : Value) :
    Blameless (reading.answer reply) := by
  cases reading with
  | rows => exact blameless_bind reply.blameless_items? fun _ => blameless_ok _
  | firstRow => exact blameless_bind reply.blameless_items? fun _ => blameless_ok _
  | count => exact blameless_bind (blameless_countIn reply) fun _ => blameless_ok _
  | outcome => exact blameless_ok _
  | page total size number =>
    exact blameless_bind reply.blameless_items? fun _ => blameless_ok _

/-! ### Compiling and counting -/

namespace Builder

theorem blameless_writing (vs : List Value) (text : String) : Blameless (Value.writing vs text) := by
  intro f failed
  rw [(Value.writing_eq_error.mp failed).1]
  rfl

theorem blameless_boundText (keyword : String) (bound : Option Nat) :
    Blameless (boundText keyword bound) := by
  cases bound with
  | none => exact blameless_ok _
  | some n => exact blameless_writing _ _

theorem blameless_columns (b : Builder) (fields : Value) : Blameless (b.columns fields) := by
  unfold columns
  split
  · exact fields.blameless_items?
  · exact blameless_ok _

/-- A valid builder compiles its selection, or what is wrong with it is no misuse. -/
theorem blameless_compileSelect {b : Builder} (valid : b.misuse = none) (fields : Value) :
    Blameless (b.compileSelect fields) := by
  unfold compileSelect
  rw [check_select.mpr valid, ok_bind]
  refine blameless_bind (blameless_writing _ _) fun order => ?_
  refine blameless_bind (blameless_boundText _ _) fun limit => ?_
  refine blameless_bind (blameless_boundText _ _) fun offset => ?_
  refine blameless_bind (b.blameless_columns fields) fun columns => ?_
  refine blameless_bind (blameless_mapM Value.blameless_text? columns) fun names => ?_
  refine blameless_bind (blameless_writing _ _) fun head => ?_
  exact blameless_bind (blameless_writing _ _) fun filter => blameless_ok _

theorem hand_send {b : Builder} {s : Except Fault Statement} {reading reading' : Reading}
    {sent : Statement} (sends : (b.hand s reading).2.2 = .send sent reading') :
    s = .ok sent ∧ b.executed = false ∧ (b.hand s reading).1 = { b with executed := true } := by
  unfold hand at sends ⊢
  split at sends
  · cases sends
  · split at sends
    · cases sends
    · rename_i fresh
      cases sends
      exact ⟨rfl, by simpa using fresh, by rw [if_neg fresh]⟩

/-- A call of one statement leaves a valid builder if it sends. -/
theorem handWith_send {b : Builder} {t : Terminal} {reading reading' : Reading} {sent : Statement}
    (sends : (b.handWith t.clauses t.compile reading).2.2 = .send sent reading') :
    (b.handWith t.clauses t.compile reading).1.misuse = none := by
  unfold handWith at sends ⊢
  split at sends
  · cases sends
  · rename_i b' es called
    obtain ⟨compiled, -, left⟩ := hand_send sends
    dsimp only
    rw [left]
    cases recorded : b'.misuse with
    | none => rfl
    | some m =>
      rw [t.compile_misuse recorded] at compiled
      cases compiled

/-- After its count a paginated call leaves a valid builder. It ends at once with the fault that
came for the count, or with one that is no error of the builder's class. -/
theorem counted_cases {b : Builder} {size number : Value} {n k : Nat}
    (bounds : b.pageBounds size number = .ok (n, k)) (reply : Except Fault Value) :
    (b.counted n k reply).1.misuse = none ∧
      ∀ f, (b.counted n k reply).2.2 = .done (.error f) → reply = .error f ∨ f.isBuilderError = false := by
  obtain ⟨valid, unlimited, unshifted, fresh, positive⟩ := pageBounds_inv bounds
  cases counts : reply.bind countIn with
  | error f =>
    have left : b.counted n k reply = (b, [], .done (.error f)) := by
      unfold counted
      rw [counts]
    rw [left]
    refine ⟨valid, fun g done => ?_⟩
    cases done
    cases reply with
    | error g =>
      cases counts
      exact .inl rfl
    | ok v => exact .inr (blameless_countIn v f counts)
  | ok total =>
    have bounded : (b.withBounds n (n * (k - 1))).misuse = none := valid
    have waiting : (b.withBounds n (n * (k - 1))).executed = false := fresh
    rw [counted_eq unlimited unshifted positive counts]
    unfold hand
    cases compiled : (b.withBounds n (n * (k - 1))).compileSelect .none with
    | error f =>
      refine ⟨bounded, fun g done => ?_⟩
      cases done
      exact .inr (blameless_compileSelect bounded .none f compiled)
    | ok s =>
      dsimp only
      rw [waiting]
      refine ⟨bounded, fun g done => ?_⟩
      cases done

end Builder

/-! ### What goes through the channel -/

namespace Channel

variable {σ : Type}

/-- The state of a channel after it was handed statements one after the other. -/
def after (send : Channel σ) (world : σ) : List Statement → σ
  | [] => world
  | s :: rest => after send (send world s.sql s.values).state rest

/-- What the channel replies to them. -/
def replies (send : Channel σ) (world : σ) : List Statement → List (Except Fault Value)
  | [] => []
  | s :: rest => (send world s.sql s.values).reply :: replies send (send world s.sql s.values).state rest

end Channel

/-- The statements that a call sends at most. -/
def Terminal.mostStatements : Terminal → Nat
  | .getPaginated .. => 2
  | _ => 1

namespace Builder

variable {σ : Type} (send : Channel σ) (world : σ)

/-- A finished call that used the channel for what it sent and for nothing else, and that a fault
of the channel ended at once and as it is. -/
structure Faithful (r : Finished σ) : Prop where
  channel : r.channel = Channel.after send world r.sent
  last : ∀ n f, (Channel.replies send world r.sent)[n]? = some (.error f) →
    n + 1 = r.sent.length ∧ r.answer = .error f

/-! ### The end of a call -/

theorem finishLeg_builder (b : Builder) (l : Leg) : (b.finishLeg send world l).builder = b := by
  cases l <;> rfl

theorem finishLeg_few (b : Builder) (l : Leg) : (b.finishLeg send world l).sent.length ≤ 1 := by
  cases l with
  | done answer => exact Nat.zero_le 1
  | send s reading => exact Nat.le_refl 1

theorem finishLeg_faithful (b : Builder) (l : Leg) :
    Faithful send world (b.finishLeg send world l) := by
  cases l with
  | done answer => exact ⟨rfl, fun n f failed => by cases failed⟩
  | send s reading =>
    refine ⟨rfl, fun n f failed => ?_⟩
    cases n with
    | zero =>
      have refused : (send world s.sql s.values).reply = .error f := Option.some.inj failed
      refine ⟨rfl, ?_⟩
      show reading.finish (send world s.sql s.values).reply = .error f
      rw [refused]
      rfl
    | succ n => cases failed

/-- An error of the builder's class that a leg ends with was there before the leg was sent, or came
from the channel. -/
theorem finishLeg_blames {b : Builder} {l : Leg} {f : Fault}
    (failed : (b.finishLeg send world l).answer = .error f) (blamed : f.isBuilderError = true) :
    l = .done (.error f) ∨
      .error f ∈ Channel.replies send world (b.finishLeg send world l).sent := by
  cases l with
  | done answer =>
    cases failed
    exact .inl rfl
  | send s reading =>
    refine .inr (List.mem_singleton.mpr ?_)
    have finished : reading.finish (send world s.sql s.values).reply = .error f := failed
    cases reply : (send world s.sql s.values).reply with
    | error g =>
      rw [reply] at finished
      cases finished
      rfl
    | ok v =>
      rw [reply] at finished
      have other := reading.blameless_answer v f finished
      rw [blamed] at other
      cases other

/-! ### Calls -/

/-- What a call of any kind comes to: how it answers and what it leaves behind, beside what it
sent. -/
structure Gated (most : Nat) (r : Finished σ) : Prop where
  blamed : ∀ f, r.answer = .error f → f.isBuilderError = true →
    .error f ∉ Channel.replies send world r.sent → r.sent = []
  valid : r.sent ≠ [] → r.builder.misuse = none
  few : r.sent.length ≤ most
  faithful : Faithful send world r

theorem run_single (b : Builder) {t : Terminal} {reading : Reading}
    (single : t.single? = some reading) :
    b.run send world t =
      let p := b.handWith t.clauses t.compile reading
      let r := p.1.finishLeg send world p.2.2
      { r with events := p.2.1 ++ r.events } := by
  unfold run
  rw [b.start_single single]

theorem run_single_gated (b : Builder) {t : Terminal} {reading : Reading}
    (single : t.single? = some reading) : Gated send world 1 (b.run send world t) := by
  have sends := @handWith_send b t reading
  rw [run_single send world b single]
  generalize b.handWith t.clauses t.compile reading = handed at sends ⊢
  obtain ⟨b', es, l⟩ := handed
  obtain ⟨channel, last⟩ := finishLeg_faithful send world b' l
  refine ⟨fun f failed blamed others => ?_, fun sent => ?_, finishLeg_few send world b' l,
    channel, last⟩
  · rcases finishLeg_blames send world failed blamed with rfl | reply
    · rfl
    · exact (others reply).elim
  · show (b'.finishLeg send world l).builder.misuse = none
    rw [finishLeg_builder]
    cases l with
    | done answer => exact (sent rfl).elim
    | send s reading' => exact sends rfl

theorem refused_gated (b : Builder) (f : Fault) : Gated send world 2 (.refused b world f) :=
  ⟨fun _ _ _ _ => rfl, fun sent => (sent rfl).elim, Nat.zero_le 2, rfl,
    fun _ _ failed => by cases failed⟩

theorem run_paginated_gated (b : Builder) (size number : Value) :
    Gated send world 2 (b.run send world (.getPaginated size number)) := by
  cases bounds : b.pageBounds size number with
  | error m =>
    rw [run_refused send world bounds]
    exact refused_gated send world b m
  | ok asked =>
    obtain ⟨n, k⟩ := asked
    by_cases fits : b.ScopeFits
    case neg =>
      rw [run_uncounted send world (pageBounds_inv bounds).1 fits bounds]
      exact refused_gated send world b _
    obtain ⟨sent, channel, answer, left⟩ :=
      run_counting send world (pageBounds_inv bounds).1 fits bounds
    generalize b.run send world (.getPaginated size number) = r at sent channel answer left ⊢
    generalize counted : send world b.countStatement.sql b.countStatement.values = d
      at sent channel answer left
    obtain ⟨valid, blames⟩ := counted_cases bounds d.reply
    have faithful := finishLeg_faithful send d.state (b.counted n k d.reply).1
      (b.counted n k d.reply).2.2
    have few := finishLeg_few send d.state (b.counted n k d.reply).1 (b.counted n k d.reply).2.2
    have replies : Channel.replies send world r.sent =
        d.reply :: Channel.replies send d.state (finishLeg send d.state (b.counted n k d.reply).1
          (b.counted n k d.reply).2.2).sent := by
      rw [sent, Channel.replies, counted]
    refine ⟨fun f failed blamed others => ?_, fun _ => ?_, ?_, ?_, fun i f failed => ?_⟩
    · -- The fault of the count and those of the page are replies; what is left is no such error.
      rw [replies, List.mem_cons, not_or] at others
      rcases finishLeg_blames send d.state (answer.symm.trans failed) blamed with done | reply
      · rcases blames f done with reply | other
        · exact (others.1 reply.symm).elim
        · rw [blamed] at other
          cases other
      · exact (others.2 reply).elim
    · rw [left, finishLeg_builder]
      exact valid
    · rw [sent]
      exact Nat.succ_le_succ few
    · rw [channel, faithful.channel, sent, Channel.after, counted]
    · rw [replies] at failed
      rw [sent, answer]
      cases i with
      | zero =>
        have refused : d.reply = .error f := Option.some.inj failed
        rw [refused]
        exact ⟨rfl, rfl⟩
      | succ i =>
        obtain ⟨last, ended⟩ := faithful.last i f failed
        exact ⟨congrArg (· + 1) last, ended⟩

/-- A call that ends with an error of the builder's class, and not with one that the channel raised,
has sent nothing; what was sent came from a valid builder, which a paginated call keeps valid to its
end. One statement is sent at most, two by a paginated call. A fault of the channel ends the call at
once and as it is. -/
theorem run_gate (b : Builder) (t : Terminal) :
    let r := b.run send world t
    let replies := Channel.replies send world r.sent
    (∀ f, r.answer = .error f → f.isBuilderError = true → .error f ∉ replies → r.sent = []) ∧
      (r.sent ≠ [] → r.builder.misuse = none) ∧
      r.sent.length ≤ t.mostStatements ∧
      r.channel = Channel.after send world r.sent ∧
      ∀ n f, replies[n]? = some (.error f) → n + 1 = r.sent.length ∧ r.answer = .error f := by
  have gated : Gated send world t.mostStatements (b.run send world t) := by
    cases t with
    | getPaginated size number => exact run_paginated_gated send world b size number
    | _ => exact run_single_gated send world b rfl
  exact ⟨gated.blamed, gated.valid, gated.few, gated.faithful.channel, gated.faithful.last⟩

/-- A channel may raise an error of the builder's class. If it does so for a count, no page is asked
for. -/
theorem run_gate_raised_count :
    let b : Builder := { table := .text "orders", order := some (.text "orders.id", .desc) }
    let raised : Fault := .raised (.library .builder "connection lost")
    let script : Script := [.error raised, .ok (.list [])]
    let r := b.run Script.channel script (.getPaginated (.int 10) (.int 3))
    r.sent.length = 1 ∧ r.answer = .error raised ∧ r.builder.misuse = none := by
  intro b raised script r
  obtain ⟨-, valid, -, -, last⟩ := run_gate Script.channel script b (.getPaginated (.int 10) (.int 3))
  obtain ⟨one, answer⟩ := last 0 raised rfl
  refine ⟨one.symm, answer, valid fun silent => ?_⟩
  rw [silent] at one
  cases one

end Builder

end TableQuery

import TableQuery.Proofs.Builder.Journal
import TableQuery.Proofs.Session.Clauses
import TableQuery.Proofs.Session.InTurn

/-!
# The log of a run

A run of overlapping calls tells the log what the parts of its calls tell it, one after another.
`step_told` says of one move what it sends and what it tells. The records of executions then go with
the statements that were sent, and the records of rejected clauses with the builders whose first
misuse was recorded in the run, each in order; `run_logged` says so of every run, and of every run of
a session over a channel that leaves such records to the builders.
-/

namespace TableQuery

namespace Builder

/-! ### One part of a call -/

/-- What the first part of a call tells the log. -/
def callEvents (b : Builder) : Call → List Event
  | .clause c =>
    match b.call c with
    | .ok (_, es) => es
    | .error _ => []
  | .terminal t => (b.start t).2.1
  | _ => []

/-- What the part of a call tells the log that follows a reply. -/
def replyEvents (b : Builder) (reply : Except Fault Value) : Stage → List Event
  | .counting size number => (b.counted size number reply).2.1
  | _ => []

variable {b : Builder}

theorem tells_callPart (b : Builder) (h : Handle) (next : Nat) (c : Call) :
    b.Tells (b.callPart h next c).builder (b.callPart h next c).sent (b.callEvents c) := by
  cases c with
  | clause c =>
    cases called : b.call c with
    | error f =>
      simp only [callPart, callEvents, called]
      exact .silent b
    | ok r =>
      obtain ⟨b', es⟩ := r
      simp only [callPart, callEvents, called]
      exact tells_call called
  | terminal t =>
    have tells := b.tells_start t
    show b.Tells (b.startPart h t).builder (b.startPart h t).sent (b.start t).2.1
    unfold startPart
    generalize b.start t = r at tells
    obtain ⟨b', es, l | _⟩ := r
    · cases l <;> exact tells
    · exact tells
  | _ => exact .silent b

theorem tells_replyPart {h : Handle} {reply : Except Fault Value} {stage : Stage} {p : Part}
    (part : b.replyPart h reply stage = some p) :
    b.Tells p.builder p.sent (b.replyEvents reply stage) := by
  cases stage with
  | counting size number =>
    cases part
    have tells := b.tells_counted size number reply
    show b.Tells _ _ (b.counted size number reply).2.1
    generalize b.counted size number reply = r at tells
    obtain ⟨b', es, l⟩ := r
    cases l <;> exact tells
  | reading reading =>
    cases part
    exact .silent b
  | ended response => cases part

theorem mem_gained {b' : Builder} {m : Misuse} :
    m ∈ b.gained b' ↔ b.misuse = none ∧ b'.misuse = some m := by
  unfold gained
  cases b.misuse <;> simp

end Builder

namespace Overlap

/-! ### Moves -/

/-- What a move tells the log. -/
def logs (o : Overlap) : Move → List Event
  | .call h c =>
    match o.builders[h.builder]? with
    | some b => b.callEvents c
    | none => []
  | .reply n r =>
    match o.calls[n]? with
    | some p =>
      match o.builders[p.handle.builder]? with
      | some b => b.replyEvents r p.stage
      | none => []
    | none => []

/-- What a run tells the log. -/
def log (o : Overlap) : List Move → List Event
  | [] => []
  | m :: ms => o.logs m ++ (o.step m).log ms

/-- The builder that a move is about. -/
def subject? (o : Overlap) : Move → Option Nat
  | .call h _ => some h.builder
  | .reply n _ => (o.calls[n]?).map (·.handle.builder)

/-- The builder whose first misuse a move records. It is valid, and refuses one of the clause calls
that the move makes on it. -/
def misused? (o : Overlap) (m : Move) : Option Nat :=
  (o.subject? m).filter fun i =>
    (o.builders[i]?).any fun b => b.isValid && !(b.refused (o.clausesOf i m)).isEmpty

/-- The builders whose first misuses a run records, in the order in which it does so. -/
def misused (o : Overlap) : List Move → List Nat
  | [] => []
  | m :: ms => (o.misused? m).toList ++ (o.step m).misused ms

/-- A builder that is there and is valid. -/
def Valid (o : Overlap) (i : Nat) : Prop := ∃ b, o.builders[i]? = some b ∧ b.isValid = true

/-- A builder that is there and is not valid. -/
def Failed (o : Overlap) (i : Nat) : Prop := ∃ b, o.builders[i]? = some b ∧ b.isValid = false

variable {o : Overlap} {m : Move} {i : Nat} {b : Builder}

theorem logs_call {h : Handle} (present : o.builders[h.builder]? = some b) (c : Call) :
    o.logs (.call h c) = b.callEvents c := by
  simp only [logs, present]

theorem logs_reply {n : Nat} {h : Handle} {stage : Stage} (begun : o.calls[n]? = some ⟨h, stage⟩)
    (present : o.builders[h.builder]? = some b) (r : Except Fault Value) :
    o.logs (.reply n r) = b.replyEvents r stage := by
  simp only [logs, begun, present]

theorem builder_replaced {h : Handle} (present : o.builders[h.builder]? = some b) (p : Builder)
    (made : List Builder) : (o.builders.set h.builder p ++ made)[h.builder]? = some p :=
  (builder_set present _ _ _).trans (congrArg some (if_pos rfl))

/-- What a move does and tells the log: it is one part of a call, or it is nothing. -/
inductive Told (o : Overlap) (m : Move) : Overlap → Prop where
  | part {o' : Overlap} {i n : Nat} {b : Builder} {p : Part} (subject : o.subject? m = some i)
      (present : o.builders[i]? = some b) (tells : b.Tells p.builder p.sent (o.logs m))
      (left : o'.builders[i]? = some p.builder) (sent : o'.sent = o.sent ++ p.dispatches n i) :
      Told o m o'
  | silent (quiet : o.logs m = []) : Told o m o

theorem step_told (o : Overlap) (m : Move) : o.Told m (o.step m) := by
  cases m with
  | call h c =>
    cases present : o.builders[h.builder]? with
    | none =>
      have stays : o.step (.call h c) = o := by simp only [step, present]
      rw [stays]
      exact .silent (by simp only [logs, present])
    | some b =>
      have tells := b.tells_callPart h o.builders.length c
      rw [← logs_call present] at tells
      rw [step_call present]
      exact .part rfl present tells (builder_replaced present _ _) rfl
  | reply n r =>
    cases begun : o.calls[n]? with
    | none =>
      have stays : o.step (.reply n r) = o := by simp only [step, begun]
      rw [stays]
      exact .silent (by simp only [logs, begun])
    | some p =>
      obtain ⟨h, stage⟩ := p
      cases present : o.builders[h.builder]? with
      | none =>
        have stays : o.step (.reply n r) = o := by
          simp only [step, begun, present, Option.bind_none]
        rw [stays]
        exact .silent (by simp only [logs, begun, present])
      | some b =>
        cases part : b.replyPart h r stage with
        | none =>
          have stays : o.step (.reply n r) = o := by
            simp only [step, begun, present, Option.bind_some, part]
          have ended : b.replyEvents r stage = [] := by
            cases stage with
            | ended response => rfl
            | _ => cases part
          rw [stays]
          exact .silent ((logs_reply begun present r).trans ended)
        | some p =>
          have tells := Builder.tells_replyPart part
          rw [← logs_reply begun present] at tells
          have replaced := builder_replaced present p.builder []
          rw [List.append_nil] at replaced
          rw [step_reply begun present part]
          exact .part (by simp only [subject?, begun, Option.map_some]) present tells replaced rfl

theorem subject_of_clauses (made : o.clausesOf i m ≠ []) : o.subject? m = some i := by
  cases present : o.builders[i]? with
  | none =>
    simp only [clausesOf, present] at made
    exact (made rfl).elim
  | some b =>
    simp only [clausesOf, present] at made
    cases m with
    | call h c =>
      dsimp only at made
      split at made
      · rename_i own
        exact congrArg some own
      · exact (made rfl).elim
    | reply n r =>
      cases begun : o.calls[n]? with
      | none =>
        simp only [begun] at made
        exact (made rfl).elim
      | some p =>
        simp only [begun] at made
        split at made
        · rename_i own
          simp only [subject?, begun, Option.map_some, own]
        · exact (made rfl).elim

/-- A first misuse is recorded when a valid builder is not valid any more. -/
theorem step_misused (o : Overlap) (m : Move) (i : Nat) :
    o.misused? m = some i ↔ o.Valid i ∧ (o.step m).Failed i := by
  unfold misused?
  rw [Option.filter_eq_some_iff, Option.any_eq_true]
  constructor
  · rintro ⟨-, b, present, refuses⟩
    obtain ⟨valid, refuses⟩ := Bool.and_eq_true_iff.mp refuses
    obtain ⟨b', found, flag, rfl⟩ := step_gives present m
    refine ⟨⟨b, present, valid⟩, _, found, ?_⟩
    show (b.attemptAll (o.clausesOf i m)).isValid = false
    rw [Builder.attemptAll_isValid, valid, Bool.true_and]
    simpa using refuses
  · rintro ⟨⟨b, present, valid⟩, b', found, failed⟩
    obtain ⟨b'', found', flag, rfl⟩ := step_gives present m
    cases found.symm.trans found'
    have refuses : (b.refused (o.clausesOf i m)).isEmpty = false := by
      have invalid : (b.attemptAll (o.clausesOf i m)).isValid = false := failed
      rwa [Builder.attemptAll_isValid, valid, Bool.true_and] at invalid
    refine ⟨subject_of_clauses fun none => ?_, b, present, ?_⟩
    · rw [none] at refuses
      cases refuses
    · rw [valid, refuses]
      rfl

theorem step_failed (failed : o.Failed i) (m : Move) : (o.step m).Failed i := by
  obtain ⟨b, present, invalid⟩ := failed
  obtain ⟨b', found, gives⟩ := step_gives present m
  exact ⟨b', found, gives.isValid invalid⟩

theorem run_failed (failed : o.Failed i) (ms : List Move) : (o.run ms).Failed i :=
  run_keeps (P := (·.Failed i)) (fun _ m held => step_failed held m) failed ms

theorem step_valid (valid : o.Valid i) (m : Move) :
    (o.step m).Valid i ∨ (o.step m).Failed i := by
  obtain ⟨b, present, -⟩ := valid
  obtain ⟨b', found, -⟩ := step_gives present m
  cases holds : b'.isValid with
  | true => exact .inl ⟨b', found, holds⟩
  | false => exact .inr ⟨b', found, holds⟩

theorem Failed.not_valid (failed : o.Failed i) : ¬o.Valid i := by
  rintro ⟨b, present, valid⟩
  obtain ⟨b', found, invalid⟩ := failed
  cases present.symm.trans found
  rw [valid] at invalid
  cases invalid

/-! ### Runs -/

/-- A record that announces the sending of a statement: it names the keyword that the statement
begins with, the table of the builder that it goes out from, and the number of its values. -/
def Announces (o : Overlap) (e : Event) (d : Dispatch) : Prop :=
  ∃ b rest, o.builders[d.builder]? = some b ∧
    d.statement.sql = d.statement.kind.keyword ++ " " ++ rest ∧
    e.line = ⟨"DEBUG", builderLogger,
      "Executing " ++ d.statement.kind.keyword ++ " on " ++ b.table.display ++ " with " ++
        Text.decimal d.statement.values.length ++ " parameter(s)"⟩

/-- A record that gives the misuse of a builder, with the words of its error but for blanks around
them. -/
def Blames (o : Overlap) (e : Event) (i : Nat) : Prop :=
  ∃ b m text, o.builders[i]? = some b ∧ b.misuse = some m ∧
    e.line = ⟨"DEBUG", builderLogger,
      "Query on " ++ b.table.display ++ " rejected clause: " ++ text⟩ ∧
    Text.strip text = (Fault.misuse m).message

/-- A log that goes with what was sent and with the builders whose first misuses were recorded. -/
structure Logged (o : Overlap) (log : List Event) (misused : List Nat) : Prop where
  executions : List.Forall₂ o.Announces (log.filter Event.isExecution) o.sent
  rejections : List.Forall₂ o.Blames (log.filter Event.isRejection) misused

variable {e : Event} {d : Dispatch}

theorem Announces.step (announces : o.Announces e d) (m : Move) : (o.step m).Announces e d := by
  obtain ⟨b, rest, present, keyword, line⟩ := announces
  obtain ⟨b', found, becomes⟩ := step_becomes present m
  refine ⟨b', rest, found, keyword, ?_⟩
  rw [becomes.table]
  exact line

theorem Blames.step (blames : o.Blames e i) (m : Move) : (o.step m).Blames e i := by
  obtain ⟨b, m', text, present, recorded, line, words⟩ := blames
  obtain ⟨b', found, becomes⟩ := step_becomes present m
  refine ⟨b', m', text, found, becomes.misuse recorded, ?_, words⟩
  rw [becomes.table]
  exact line

/-- A part of a call announces what it sends. -/
theorem announces_part {n : Nat} {p : Part} {es : List Event} (tells : b.Tells p.builder p.sent es)
    (left : o.builders[i]? = some p.builder) :
    List.Forall₂ o.Announces (es.filter Event.isExecution) (p.dispatches n i) := by
  rw [tells.executions, Part.dispatches, List.forall₂_map_left_iff, List.forall₂_map_right_iff,
    List.forall₂_same]
  intro s sent
  obtain ⟨rest, keyword⟩ := tells.headed s (Option.mem_toList.mp sent)
  refine ⟨p.builder, rest, left, keyword, ?_⟩
  rw [tells.becomes.table]
  rfl

/-- A part of a call gives the misuse that it makes the builder record. -/
theorem blames_part {p : Part} {es : List Event} {m : Misuse}
    (tells : b.Tells p.builder p.sent es) (left : o.builders[i]? = some p.builder)
    (valid : b.misuse = none) (recorded : p.builder.misuse = some m) :
    List.Forall₂ o.Blames (es.filter Event.isRejection) [i] := by
  have gained : b.gained p.builder = [m] := by
    unfold Builder.gained
    rw [valid, recorded]
    rfl
  rw [tells.rejections, gained]
  refine .cons ⟨p.builder, m, m.message, left, recorded, ?_, rfl⟩ .nil
  rw [tells.becomes.table]
  rfl

theorem step_logged {log : List Event} {misused : List Nat} (logged : o.Logged log misused)
    (m : Move) : (o.step m).Logged (log ++ o.logs m) (misused ++ (o.misused? m).toList) := by
  have executions := logged.executions.imp fun e d announces => announces.step m
  have rejections := logged.rejections.imp fun e i blames => blames.step m
  have fails := o.step_misused m
  have told := o.step_told m
  generalize o.step m = o' at executions rejections fails told ⊢
  cases told with
  | silent quiet =>
    have none : o.misused? m = none := by
      refine Option.eq_none_iff_forall_ne_some.mpr fun i recorded => ?_
      obtain ⟨valid, failed⟩ := (fails i).mp recorded
      exact failed.not_valid valid
    rw [quiet, none, List.append_nil]
    exact ⟨executions, by simpa using rejections⟩
  | @part _ i n b p subject present tells left sent =>
    refine ⟨?_, ?_⟩
    · rw [List.filter_append, sent]
      exact List.rel_append executions (announces_part tells left)
    · rw [List.filter_append]
      refine List.rel_append rejections ?_
      cases recorded : o.misused? m with
      | none =>
        have gained : b.gained p.builder = [] := by
          refine List.eq_nil_iff_forall_not_mem.mpr fun m' gains => ?_
          obtain ⟨valid, invalid⟩ := Builder.mem_gained.mp gains
          have blamed := (fails i).mpr ⟨⟨b, present, Option.isNone_iff_eq_none.mpr valid⟩, p.builder,
            left, by rw [Builder.isValid, invalid, Option.isNone_some]⟩
          rw [recorded] at blamed
          cases blamed
        rw [tells.rejections, gained]
        exact .nil
      | some j =>
        have own : o.subject? m = some j := (Option.filter_eq_some_iff.mp recorded).1
        cases subject.symm.trans own
        obtain ⟨⟨b₁, present₁, valid⟩, b₂, left₂, invalid⟩ := (fails i).mp recorded
        cases present.symm.trans present₁
        cases left.symm.trans left₂
        obtain ⟨m', misuse⟩ := Option.isSome_iff_exists.mp (Option.isNone_eq_false_iff.mp invalid)
        exact blames_part tells left (Option.isNone_iff_eq_none.mp valid) misuse

theorem run_logged_after {log : List Event} {misused : List Nat} (logged : o.Logged log misused)
    (ms : List Move) : (o.run ms).Logged (log ++ o.log ms) (misused ++ o.misused ms) := by
  induction ms generalizing o log misused with
  | nil =>
    rw [Overlap.log, Overlap.misused, List.append_nil, List.append_nil]
    exact logged
  | cons m ms ih =>
    have next := ih (step_logged logged m)
    rw [List.append_assoc, List.append_assoc] at next
    exact next

theorem mem_misused (ms : List Move) :
    i ∈ o.misused ms ↔ (∃ before, before <+: ms ∧ (o.run before).Valid i) ∧ (o.run ms).Failed i := by
  induction ms generalizing o with
  | nil =>
    refine ⟨fun member => (List.not_mem_nil member).elim, ?_⟩
    rintro ⟨⟨before, start, valid⟩, failed⟩
    cases List.prefix_nil.mp start
    exact (failed.not_valid valid).elim
  | cons m ms ih =>
    rw [misused, List.mem_append, Option.mem_toList, ih]
    constructor
    · rintro (recorded | ⟨⟨before, start, valid⟩, failed⟩)
      · obtain ⟨valid, failed⟩ := (o.step_misused m i).mp recorded
        exact ⟨⟨[], List.nil_prefix, valid⟩, run_failed failed ms⟩
      · exact ⟨⟨m :: before, List.cons_prefix_cons.mpr ⟨rfl, start⟩, valid⟩, failed⟩
    · rintro ⟨⟨before, start, valid⟩, failed⟩
      cases before with
      | nil =>
        rcases step_valid valid m with still | fails
        · exact .inr ⟨⟨[], List.nil_prefix, still⟩, failed⟩
        · exact .inl ((o.step_misused m i).mpr ⟨valid, fails⟩)
      | cons m' before =>
        obtain ⟨same, later⟩ := List.cons_prefix_cons.mp start
        subst same
        exact .inr ⟨⟨before, later, valid⟩, failed⟩

/-- No builder records a first misuse twice. -/
theorem misused_nodup (o : Overlap) (ms : List Move) : (o.misused ms).Nodup := by
  induction ms generalizing o with
  | nil => exact List.nodup_nil
  | cons m ms ih =>
    rw [misused]
    cases recorded : o.misused? m with
    | none => exact ih _
    | some i =>
      refine List.nodup_cons.mpr ⟨fun again => ?_, ih _⟩
      obtain ⟨⟨before, -, valid⟩, -⟩ := (mem_misused ms).mp again
      exact (run_failed ((o.step_misused m i).mp recorded).2 before).not_valid valid

/-! ### Calls in turn -/

theorem log_append (o : Overlap) (ms ms' : List Move) :
    o.log (ms ++ ms') = o.log ms ++ (o.run ms).log ms' := by
  induction ms generalizing o with
  | nil => rfl
  | cons m ms ih =>
    show o.logs m ++ (o.step m).log (ms ++ ms') = _
    rw [ih, ← List.append_assoc]
    rfl

end Overlap

/-- The session that a run leaves. -/
def Session.left {σ : Type} (s : Session) (ps : List (Performed σ)) : Session :=
  ps.foldl (fun _ p => p.session) s

namespace Overlap

variable {σ : Type} {send : Channel σ} {o o' : Overlap} {h : Handle} {b : Builder}

theorem quiet_events (quiet : send.Quiet) (world : σ) (s : Statement) :
    (send world s.sql s.values).events.filter Event.ofBuilder = [] :=
  List.filter_eq_nil_iff.mpr fun e told => by simp [quiet world s.sql s.values e told]

/-- The last leg of a call tells the log nothing. -/
theorem log_leg (quiet : send.Quiet) (world : σ) {l : Leg} {sent : List Statement}
    (inside : h.builder < o.builders.length)
    (reached : Reached o h b (b.legPart h l).stage sent o') :
    let r := b.finishLeg send world l
    o'.log ((Channel.replies send world r.sent).map (.reply o.calls.length)) = [] ∧
      r.events.filter Event.ofBuilder = [] := by
  cases l with
  | done answer => exact ⟨rfl, rfl⟩
  | send s reading =>
    refine ⟨?_, quiet_events quiet world s⟩
    show o'.logs (.reply o.calls.length (send world s.sql s.values).reply) ++ [] = []
    rw [logs_reply reached.begun (reached.present inside)]
    rfl

theorem log_run (quiet : send.Quiet) (world : σ) (present : o.builders[h.builder]? = some b)
    (t : Terminal) :
    let r := b.run send world t
    o.log (.call h (.terminal t) :: (Channel.replies send world r.sent).map (.reply o.calls.length)) =
      r.events.filter Event.ofBuilder := by
  have inside : h.builder < o.builders.length := (List.getElem?_eq_some_iff.mp present).1
  have tells := b.tells_start t
  have opened : o.logs (.call h (.terminal t)) = (b.start t).2.1 := logs_call present _
  rcases opening : b.start t with ⟨b', es, l | ⟨s, size, number⟩⟩
  · rw [opening] at tells opened
    have first := reached_call present rfl (part_of_leg opening h _)
    rw [legPart_builder] at first
    obtain ⟨silent, others⟩ := log_leg quiet world inside first
    rw [run_of_leg send world opening]
    dsimp only
    rw [Overlap.log, opened, silent, List.filter_append, others, tells.ofBuilder]
  · rw [opening] at tells opened
    have counting := reached_call present rfl (part_of_count opening h _)
    have others := quiet_events quiet world s
    generalize delivered : send world s.sql s.values = d at others
    have replied := logs_reply counting.begun (counting.present inside) d.reply
    have counted := reached_reply inside counting (r := d.reply) rfl
    rw [legPart_builder] at counted
    obtain ⟨silent, others'⟩ := log_leg quiet d.state inside counted
    have tells' := b'.tells_counted size number d.reply
    rw [run_of_count send world opening delivered]
    dsimp only
    rw [Channel.replies, delivered, List.map_cons, Overlap.log, Overlap.log, opened, replied, silent,
      List.filter_append, List.filter_append, List.filter_append, others, others',
      tells.ofBuilder, tells'.ofBuilder, List.append_nil, List.append_nil, List.append_nil]
    rfl

/-- Only terminal calls send anything. -/
theorem perform_plain (send : Channel σ) (world : σ) {s : Session} (name : String)
    (present : s.builder? h = some b) {c : Call} (plain : ∀ t, c ≠ .terminal t) :
    let p := s.perform send world h b name c
    p.sent = [] ∧ p.events = b.callEvents c := by
  cases b.view c with
  | terminal t => exact (plain t rfl).elim
  | clause c =>
    rw [Session.perform_clause]
    cases called : b.call c <;> simp [Builder.callEvents, called]
  | scope =>
    rw [Session.perform_scope send world s h b name present]
    exact ⟨rfl, rfl⟩
  | look looks =>
    rw [Session.perform_look send world s h b name looks]
    cases c <;> cases looks <;> exact ⟨rfl, rfl⟩

/-- A step of a session tells the log what the moves tell it that the step consists of. -/
theorem log_take (quiet : send.Quiet) (world : σ) {s : Session} {st : Step}
    (same : o.builders = s.builders) (present : s.builder? st.handle = some b) :
    let p := s.take send world st
    o.log (.call st.handle st.call ::
        (Channel.replies send world p.sent).map (.reply o.calls.length)) =
      p.events.filter Event.ofBuilder := by
  obtain ⟨h, c, name⟩ := st
  have present' : o.builders[h.builder]? = some b := by
    rw [same]
    exact present
  dsimp only
  rw [Session.take_present send world present]
  by_cases plain : ∀ t, c ≠ .terminal t
  · obtain ⟨silent, told⟩ := perform_plain send world name present plain
    dsimp only
    rw [silent, told, (b.tells_callPart h o.builders.length c).ofBuilder]
    show o.logs (.call h c) ++ [] = _
    rw [logs_call present', List.append_nil]
  · obtain ⟨t, rfl⟩ := not_forall_not.mp plain
    rw [Session.perform_terminal]
    exact log_run quiet world present' t

/-- A run of a session is a run of overlapping calls that sends the same statements and leaves the
same builders. If the channel is quiet it tells the log the same. -/
theorem exists_run (send : Channel σ) (world : σ) {s : Session} (same : o.builders = s.builders)
    (sts : List Step) :
    let ps := s.run send world sts
    ∃ ms, (o.run ms).sent.map (·.statement) = o.sent.map (·.statement) ++ ps.flatMap (·.sent) ∧
      (o.run ms).builders = (s.left ps).builders ∧
      (send.Quiet → o.log ms = (ps.flatMap (·.events)).filter Event.ofBuilder) := by
  induction sts generalizing o s world with
  | nil => exact ⟨[], (List.append_nil _).symm, same, fun _ => rfl⟩
  | cons st sts ih =>
    cases present : s.builder? st.handle with
    | none =>
      obtain ⟨ms, rest⟩ := ih world same
      refine ⟨ms, ?_⟩
      simp only [Session.run, Session.take, present, List.flatMap_cons, List.nil_append]
      exact rest
    | some b =>
      obtain ⟨builders, -, first⟩ := run_take send world same present
      obtain ⟨ms, sent, left, told⟩ := ih _ builders
      refine ⟨.call st.handle st.call ::
        (Channel.replies send world (s.take send world st).sent).map (.reply o.calls.length) ++ ms,
        ?_, ?_, fun quiet => ?_⟩
      · rw [run_append, sent, first, List.append_assoc]
        rfl
      · rw [run_append, left]
        rfl
      · rw [log_append, log_take quiet world same present, told quiet, Session.run,
          List.flatMap_cons, List.filter_append]

/-- The log of a run: its records of executions go one by one and in order with the statements that
were sent, and its records of rejected clauses with the builders whose first misuses the run
recorded. These are the builders, once each, that were valid at some time and are not in the end; a
builder that was got from one of them by scoping is none. A run of a session over a quiet channel
is such a run, and what the channel tells the log comes in between. -/
theorem run_logged (s : Session) :
    let o : Overlap := { builders := s.builders }
    (∀ ms, (o.run ms).Logged (o.log ms) (o.misused ms) ∧ (o.misused ms).Nodup ∧
      ∀ i, i ∈ o.misused ms ↔
        (∃ before, before <+: ms ∧ (o.run before).Valid i) ∧ (o.run ms).Failed i) ∧
    ∀ {σ : Type} (send : Channel σ), send.Quiet → ∀ world sts, ∃ ms,
      let ps := s.run send world sts
      o.log ms = (ps.flatMap (·.events)).filter Event.ofBuilder ∧
      (o.run ms).sent.map (·.statement) = ps.flatMap (·.sent) ∧
      (o.run ms).builders = (s.left ps).builders := by
  intro o
  refine ⟨fun ms => ⟨?_, o.misused_nodup ms, fun i => mem_misused ms⟩, fun send quiet world sts => ?_⟩
  · have start : o.Logged [] [] := ⟨.nil, .nil⟩
    exact run_logged_after start ms
  · have same : o.builders = s.builders := rfl
    obtain ⟨ms, sent, left, told⟩ := exists_run send world same sts
    exact ⟨ms, told quiet, sent, left⟩

/-- A limit that is no number is told to the log once. The scope of the builder has its misuse, and
what is refused there afterwards is not told. While the rows of another builder are counted a limit is
set on it: the limit of the page is then refused and told, and the page is not asked for. Without it
a session announces the count and the page. -/
theorem run_logged_limits :
    let orders : Builder := { table := .text "orders" }
    let items : Builder := { table := .text "items" }
    let s : Session := { builders := [orders, items], names := [] }
    let o : Overlap := { builders := s.builders }
    let page : Call := .terminal (.getPaginated (.int 10) (.int 1))
    let counted : Except Fault Value := .ok (.list [.list [.int 3]])
    let ms : List Move :=
      [.call ⟨0, none⟩ (.clause (.limit (.text " ten "))), .call ⟨0, none⟩ .scope,
        .call ⟨2, none⟩ (.clause (.offset .none)), .call ⟨1, none⟩ page,
        .call ⟨1, some 0⟩ (.clause (.limit (.int 5))), .reply 3 counted]
    let ps := s.run Script.channel [counted] [⟨⟨1, some 0⟩, page, ""⟩]
    Channel.Quiet Script.channel ∧ o.misused ms = [0, 1] ∧
      (o.log ms).map (·.line.message) =
        ["Query on orders rejected clause: Limit value is not a non-negative integer: ' ten '",
          "Executing SELECT on items with 0 parameter(s)",
          "Query on items rejected clause: Limit could be set only once"] ∧
      (o.run ms).Logged (o.log ms) [0, 1] ∧
      (ps.flatMap (·.events)).map (·.line.message) =
        ["Executing SELECT on items with 0 parameter(s)",
          "Executing SELECT on items with 0 parameter(s)"] ∧
      ∃ ms', o.log ms' = (ps.flatMap (·.events)).filter Event.ofBuilder := by
  intro orders items s o page counted ms ps
  obtain ⟨overlaps, session⟩ := run_logged s
  obtain ⟨ms', told, -⟩ := session Script.channel Script.quiet [counted] [⟨⟨1, some 0⟩, page, ""⟩]
  have misused : o.misused ms = [0, 1] := by decide
  have logged := (overlaps ms).1
  rw [misused] at logged
  exact ⟨Script.quiet, misused, by decide, logged, by decide +kernel, ms', told⟩

end Overlap

end TableQuery

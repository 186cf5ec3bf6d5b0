import TableQuery.Proofs.Builder.Gate
import TableQuery.Proofs.Session.Overlap
import TableQuery.Proofs.Session.Run

/-!
# Calls in turn

A session that waits for every reply before it does anything else is one run of overlapping calls.
`run_take` shows so of one step, with the builders, the response and the statements that
the step has.
-/

namespace TableQuery.Overlap

theorem dispatches_statement (p : Part) (n i : Nat) :
    (p.dispatches n i).map (·.statement) = p.sent.toList := by
  unfold Part.dispatches
  rw [List.map_map]
  exact List.map_id _

/-- With one more call a session has come to this builder, stage and list of statements. -/
structure Reached (o : Overlap) (h : Handle) (b : Builder) (stage : Stage) (sent : List Statement)
    (o' : Overlap) : Prop where
  builders : o'.builders = o.builders.set h.builder b
  calls : o'.calls = o.calls ++ [⟨h, stage⟩]
  sent : o'.sent.map (·.statement) = o.sent.map (·.statement) ++ sent

variable {o o' : Overlap} {h : Handle} {b : Builder}

theorem reached_call (present : o.builders[h.builder]? = some b) {c : Call} {p : Part}
    (alone : c.made b = []) (part : b.callPart h o.builders.length c = p) :
    Reached o h p.builder p.stage p.sent.toList (o.step (.call h c)) := by
  subst part
  rw [step_call present]
  unfold enter
  refine ⟨?_, rfl, ?_⟩
  · dsimp only
    rw [alone, List.append_nil]
  · dsimp only
    rw [List.map_append, dispatches_statement]

theorem Reached.begun {stage : Stage} {sent : List Statement} (reached : Reached o h b stage sent o') :
    o'.calls[o.calls.length]? = some ⟨h, stage⟩ := by
  rw [reached.calls, List.getElem?_concat_length]

theorem Reached.present {stage : Stage} {sent : List Statement}
    (reached : Reached o h b stage sent o') (inside : h.builder < o.builders.length) :
    o'.builders[h.builder]? = some b := by
  rw [reached.builders, List.getElem?_set_self inside]

theorem reached_reply {stage : Stage} {sent : List Statement} (inside : h.builder < o.builders.length)
    (reached : Reached o h b stage sent o') {r : Except Fault Value} {p : Part}
    (part : b.replyPart h r stage = some p) :
    Reached o h p.builder p.stage (sent ++ p.sent.toList) (o'.step (.reply o.calls.length r)) := by
  rw [step_reply reached.begun (reached.present inside) part]
  unfold goOn
  refine ⟨?_, ?_, ?_⟩
  · dsimp only
    rw [reached.builders, List.set_set]
  · dsimp only
    rw [reached.calls, List.set_append_right _ _ (Nat.le_refl _), Nat.sub_self]
    rfl
  · dsimp only
    rw [List.map_append, dispatches_statement, reached.sent, List.append_assoc]

variable {σ : Type} (send : Channel σ) (world : σ)

/-- A call in its last leg ends with the reply to it. -/
theorem reached_leg {l : Leg} (before : List Statement) (inside : h.builder < o.builders.length)
    (reached : Reached o h b (b.legPart h l).stage (before ++ (b.legPart h l).sent.toList) o') :
    let r := b.finishLeg send world l
    Reached o h b (.ended (h.respond r.answer)) (before ++ r.sent)
      (o'.run ((Channel.replies send world r.sent).map (.reply o.calls.length))) := by
  cases l with
  | done answer => exact reached
  | send s reading =>
    have ended := reached_reply inside reached (r := (send world s.sql s.values).reply) rfl
    rw [Option.toList_none, List.append_nil] at ended
    exact ended

theorem legPart_builder (b : Builder) (h : Handle) (l : Leg) : (b.legPart h l).builder = b := by
  cases l <;> rfl

variable {b' : Builder} {t : Terminal} {es : List Event}

theorem part_of_leg {l : Leg} (opening : b.start t = (b', es, .leg l)) (h : Handle) (next : Nat) :
    b.callPart h next (.terminal t) = b'.legPart h l := by
  show b.startPart h t = _
  unfold Builder.startPart
  rw [opening]

theorem run_of_leg {l : Leg} (opening : b.start t = (b', es, .leg l)) :
    b.run send world t =
      { b'.finishLeg send world l with events := es ++ (b'.finishLeg send world l).events } := by
  unfold Builder.run
  rw [opening]

theorem part_of_count {s : Statement} {size number : Nat}
    (opening : b.start t = (b', es, .counting s size number)) (h : Handle) (next : Nat) :
    b.callPart h next (.terminal t) =
      { builder := b', stage := .counting size number, sent := some s } := by
  show b.startPart h t = _
  unfold Builder.startPart
  rw [opening]

theorem run_of_count {s : Statement} {size number : Nat} {d : Delivery σ}
    (opening : b.start t = (b', es, .counting s size number))
    (delivered : send world s.sql s.values = d) :
    b.run send world t =
      let p := b'.counted size number d.reply
      let r := p.1.finishLeg send d.state p.2.2
      { r with sent := s :: r.sent, events := es ++ d.events ++ p.2.1 ++ r.events } := by
  unfold Builder.run
  rw [opening]
  dsimp only
  rw [delivered]

theorem reached_run (present : o.builders[h.builder]? = some b) (t : Terminal) :
    let r := b.run send world t
    Reached o h r.builder (.ended (h.respond r.answer)) r.sent
      (o.run (.call h (.terminal t) ::
        (Channel.replies send world r.sent).map (.reply o.calls.length))) := by
  have inside : h.builder < o.builders.length := (List.getElem?_eq_some_iff.mp present).1
  rcases opening : b.start t with ⟨b', es, l | ⟨s, size, number⟩⟩
  · have first := reached_call present rfl (part_of_leg opening h _)
    rw [legPart_builder] at first
    rw [run_of_leg send world opening]
    dsimp only
    rw [Builder.finishLeg_builder]
    exact reached_leg send world [] inside first
  · have counting := reached_call present rfl (part_of_count opening h _)
    generalize delivered : send world s.sql s.values = d
    have counted := reached_reply inside counting (r := d.reply) rfl
    rw [legPart_builder] at counted
    have last := reached_leg send d.state [s] inside counted
    rw [run_of_count send world opening delivered]
    dsimp only
    rw [Builder.finishLeg_builder, Channel.replies, delivered]
    exact last

/-- A session has come to what a step of it gives. -/
structure Takes (o : Overlap) (h : Handle) (p : Performed σ) (o' : Overlap) : Prop where
  builders : o'.builders = p.session.builders
  calls : o'.calls = o.calls ++ [⟨h, .ended p.response⟩]
  sent : o'.sent.map (·.statement) = o.sent.map (·.statement) ++ p.sent

/-- A call that answers from the builder as it is. -/
theorem takes_stay {s : Session} (same : o.builders = s.builders)
    (present : o.builders[h.builder]? = some b) {c : Call} {response : Response}
    (alone : c.made b = [])
    (part : b.callPart h o.builders.length c = { builder := b, stage := .ended response }) :
    Takes o h { response, session := s, channel := world } (o.step (.call h c)) := by
  obtain ⟨builders, calls, sent⟩ := reached_call present alone part
  refine ⟨?_, calls, sent⟩
  obtain ⟨inside, rfl⟩ := List.getElem?_eq_some_iff.mp present
  rw [builders, List.set_getElem_self inside]
  exact same

theorem part_look {c : Call} {r : Response} (looks : b.look c = some r) (h : Handle) (next : Nat) :
    c.made b = [] ∧ b.callPart h next c = { builder := b, stage := .ended r } := by
  cases c <;> cases looks <;> exact ⟨rfl, rfl⟩

/-- A step of a session is a run in which every reply comes before anything else is done. -/
theorem run_take {s : Session} {st : Step} (same : o.builders = s.builders)
    (present : s.builder? st.handle = some b) :
    let p := s.take send world st
    Takes o st.handle p (o.run (.call st.handle st.call ::
      (Channel.replies send world p.sent).map (.reply o.calls.length))) := by
  obtain ⟨h, c, name⟩ := st
  have present' : o.builders[h.builder]? = some b := by
    rw [same]
    exact present
  have taken : s.take send world ⟨h, c, name⟩ = s.perform send world h b name c :=
    Session.take_present send world present
  dsimp only
  rw [taken]
  cases b.view c with
  | terminal t =>
    rw [Session.perform_terminal]
    obtain ⟨builders, calls, sent⟩ := reached_run send world present' t
    rw [same] at builders
    exact ⟨builders, calls, sent⟩
  | clause c =>
    rw [Session.perform_clause]
    cases called : b.call c with
    | error f =>
      have part : b.callPart h o.builders.length (.clause c) =
          { builder := b, stage := .ended (.fault f) } := by
        simp only [Builder.callPart, called]
      exact takes_stay world same present' rfl part
    | ok r =>
      obtain ⟨b', es⟩ := r
      have part : b.callPart h o.builders.length (.clause c) =
          { builder := b', stage := .ended (.object h b'.misuse) } := by
        simp only [Builder.callPart, called]
      obtain ⟨builders, calls, sent⟩ := reached_call present' rfl part
      rw [same] at builders
      exact ⟨builders, calls, sent⟩
  | scope =>
    rw [Session.perform_scope send world s h b name present]
    have entered : o.step (.call h .scope) = o.enter h b .scope := step_call present' _
    have kept : o.builders.set h.builder b = s.builders := by
      obtain ⟨inside, rfl⟩ := List.getElem?_eq_some_iff.mp present'
      rw [List.set_getElem_self inside]
      exact same
    refine ⟨?_, ?_, ?_⟩
    · show (o.step (.call h .scope)).builders = s.builders ++ [b.scope]
      rw [entered, ← kept]
      rfl
    · show (o.step (.call h .scope)).calls = _
      rw [entered, ← same]
      rfl
    · show (o.step (.call h .scope)).sent.map _ = _
      rw [entered]
      show (o.sent ++ []).map _ = o.sent.map _ ++ []
      rw [List.append_nil, List.append_nil]
  | look looks =>
    rw [Session.perform_look send world s h b name looks]
    obtain ⟨alone, part⟩ := part_look looks h o.builders.length
    exact takes_stay world same present' alone part

end TableQuery.Overlap

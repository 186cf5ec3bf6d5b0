import TableQuery.Proofs.Builder.Growth
import TableQuery.Proofs.Builder.Pagination
import TableQuery.Proofs.Session.Overlap

/-!
# Builders are used once

However calls overlap, a builder hands over one statement at most. What carries this is an equation:
the statements that a builder has handed over are as many as its flag says, and a part of a call
that hands one over raises the flag (`callPart_handed`, `replyPart_handed`). The main statement is
`run_single_use`.
-/

namespace TableQuery

/-! ### What one part hands over -/

def Leg.handed : Leg → Nat
  | .done _ => 0
  | .send .. => 1

/-- The statements of the builder itself that go out with a part. A count is none of them. -/
def Part.handed (p : Part) : Nat := if p.stage.counts then 0 else p.sent.toList.length

namespace Builder

theorem legPart_handed (b : Builder) (h : Handle) (l : Leg) :
    (b.legPart h l).builder = b ∧ (b.legPart h l).handed = l.handed := by
  cases l <;> exact ⟨rfl, rfl⟩

theorem hand_handed (b : Builder) (s : Except Fault Statement) (reading : Reading) :
    (b.hand s reading).1.executed.toNat = b.executed.toNat + (b.hand s reading).2.2.handed := by
  unfold hand
  split
  · rfl
  · split
    · rfl
    · rename_i fresh
      have unused : b.executed = false := by simpa using fresh
      rw [unused]
      rfl

theorem handWith_handed (b : Builder) (clauses : List ClauseCall)
    (compile : Builder → Except Fault Statement) (reading : Reading) :
    (b.handWith clauses compile reading).1.executed.toNat =
      b.executed.toNat + (b.handWith clauses compile reading).2.2.handed := by
  unfold handWith
  split
  · rfl
  · rename_i b' es called
    rw [← callAll_executed called]
    exact b'.hand_handed _ reading

/-- A paginated call begins with an answer or with a count. -/
theorem startPage_opening (b : Builder) (size number : Value) :
    (∃ answer, (b.startPage size number).2.2 = .leg (.done answer)) ∨
      ∃ s n k, (b.startPage size number).2.2 = .counting s n k := by
  unfold startPage
  split
  · exact .inl ⟨_, rfl⟩
  · split
    · exact .inl ⟨_, rfl⟩
    · exact .inr ⟨_, _, _, rfl⟩

theorem startPart_handed (b : Builder) (h : Handle) (t : Terminal) :
    (b.startPart h t).builder.executed.toNat =
      b.executed.toNat + (b.startPart h t).handed := by
  unfold startPart
  cases single : t.single? with
  | some reading =>
    rw [b.start_single single]
    obtain ⟨left, handed⟩ := legPart_handed (b.handWith t.clauses t.compile reading).1 h
      (b.handWith t.clauses t.compile reading).2.2
    dsimp only
    rw [left, handed]
    exact b.handWith_handed t.clauses t.compile reading
  | none =>
    obtain ⟨size, number, rfl⟩ := Terminal.single?_eq_none.mp single
    have left := b.startPage_builder size number
    rw [show b.start (.getPaginated size number) = b.startPage size number from rfl]
    rcases b.startPage_opening size number with ⟨answer, opening⟩ | ⟨s, n, k, opening⟩ <;>
      generalize b.startPage size number = r at left opening <;>
      obtain ⟨b', es, o⟩ := r <;>
      cases left <;>
      cases opening <;>
      rfl

/-- A statement that goes out with a call is marked on the builder, and nothing else is. -/
theorem callPart_handed (b : Builder) (h : Handle) (next : Nat) (c : Call) :
    (b.callPart h next c).builder.executed.toNat =
      b.executed.toNat + (b.callPart h next c).handed := by
  cases c with
  | clause c =>
    cases called : b.call c with
    | error f => simp only [callPart, called]; rfl
    | ok r =>
      obtain ⟨b', es⟩ := r
      simp only [callPart, called]
      rw [call_executed called]
      rfl
  | terminal t => exact b.startPart_handed h t
  | _ => rfl

theorem replyPart_handed {b : Builder} {h : Handle} {reply : Except Fault Value} {stage : Stage}
    {p : Part} (part : b.replyPart h reply stage = some p) :
    p.builder.executed.toNat = b.executed.toNat + p.handed := by
  cases stage with
  | counting size number =>
    cases part
    obtain ⟨left, handed⟩ := legPart_handed (b.counted size number reply).1 h
      (b.counted size number reply).2.2
    rw [left, handed]
    unfold counted
    split
    · rfl
    · exact b.handWith_handed _ _ _
  | reading reading =>
    cases part
    rfl
  | ended response => cases part

theorem hand_executed {b : Builder} (used : b.executed = true) (s : Except Fault Statement)
    (reading : Reading) : ∃ f, b.hand s reading = (b, [], .done (.error f)) := by
  unfold hand
  cases s with
  | error f => exact ⟨f, rfl⟩
  | ok s => exact ⟨.misuse .executed, if_pos used⟩

/-- A call on a builder that has handed over its statement is refused at once. -/
theorem start_executed {b : Builder} (used : b.executed = true) (t : Terminal) :
    ∃ f, (b.start t).2.2 = .leg (.done (.error f)) := by
  cases single : t.single? with
  | some reading =>
    rw [b.start_single single]
    unfold handWith
    split
    · exact ⟨_, rfl⟩
    · rename_i b' es called
      obtain ⟨f, refused⟩ :=
        hand_executed ((callAll_executed called).trans used) (t.compile b') reading
      rw [refused]
      exact ⟨f, rfl⟩
  | none =>
    obtain ⟨size, number, rfl⟩ := Terminal.single?_eq_none.mp single
    show ∃ f, (b.startPage size number).2.2 = _
    unfold startPage
    cases bounds : b.pageBounds size number with
    | error m => exact ⟨_, rfl⟩
    | ok page =>
      obtain ⟨-, -, -, fresh, -⟩ := pageBounds_inv bounds
      rw [used] at fresh
      cases fresh

end Builder

namespace Overlap

/-! ### What a run hands over -/

/-- The statements that a builder handed over itself. -/
def handed (o : Overlap) (i : Nat) : List Dispatch :=
  o.sent.filter fun d => d.builder == i && !d.counts

def isExecuted (o : Overlap) (i : Nat) : Bool := (o.builders[i]?.map (·.executed)).getD false

/-- Every builder has handed over as many statements as its flag says. -/
def Tallied (o : Overlap) : Prop := ∀ i, (o.handed i).length = (o.isExecuted i).toNat

theorem handed_dispatches (p : Part) (n j i : Nat) :
    ((p.dispatches n j).filter fun d => d.builder == i && !d.counts).length =
      if j = i then p.handed else 0 := by
  obtain ⟨b, stage, sent⟩ := p
  cases sent with
  | none => simp [Part.dispatches, Part.handed]
  | some s =>
    cases counting : stage.counts <;> by_cases own : j = i <;>
      simp [Part.dispatches, Part.handed, counting, own]

variable {o o' : Overlap}

theorem isExecuted_of_set {j : Nat} {b b' : Builder} {made : List Builder}
    (present : o.builders[j]? = some b) (left : o'.builders = o.builders.set j b' ++ made)
    (fresh : ∀ b ∈ made, b.executed = false) (i : Nat) :
    o'.isExecuted i = if j = i then b'.executed else o.isExecuted i := by
  obtain ⟨inside, -⟩ := List.getElem?_eq_some_iff.mp present
  unfold isExecuted
  rw [left]
  by_cases old : i < o.builders.length
  · rw [List.getElem?_append_left (by rw [List.length_set]; exact old), List.getElem?_set]
    by_cases own : j = i
    · rw [if_pos own, if_pos own, if_pos inside]
      rfl
    · rw [if_neg own, if_neg own]
  · have outside : o.builders[i]? = none := List.getElem?_eq_none (by omega)
    rw [if_neg (by omega), outside, List.getElem?_append_right (by rw [List.length_set]; omega)]
    cases added : made[i - (o.builders.set j b').length]? with
    | none => rfl
    | some b => exact fresh b (List.mem_of_getElem? added)

theorem made_executed {b b' : Builder} {c : Call} (made : b' ∈ c.made b) : b'.executed = false := by
  cases c with
  | scope =>
    cases List.mem_singleton.mp made
    rfl
  | _ => cases made

theorem tallied_part (tallied : o.Tallied) {j n : Nat} {b : Builder} {p : Part}
    {made : List Builder} (present : o.builders[j]? = some b)
    (handed : p.builder.executed.toNat = b.executed.toNat + p.handed)
    (fresh : ∀ b ∈ made, b.executed = false)
    (left : o'.builders = o.builders.set j p.builder ++ made)
    (sent : o'.sent = o.sent ++ p.dispatches n j) : o'.Tallied := by
  intro i
  have before := tallied i
  rw [isExecuted_of_set present left fresh]
  unfold Overlap.handed at before ⊢
  rw [sent, List.filter_append, List.length_append, handed_dispatches, before]
  by_cases own : j = i
  · subst own
    rw [if_pos rfl, if_pos rfl, handed]
    unfold isExecuted
    rw [present]
    rfl
  · rw [if_neg own, if_neg own]
    rfl

theorem step_tallied (o : Overlap) (m : Move) (tallied : o.Tallied) : (o.step m).Tallied := by
  have moves := o.step_moves m
  generalize o.step m = o' at moves
  cases moves with
  | enter present =>
    exact tallied_part tallied present (Builder.callPart_handed _ _ _ _) (fun _ => made_executed)
      rfl rfl
  | goOn begun present part =>
    exact tallied_part tallied present (Builder.replyPart_handed part)
      (fun _ member => (List.not_mem_nil member).elim) (List.append_nil _).symm rfl
  | stay => exact tallied

/-! ### Calls that have ended -/

/-- A call has ended, and nothing was sent by it. -/
structure Refused (n : Nat) (h : Handle) (response : Response) (o : Overlap) : Prop where
  ended : o.calls[n]? = some ⟨h, .ended response⟩
  silent : ∀ d ∈ o.sent, d.call ≠ n

theorem dispatches_call {p : Part} {n i : Nat} {d : Dispatch} (sent : d ∈ p.dispatches n i) :
    d.call = n := by
  obtain ⟨s, -, rfl⟩ := List.mem_map.mp sent
  rfl

/-- Every statement was sent by a call that was begun. -/
def Begun (o : Overlap) : Prop := ∀ d ∈ o.sent, d.call < o.calls.length

theorem step_begun (o : Overlap) (m : Move) (begun : o.Begun) : (o.step m).Begun := by
  have moves := o.step_moves m
  generalize o.step m = o' at moves
  cases moves with
  | enter present =>
    intro d sent
    show d.call < (o.calls ++ [_]).length
    rw [List.length_append]
    rcases List.mem_append.mp sent with old | new
    · exact Nat.lt_succ_of_lt (begun d old)
    · rw [dispatches_call new]
      exact Nat.lt_succ_self _
  | @goOn n r h stage b p known present part =>
    intro d sent
    show d.call < (o.calls.set n _).length
    rw [List.length_set]
    rcases List.mem_append.mp sent with old | new
    · exact begun d old
    · rw [dispatches_call new]
      exact (List.getElem?_eq_some_iff.mp known).1
  | stay => exact begun

/-- What has ended stays so. -/
theorem step_refused {n : Nat} {h : Handle} {response : Response} (o : Overlap) (m : Move)
    (refused : Refused n h response o) : Refused n h response (o.step m) := by
  have moves := o.step_moves m
  obtain ⟨inside, -⟩ := List.getElem?_eq_some_iff.mp refused.ended
  generalize o.step m = o' at moves
  cases moves with
  | enter present =>
    refine ⟨?_, fun d sent => ?_⟩
    · show (o.calls ++ [_])[n]? = _
      rw [List.getElem?_append_left inside]
      exact refused.ended
    · rcases List.mem_append.mp sent with old | new
      · exact refused.silent d old
      · rw [dispatches_call new]
        exact Nat.ne_of_gt inside
  | @goOn k r h' stage b p known present part =>
    -- A call that has ended takes no reply.
    have other : k ≠ n := by
      rintro rfl
      rw [refused.ended] at known
      cases known
      cases part
    refine ⟨?_, fun d sent => ?_⟩
    · show (o.calls.set k _)[n]? = _
      rw [List.getElem?_set_ne other]
      exact refused.ended
    · rcases List.mem_append.mp sent with old | new
      · exact refused.silent d old
      · rw [dispatches_call new]
        exact other
  | stay => exact refused

/-- A terminal call on a builder that has handed over its statement ends at once. -/
theorem call_executed_refused {o : Overlap} (begun : o.Begun) {h : Handle} {b : Builder}
    (present : o.builders[h.builder]? = some b) (used : b.executed = true) (t : Terminal) :
    ∃ f, Refused o.calls.length h (h.respond (.error f)) (o.step (.call h (.terminal t))) := by
  obtain ⟨f, opening⟩ := Builder.start_executed used t
  have part : ∃ b', b.callPart h o.builders.length (.terminal t) =
      { builder := b', stage := .ended (h.respond (.error f)) } := by
    show ∃ b', b.startPart h t = _
    unfold Builder.startPart
    generalize b.start t = r at opening
    obtain ⟨b', es, opened⟩ := r
    cases opening
    exact ⟨b', rfl⟩
  obtain ⟨b', part⟩ := part
  rw [step_call present]
  unfold enter
  rw [part]
  refine ⟨f, List.getElem?_concat_length, fun d sent => ?_⟩
  have old : d ∈ o.sent := by simpa [Part.dispatches] using sent
  exact Nat.ne_of_lt (begun d old)

/-! ### Runs -/

/-- In every order of calls and replies a builder hands over one statement at most, whatever the
replies are, and its flag says if it has. A terminal call that begins after that ends at once with a
fault and never sends anything. -/
theorem run_single_use {bs : List Builder} (unused : ∀ b ∈ bs, b.executed = false)
    (ms : List Move) :
    let o := run { builders := bs } ms
    ∀ i b, o.builders[i]? = some b →
      (o.handed i).length ≤ 1 ∧ (b.executed = true ↔ (o.handed i).length = 1) ∧
        (b.executed = true → ∀ h t, h.builder = i → ∀ later,
          let o' := (o.step (.call h (.terminal t))).run later
          (∃ f, o'.calls[o.calls.length]? = some ⟨h, .ended (h.respond (.error f))⟩) ∧
            ∀ d ∈ o'.sent, d.call ≠ o.calls.length) := by
  intro o i b present
  have tallied : o.Tallied := by
    refine run_keeps step_tallied (fun i => ?_) ms
    show 0 = ((bs[i]?.map (·.executed)).getD false).toNat
    cases found : bs[i]? with
    | none => rfl
    | some b =>
      rw [Option.map_some, unused b (List.mem_of_getElem? found)]
      rfl
  have begun : o.Begun := run_keeps step_begun (fun d sent => (List.not_mem_nil sent).elim) ms
  have flag : o.isExecuted i = b.executed := by
    unfold isExecuted
    rw [present]
    rfl
  refine ⟨?_, ?_, fun used h t own later => ?_⟩
  · rw [tallied i]
    exact Bool.toNat_le _
  · rw [tallied i, flag, Bool.toNat_eq_one]
  · subst own
    obtain ⟨f, refused⟩ := call_executed_refused begun present used t
    obtain ⟨ended, silent⟩ := run_keeps step_refused refused later
    exact ⟨⟨f, ended⟩, silent⟩

/-- Two paginated calls wait for their counts on one builder. The page of the first is refused by the
channel; it counts all the same, and the second call gets no page. -/
theorem run_single_use_two_pages :
    let orders : Builder := { table := .text "orders" }
    let h : Handle := { builder := 0 }
    let page (number : Int) : Call := .terminal (.getPaginated (.int 10) (.int number))
    let ms : List Move :=
      [.call h (page 1), .call h (page 2), .reply 0 (.ok (.list [.list [.int 3]])),
        .reply 0 (.error (.raised (.other "OSError" "reset"))),
        .reply 1 (.ok (.list [.list [.int 3]]))]
    let o := run { builders := [orders] } ms
    (∀ b ∈ [orders], b.executed = false) ∧ o.sent.length = 3 ∧ (o.handed 0).length = 1 := by
  intro orders h page ms o
  have unused : ∀ b ∈ [orders], b.executed = false := by
    intro b member
    cases List.mem_singleton.mp member
    rfl
  have flag : o.builders[0]?.map (·.executed) = some true := by decide +kernel
  obtain ⟨b, present, used⟩ := Option.map_eq_some_iff.mp flag
  exact ⟨unused, by decide +kernel, (run_single_use unused ms 0 b present).2.1.mp used⟩

end Overlap

end TableQuery

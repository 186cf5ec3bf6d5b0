import TableQuery.Proofs.Builder.Setting
import TableQuery.Proofs.Session.Poison

/-!
# The clause calls of a run

Terminal calls make clause calls of their own, at once or after a count. `clausesOn` lists all that a
run makes on one builder. `run_gives` shows that the builder is what they make of it, but for its
flag, so what holds of clause calls in turn holds of every run. The main statement is `run_set_once`.
-/

namespace TableQuery

/-- The clause calls that a terminal call makes on a builder. If one faults, nothing comes of them. -/
def Builder.made (b : Builder) (cs : List ClauseCall) : List ClauseCall :=
  match b.callAll cs with
  | .ok _ => cs
  | .error _ => []

/-- The clause calls that a call makes at once. -/
def Call.clauses (b : Builder) : Call → List ClauseCall
  | .clause c => [c]
  | .terminal t => b.made t.clauses
  | _ => []

/-- The clause calls that follow a reply: the bounds of a page, once the rows are counted. -/
def Stage.clauses (b : Builder) (reply : Except Fault Value) : Stage → List ClauseCall
  | .counting size number =>
    match reply.bind countIn with
    | .ok _ => b.made [.limit (.int size), .offset (.int (size * (number - 1)))]
    | .error _ => []
  | _ => []

namespace Builder

/-- A builder is what clause calls make of another, whether it was executed or not. -/
def Gives (b : Builder) (cs : List ClauseCall) (b' : Builder) : Prop :=
  ∃ executed, b' = { b.attemptAll cs with executed }

variable {b b' : Builder}

/-! ### The flag -/

/-- No clause call looks at the flag. -/
theorem attempt_flag (b : Builder) (executed : Bool) (c : ClauseCall) :
    ({ b with executed } : Builder).attempt c = { b.attempt c with executed } := by
  have part : ({ b with executed } : Builder).part c.group = b.part c.group := by
    cases c.group <;> rfl
  rw [attempt_eq, attempt_eq, judge_eq_rejoin, part, b.judge_eq_rejoin]
  cases (b.part c.group).judge c with
  | accepted p =>
    show ({ b with executed } : Builder).rejoin c.group p = { b.rejoin c.group p with executed }
    cases c.group <;> rfl
  | rejected m =>
    show (({ b with executed } : Builder).record m).1 = { (b.record m).1 with executed }
    simp only [record_eq]
  | fault f => rfl

theorem attemptAll_flag (b : Builder) (executed : Bool) (cs : List ClauseCall) :
    ({ b with executed } : Builder).attemptAll cs = { b.attemptAll cs with executed } := by
  induction cs generalizing b with
  | nil => rfl
  | cons c cs ih =>
    show (({ b with executed } : Builder).attempt c).attemptAll cs = _
    rw [attempt_flag, ih]
    rfl

theorem Gives.same (b : Builder) : b.Gives [] b := ⟨b.executed, rfl⟩

theorem Gives.append {b'' : Builder} {cs ds : List ClauseCall} (first : b.Gives cs b')
    (later : b'.Gives ds b'') : b.Gives (cs ++ ds) b'' := by
  obtain ⟨flag, rfl⟩ := first
  obtain ⟨flag', rfl⟩ := later
  refine ⟨flag', ?_⟩
  rw [attemptAll_flag, attemptAll, attemptAll, attemptAll, List.foldl_append]

theorem Gives.isValid {cs : List ClauseCall} (gives : b.Gives cs b') (invalid : b.isValid = false) :
    b'.isValid = false := by
  obtain ⟨flag, rfl⟩ := gives
  show (b.attemptAll cs).isValid = false
  rw [attemptAll_isValid, invalid, Bool.false_and]

/-! ### One part of a call -/

theorem callAll_eq_ok {cs : List ClauseCall} {es : List Event}
    (called : b.callAll cs = .ok (b', es)) : b' = b.attemptAll cs := by
  induction cs generalizing b es with
  | nil =>
    cases called
    rfl
  | cons c cs ih =>
    obtain ⟨⟨b₁, es₁⟩, first, called⟩ := bind_eq_ok.mp called
    obtain ⟨⟨b₂, es₂⟩, rest, same⟩ := bind_eq_ok.mp called
    cases same
    have left : b.attempt c = b₁ := by
      unfold attempt
      rw [first]
    show b' = (b.attempt c).attemptAll cs
    rw [left]
    exact ih rest

theorem gives_hand (b : Builder) (s : Except Fault Statement) (reading : Reading) :
    b.Gives [] (b.hand s reading).1 := by
  unfold hand
  split
  · exact .same b
  · split
    · exact .same b
    · exact ⟨true, rfl⟩

theorem gives_handWith (b : Builder) (clauses : List ClauseCall)
    (compile : Builder → Except Fault Statement) (reading : Reading) :
    b.Gives (b.made clauses) (b.handWith clauses compile reading).1 := by
  unfold handWith made
  cases called : b.callAll clauses with
  | error f => exact .same b
  | ok r =>
    obtain ⟨b', es⟩ := r
    have left : b.Gives clauses b' := by
      rw [callAll_eq_ok called]
      exact ⟨_, rfl⟩
    have handed := left.append (b'.gives_hand (compile b') reading)
    rw [List.append_nil] at handed
    exact handed

theorem gives_start (b : Builder) (t : Terminal) : b.Gives (b.made t.clauses) (b.start t).1 := by
  cases single : t.single? with
  | some reading =>
    rw [b.start_single single]
    exact b.gives_handWith t.clauses t.compile reading
  | none =>
    obtain ⟨size, number, rfl⟩ := Terminal.single?_eq_none.mp single
    rw [show (b.start (.getPaginated size number)).1 = b from b.startPage_builder size number]
    exact .same b

theorem startPart_builder (b : Builder) (h : Handle) (t : Terminal) :
    (b.startPart h t).builder = (b.start t).1 := by
  unfold startPart
  rcases b.start t with ⟨b', es, l | ⟨s, size, number⟩⟩
  · cases l <;> rfl
  · rfl

theorem gives_callPart (b : Builder) (h : Handle) (next : Nat) (c : Call) :
    b.Gives (c.clauses b) (b.callPart h next c).builder := by
  cases c with
  | clause c =>
    refine ⟨(b.attempt c).executed, ?_⟩
    rw [Call.clauses]
    show (b.callPart h next (.clause c)).builder = b.attempt c
    cases called : b.call c <;> simp only [callPart, attempt, called]
  | terminal t =>
    show b.Gives (b.made t.clauses) (b.startPart h t).builder
    rw [startPart_builder]
    exact b.gives_start t
  | _ => exact .same b

theorem gives_counted (b : Builder) (size number : Nat) (reply : Except Fault Value) :
    b.Gives ((Stage.counting size number).clauses b reply) (b.counted size number reply).1 := by
  unfold counted Stage.clauses
  cases reply.bind countIn with
  | error f => exact .same b
  | ok total => exact b.gives_handWith _ _ _

theorem gives_replyPart {h : Handle} {reply : Except Fault Value} {stage : Stage} {p : Part}
    (part : b.replyPart h reply stage = some p) : b.Gives (stage.clauses b reply) p.builder := by
  cases stage with
  | counting size number =>
    cases part
    have gives := b.gives_counted size number reply
    cases (b.counted size number reply).2.2 <;> exact gives
  | reading reading =>
    cases part
    exact .same b
  | ended response => cases part

end Builder

namespace Overlap

/-! ### Runs -/

/-- The clause calls that a move makes on a builder that is there. -/
def clausesOf (o : Overlap) (i : Nat) (m : Move) : List ClauseCall :=
  match o.builders[i]?, m with
  | some b, .call h c => if h.builder = i then c.clauses b else []
  | some b, .reply n r =>
    match o.calls[n]? with
    | some p => if p.handle.builder = i then p.stage.clauses b r else []
    | none => []
  | none, _ => []

/-- The clause calls that a run makes on a builder. -/
def clausesOn (o : Overlap) (i : Nat) : List Move → List ClauseCall
  | [] => []
  | m :: ms => o.clausesOf i m ++ (o.step m).clausesOn i ms

variable {o : Overlap} {i : Nat} {b : Builder}

theorem step_gives (present : o.builders[i]? = some b) (m : Move) :
    ∃ b', (o.step m).builders[i]? = some b' ∧ b.Gives (o.clausesOf i m) b' := by
  unfold clausesOf
  rw [present]
  cases m with
  | call h c =>
    dsimp only
    by_cases own : h.builder = i
    · subst own
      rw [step_call present, if_pos rfl]
      refine ⟨_, builder_set present _ _ _, ?_⟩
      rw [if_pos rfl]
      exact b.gives_callPart h _ c
    · rw [if_neg own]
      refine ⟨b, ?_, .same b⟩
      cases found : o.builders[h.builder]? with
      | none => simpa only [step, found] using present
      | some c' =>
        rw [step_call found]
        exact (builder_set present _ _ _).trans (congrArg some (if_neg own))
  | reply n r =>
    cases begun : o.calls[n]? with
    | none =>
      simp only [step, begun]
      exact ⟨b, present, .same b⟩
    | some p =>
      obtain ⟨h, stage⟩ := p
      have went (p : Part) : (o.goOn n h p).builders[i]? =
          some (if h.builder = i then p.builder else b) := by
        rw [← builder_set present h.builder p.builder [], List.append_nil]
        rfl
      simp only [step, begun]
      by_cases own : h.builder = i
      · subst own
        rw [present, if_pos rfl, Option.bind_some]
        cases part : b.replyPart h r stage with
        | none =>
          -- Only a call that has ended takes no reply, and it makes no clause calls.
          cases stage with
          | ended response => exact ⟨b, present, .same b⟩
          | _ => cases part
        | some p =>
          refine ⟨_, went p, ?_⟩
          rw [if_pos rfl]
          exact Builder.gives_replyPart part
      · rw [if_neg own]
        refine ⟨b, ?_, .same b⟩
        split
        · rename_i p goes
          exact (went p).trans (congrArg some (if_neg own))
        · exact present

/-- A builder is what the clause calls of a run make of it. -/
theorem run_gives (present : o.builders[i]? = some b) (ms : List Move) :
    ∃ b', (o.run ms).builders[i]? = some b' ∧ b.Gives (o.clausesOn i ms) b' := by
  induction ms generalizing o b with
  | nil => exact ⟨b, present, .same b⟩
  | cons m ms ih =>
    obtain ⟨b₁, found, first⟩ := step_gives present m
    obtain ⟨b₂, found', rest⟩ := ih found
    exact ⟨b₂, found', first.append rest⟩

/-- Whatever is called, conditions and joins are added behind those that are there, and a setting
keeps its value: the one that it had, or else that of the first call that was accepted for it. Once
two calls for one setting have returned, the builder is not valid any more. Calls that get the first
row, find a row or page make such calls too. -/
theorem run_set_once (present : o.builders[i]? = some b) (ms : List Move) :
    let cs := o.clausesOn i ms
    ∃ b', (o.run ms).builders[i]? = some b' ∧ b.Gives cs b' ∧
      b.conditions <+: b'.conditions ∧ b.joins <+: b'.joins ∧
      b'.selection = b.selection.or ((b.accepted cs).findSome? (·.columns?)) ∧
      b'.order = b.order.or ((b.accepted cs).findSome? (·.order? b.table)) ∧
      b'.limit = b.limit.or ((b.accepted cs).findSome? (·.limit?)) ∧
      b'.offset = b.offset.or ((b.accepted cs).findSome? (·.offset?)) ∧
      ∀ g ∈ ClauseGroup.settings, 2 ≤ (ClauseCall.ofGroup g (b.returned cs)).length →
        ∀ later, ∃ b'', ((o.run ms).run later).builders[i]? = some b'' ∧ b''.isValid = false := by
  intro cs
  obtain ⟨b', found, gives⟩ := run_gives present ms
  obtain ⟨conditions, joins⟩ := b.attemptAll_lengthens cs
  have sets := b.attemptAll_sets cs
  have twice {g : ClauseGroup} (setting : g ∈ ClauseGroup.settings)
      (two : 2 ≤ (ClauseCall.ofGroup g (b.returned cs)).length) : b'.isValid = false := by
    obtain ⟨flag, rfl⟩ := gives
    exact Builder.attemptAll_twice setting b two
  refine ⟨b', found, gives, ?_⟩
  obtain ⟨flag, rfl⟩ := gives
  refine ⟨conditions, joins, sets.selection, sets.order, sets.limit, sets.offset, ?_⟩
  intro g setting two later
  obtain ⟨b'', found', after⟩ := run_gives found later
  exact ⟨b'', found', after.isValid (twice setting two)⟩

/-- A limit is accepted while a page is counted. The limit of the page itself is the second one: it
is refused, and the first one stays. -/
theorem run_set_once_page_over_limit :
    let orders : Builder := { table := .text "orders" }
    let first : Overlap := { builders := [orders] }
    let ms : List Move :=
      [.call ⟨0, none⟩ (.terminal (.getPaginated (.int 10) (.int 1))),
        .call ⟨0, none⟩ (.clause (.limit (.int 5))), .reply 0 (.ok (.list [.list [.int 3]]))]
    first.builders[0]? = some orders ∧
      first.clausesOn 0 ms = [.limit (.int 5), .limit (.int 10), .offset (.int 0)] ∧
      ∃ b', (first.run ms).builders[0]? = some b' ∧ b'.limit = some 5 ∧ b'.isValid = false := by
  intro orders first ms
  have present : first.builders[0]? = some orders := rfl
  obtain ⟨b', found, -, -, -, -, -, limit, -, twice⟩ := run_set_once present ms
  have two : 2 ≤ (ClauseCall.ofGroup .limit (orders.returned (first.clausesOn 0 ms))).length := by
    decide
  obtain ⟨b'', found', invalid⟩ := twice .limit (by decide) two []
  cases found.symm.trans found'
  exact ⟨present, rfl, b', found, limit, invalid⟩

end Overlap

end TableQuery

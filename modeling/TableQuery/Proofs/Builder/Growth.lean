import TableQuery.Proofs.Builder.Plain
import TableQuery.Proofs.Builder.Terminal

/-!
# What calls make of a builder

An accepted clause call lets one part of a builder grow, or sets a part that is not set, and a
rejected one records a misuse at most. A builder becomes another by such calls and by handing over
its statement, and in no other way: `becomes_start` and `becomes_counted` say so for terminal calls.
What is kept by each of the three steps of `Becomes` is kept by every call.
-/

namespace TableQuery.Builder

/-! ### One clause call -/

/-- What an accepted clause call does. -/
inductive Grows (b : Builder) : Builder → Prop where
  | condition (c : Clause) : Grows b (b.addCondition c)
  | join (text : String) : Grows b { b with joins := b.joins ++ [text] }
  | selection {columns : List Value} (unset : b.selection = none) (named : columns ≠ []) :
      Grows b { b with selection := some columns }
  | order {column : Value} {direction : Direction} (unset : b.order = none) :
      Grows b { b with order := some (column, direction) }
  | limit {n : Nat} (unset : b.limit = none) : Grows b { b with limit := some n }
  | offset {n : Nat} (unset : b.offset = none) : Grows b { b with offset := some n }

theorem ofRead_accepted {α : Type} {x : Except Fault α} {accept : α → Builder} {b : Builder}
    (accepted : Verdict.ofRead x accept = .accepted b) : ∃ a, x = .ok a ∧ b = accept a := by
  cases x with
  | error f => cases accepted
  | ok a =>
    cases accepted
    exact ⟨a, rfl, rfl⟩

variable {b b' : Builder}

theorem judgeMatching_grows {field operator value : Value}
    (accepted : b.judgeMatching field operator value = .accepted b') : b.Grows b' := by
  unfold judgeMatching at accepted
  split at accepted
  · cases accepted
  · split at accepted
    · exact (Verdict.reject_ne_accepted accepted).elim
    · split at accepted
      · cases accepted
      · split at accepted
        · exact (Verdict.reject_ne_accepted accepted).elim
        · obtain ⟨c, -, rfl⟩ := ofRead_accepted accepted
          exact .condition c

theorem judgeRaw_grows {sql values : Value} (accepted : b.judgeRaw sql values = .accepted b') :
    b.Grows b' := by
  unfold judgeRaw at accepted
  split at accepted
  · cases accepted
  · obtain ⟨vs, -, rfl⟩ := ofRead_accepted accepted
    exact .condition _

theorem judgeAmong_grows {field values : Value}
    (accepted : b.judgeAmong field values = .accepted b') : b.Grows b' := by
  unfold judgeAmong at accepted
  split at accepted
  · cases accepted
  · obtain ⟨p, -, rfl⟩ := ofRead_accepted accepted
    exact .condition _

theorem judgeJoin_grows {side : JoinSide} {table localField remoteField operator : Value}
    (accepted : b.judgeJoin side table localField remoteField operator = .accepted b') :
    b.Grows b' := by
  unfold judgeJoin at accepted
  split at accepted
  · cases accepted
  · obtain ⟨text, -, rfl⟩ := ofRead_accepted accepted
    exact .join text

theorem judgeOnly_accepted {fields : Value} (accepted : b.judgeOnly fields = .accepted b') :
    b.selection = none ∧ ∃ columns, selected? fields = .ok columns ∧ columns ≠ [] ∧
      b' = { b with selection := some columns } := by
  unfold judgeOnly at accepted
  split at accepted
  · cases accepted
  · rename_i unset
    split at accepted
    · cases accepted
    · cases accepted
    · rename_i columns named read
      cases accepted
      exact ⟨by simpa using unset, columns, read, named, rfl⟩

theorem judgeOrderBy_accepted {field direction : Value}
    (accepted : b.judgeOrderBy field direction = .accepted b') :
    b.order = none ∧ ∃ column d, qualify b.table field = .ok column ∧
      Direction.ofWord? direction.display = some d ∧ b' = { b with order := some (column, d) } := by
  unfold judgeOrderBy at accepted
  split at accepted
  · cases accepted
  · rename_i word written
    obtain rfl := (Value.write_eq_ok.mp written).2
    split at accepted
    · exact (Verdict.reject_ne_accepted accepted).elim
    · rename_i d directed
      split at accepted
      · cases accepted
      · rename_i unset
        split at accepted
        · cases accepted
        · obtain ⟨column, qualified, left⟩ := ofRead_accepted accepted
          exact ⟨by simpa using unset, column, d, qualified, directed, left⟩

theorem judgeLimit_accepted {quantity : Value} (accepted : b.judgeLimit quantity = .accepted b') :
    b.limit = none ∧ ∃ n, quantity.count? = some n ∧ b' = { b with limit := some n } := by
  unfold judgeLimit at accepted
  split at accepted
  · exact (Verdict.reject_ne_accepted accepted).elim
  · rename_i n counted
    split at accepted
    · cases accepted
    · rename_i unset
      cases accepted
      exact ⟨by simpa using unset, n, counted, rfl⟩

theorem judgeOffset_accepted {quantity : Value} (accepted : b.judgeOffset quantity = .accepted b') :
    b.offset = none ∧ ∃ n, quantity.count? = some n ∧ b' = { b with offset := some n } := by
  unfold judgeOffset at accepted
  split at accepted
  · exact (Verdict.reject_ne_accepted accepted).elim
  · rename_i n counted
    split at accepted
    · cases accepted
    · rename_i unset
      cases accepted
      exact ⟨by simpa using unset, n, counted, rfl⟩

theorem judge_grows {c : ClauseCall} (accepted : b.judge c = .accepted b') : b.Grows b' := by
  cases c with
  | matching field operator value => exact judgeMatching_grows accepted
  | raw sql values => exact judgeRaw_grows accepted
  | among field values => exact judgeAmong_grows accepted
  | like field value => exact judgeMatching_grows accepted
  | join side table localField remoteField operator => exact judgeJoin_grows accepted
  | only fields =>
    obtain ⟨unset, columns, -, named, rfl⟩ := judgeOnly_accepted accepted
    exact .selection unset named
  | orderBy field direction =>
    obtain ⟨unset, column, d, -, -, rfl⟩ := judgeOrderBy_accepted accepted
    exact .order unset
  | limit quantity =>
    obtain ⟨unset, n, -, rfl⟩ := judgeLimit_accepted accepted
    exact .limit unset
  | offset quantity =>
    obtain ⟨unset, n, -, rfl⟩ := judgeOffset_accepted accepted
    exact .offset unset

/-- A clause call that returns lets the builder grow, or records its misuse. -/
theorem call_eq_ok {c : ClauseCall} {es : List Event} (called : b.call c = .ok (b', es)) :
    b.Grows b' ∨ ∃ m, b' = { b with misuse := some (b.misuse.getD m) } := by
  unfold call at called
  split at called
  · rename_i judged
    cases called
    exact .inl (judge_grows judged)
  · rename_i m _
    refine .inr ⟨m, ?_⟩
    rw [← record_eq, Except.ok.inj called]
  · cases called

theorem Grows.table (grows : b.Grows b') : b'.table = b.table := by cases grows <;> rfl

theorem Grows.misuse (grows : b.Grows b') : b'.misuse = b.misuse := by cases grows <;> rfl

theorem Grows.executed (grows : b.Grows b') : b'.executed = b.executed := by cases grows <;> rfl

theorem call_misuse {c : ClauseCall} {es : List Event} {m : Misuse} (recorded : b.misuse = some m)
    (called : b.call c = .ok (b', es)) : b'.misuse = some m := by
  rcases call_eq_ok called with grows | ⟨m', rfl⟩
  · exact grows.misuse.trans recorded
  · simp only [recorded, Option.getD_some]

theorem call_executed {c : ClauseCall} {es : List Event} (called : b.call c = .ok (b', es)) :
    b'.executed = b.executed := by
  rcases call_eq_ok called with grows | ⟨m, rfl⟩
  · exact grows.executed
  · rfl

theorem callAll_executed {cs : List ClauseCall} {es : List Event}
    (called : b.callAll cs = .ok (b', es)) : b'.executed = b.executed := by
  induction cs generalizing b es with
  | nil =>
    cases called
    rfl
  | cons c cs ih =>
    obtain ⟨⟨b₁, es₁⟩, first, called⟩ := bind_eq_ok.mp called
    obtain ⟨⟨b₂, es₂⟩, rest, same⟩ := bind_eq_ok.mp called
    cases same
    exact (ih rest).trans (call_executed first)

/-! ### Calls in turn -/

/-- What calls can make of a builder. -/
inductive Becomes (b : Builder) : Builder → Prop where
  | same : Becomes b b
  | called {b' b'' : Builder} {c : ClauseCall} {es : List Event} (before : Becomes b b')
      (call : b'.call c = .ok (b'', es)) : Becomes b b''
  | handed {b' : Builder} (before : Becomes b b') : Becomes b { b' with executed := true }

theorem Becomes.trans {b'' : Builder} (first : b.Becomes b') (later : b'.Becomes b'') :
    b.Becomes b'' := by
  induction later with
  | same => exact first
  | called _ call ih => exact ih.called call
  | handed _ ih => exact ih.handed

/-- The first misuse stays. -/
theorem Becomes.misuse {m : Misuse} (becomes : b.Becomes b') (recorded : b.misuse = some m) :
    b'.misuse = some m := by
  induction becomes with
  | same => exact recorded
  | called _ call ih => exact call_misuse ih call
  | handed _ ih => exact ih

/-- No call changes the table. -/
theorem Becomes.table (becomes : b.Becomes b') : b'.table = b.table := by
  induction becomes with
  | same => rfl
  | called _ call ih =>
    rcases call_eq_ok call with grows | ⟨m, rfl⟩
    · exact grows.table.trans ih
    · exact ih
  | handed _ ih => exact ih

theorem becomes_callAll {cs : List ClauseCall} {es : List Event}
    (called : b.callAll cs = .ok (b', es)) : b.Becomes b' := by
  induction cs generalizing b es with
  | nil =>
    cases called
    exact .same
  | cons c cs ih =>
    obtain ⟨⟨b₁, es₁⟩, first, called⟩ := bind_eq_ok.mp called
    obtain ⟨⟨b₂, es₂⟩, rest, same⟩ := bind_eq_ok.mp called
    cases same
    exact (Becomes.same.called first).trans (ih rest)

theorem becomes_hand (b : Builder) (s : Except Fault Statement) (reading : Reading) :
    b.Becomes (b.hand s reading).1 := by
  unfold hand
  split
  · exact .same
  · split
    · exact .same
    · exact Becomes.same.handed

theorem becomes_handWith (b : Builder) (clauses : List ClauseCall)
    (compile : Builder → Except Fault Statement) (reading : Reading) :
    b.Becomes (b.handWith clauses compile reading).1 := by
  unfold handWith
  split
  · exact .same
  · rename_i b' es called
    exact (becomes_callAll called).trans (b'.becomes_hand _ reading)

theorem startPage_builder (b : Builder) (size number : Value) :
    (b.startPage size number).1 = b := by
  unfold startPage
  split
  · rfl
  · split <;> rfl

theorem becomes_start (b : Builder) (t : Terminal) : b.Becomes (b.start t).1 := by
  cases single : t.single? with
  | some reading =>
    rw [b.start_single single]
    exact b.becomes_handWith t.clauses t.compile reading
  | none =>
    obtain ⟨size, number, rfl⟩ := Terminal.single?_eq_none.mp single
    rw [show (b.start (.getPaginated size number)).1 = b from b.startPage_builder size number]
    exact .same

theorem becomes_counted (b : Builder) (size number : Nat) (reply : Except Fault Value) :
    b.Becomes (b.counted size number reply).1 := by
  unfold counted
  split
  · exact .same
  · exact b.becomes_handWith _ _ _

end TableQuery.Builder

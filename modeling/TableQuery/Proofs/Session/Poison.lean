import TableQuery.Proofs.Builder.Shape
import TableQuery.Proofs.Session.Overlap

/-!
# Misuses that stay

The first misuse of a builder is kept for good, and by every builder that is got from it by scoping.
Whatever is called on such a builder, and however the calls overlap, its compilations and terminal
calls end with that misuse and nothing is sent from it. The main statement is `run_poisoned`.
-/

namespace TableQuery

/-! ### The clauses of terminal calls -/

namespace Builder

theorem call_of_judge {b : Builder} {c : ClauseCall} (returns : ∀ f, b.judge c ≠ .fault f) :
    ∃ r, b.call c = .ok r := by
  unfold call
  cases judged : b.judge c with
  | accepted b' => exact ⟨_, rfl⟩
  | rejected m => exact ⟨_, rfl⟩
  | fault f => exact (returns f judged).elim

theorem call_limit (b : Builder) {quantity : Value} {n : Nat} (counted : quantity.count? = some n) :
    ∃ r, b.call (.limit quantity) = .ok r := by
  refine call_of_judge fun f faulted => ?_
  rcases judge_eq_fault.mp faulted with ⟨-, misshapen⟩ | ⟨-, uncounted, -⟩
  · exact misshapen
  · rw [counted] at uncounted
    cases uncounted

theorem unwritable_id (b : Builder) (id : Value) :
    (ClauseCall.matching (.text "id") (.text "=") id).Unwritable b ↔ b.table.isWritable = false := by
  have word : Text.strip (Value.text "=").display ≠ "" := by decide
  have column : Value.LongColumn b.table (.text "id") ↔ b.table.isWritable = false := by
    simp [Value.LongColumn, Value.LongBare, Value.hasPoint?, Value.isWritable_text]
  rw [← column, ClauseCall.Unwritable, if_neg (by decide), if_pos ⟨by decide, word⟩]
  exact and_iff_right rfl

/-- A row is looked for by its column, which is written behind the table. -/
theorem call_id (b : Builder) (id : Value) :
    if b.table.isWritable then ∃ r, b.call (.matching (.text "id") (.text "=") id) = .ok r
    else b.call (.matching (.text "id") (.text "=") id) = .error (.number .unwritable) := by
  split
  · rename_i writable
    refine call_of_judge fun f faulted => ?_
    rcases judge_eq_fault.mp faulted with ⟨-, -, -, -, -, unsearchable⟩ | ⟨-, long⟩
    · cases unsearchable
    · rw [(b.unwritable_id id).mp long] at writable
      cases writable
  · rename_i long
    have unwritable := (b.unwritable_id id).mpr (Bool.eq_false_iff.mpr long)
    have judged := judge_eq_fault.mpr (.inr ⟨rfl, unwritable⟩)
    simp only [call, judged]

end Builder

/-- The clauses of a terminal call can be written: a row is looked for in a table that can be. -/
def Terminal.fits (table : Value) : Terminal → Bool
  | .find _ => table.isWritable
  | _ => true

/-- What a terminal call ends with on a builder whose misuse is recorded: on every table that can be
written, the misuse. -/
def Terminal.refusal (table : Value) (m : Misuse) (t : Terminal) : Fault :=
  if t.fits table then .misuse m else .number .unwritable

theorem Terminal.callAll_clauses (b : Builder) (t : Terminal) :
    if t.fits b.table then ∃ r, b.callAll t.clauses = .ok r
    else b.callAll t.clauses = .error (.number .unwritable) := by
  have one (b : Builder) : ∃ r, b.callAll [.limit (.int 1)] = .ok r := by
    obtain ⟨r, called⟩ := b.call_limit (rfl : (Value.int 1).count? = some 1)
    exact ⟨_, bind_eq_ok.mpr ⟨r, called, rfl⟩⟩
  cases t with
  | getFirst => exact one b
  | find id =>
    have first := b.call_id id
    unfold fits
    split at first
    · obtain ⟨r, called⟩ := first
      obtain ⟨r', called'⟩ := one r.1
      rw [if_pos ‹_›]
      exact ⟨_, bind_eq_ok.mpr ⟨r, called, bind_eq_ok.mpr ⟨r', called', rfl⟩⟩⟩
    · rw [if_neg ‹_›]
      exact bind_eq_error.mpr (.inl first)
  | _ => exact ⟨_, rfl⟩

namespace Builder

/-! ### One part of a call -/

variable {b : Builder} {m : Misuse}

/-- The misuse is met by the compilation after the clauses. -/
theorem handWith_misuse (recorded : b.misuse = some m) (clauses : List ClauseCall)
    {compile : Builder → Except Fault Statement}
    (refuses : ∀ b' : Builder, b'.misuse = some m → compile b' = .error (.misuse m))
    (reading : Reading) :
    (b.handWith clauses compile reading).2.2 =
      .done (.error (match b.callAll clauses with
        | .ok _ => .misuse m
        | .error f => f)) := by
  unfold handWith
  cases called : b.callAll clauses with
  | error f => rfl
  | ok r =>
    dsimp only
    rw [refuses r.1 ((becomes_callAll called).misuse recorded)]
    rfl

theorem start_misuse (recorded : b.misuse = some m) (t : Terminal) :
    (b.start t).2.2 = .leg (.done (.error (t.refusal b.table m))) := by
  cases single : t.single? with
  | some reading =>
    rw [b.start_single single]
    have refused :=
      handWith_misuse recorded t.clauses (fun b' kept => t.compile_misuse kept) reading
    refine congrArg Opening.leg (refused.trans ?_)
    have clauses := t.callAll_clauses b
    unfold Terminal.refusal
    split at clauses
    · obtain ⟨r, called⟩ := clauses
      rw [called, if_pos ‹_›]
    · rw [clauses, if_neg ‹_›]
  | none =>
    obtain ⟨size, number, rfl⟩ := Terminal.single?_eq_none.mp single
    have bounds : b.pageBounds size number = .error (.misuse m) := by
      unfold pageBounds
      rw [recorded]
    show (b.startPage size number).2.2 = _
    unfold startPage
    rw [bounds]
    rfl

/-- A count that comes after the misuse was recorded leads to no page. -/
theorem counted_misuse (recorded : b.misuse = some m) (size number : Nat)
    (reply : Except Fault Value) :
    ∃ f, (b.counted size number reply).2.2 = .done (.error f) := by
  unfold counted
  split
  · exact ⟨_, rfl⟩
  · exact ⟨_, handWith_misuse recorded _ (fun b' kept => compileSelect_misuse kept .none) _⟩

end Builder

/-- The answer of a builder on a table whose misuse is recorded. -/
def Call.RefusedWith (table : Value) (m : Misuse) (h : Handle) : Call → Response → Prop
  | .clause _, r => r = .object h (some m) ∨ ∃ f, r = .fault f
  | .buildSelect _, r => r = .fault (.misuse m)
  | .buildInsert .., r => r = .fault (.misuse m)
  | .buildUpdate _, r => r = .fault (.misuse m)
  | .buildDelete, r => r = .fault (.misuse m)
  | .terminal t, r => r = h.respond (.error (t.refusal table m))
  | .scope, r => ∃ made : Handle, made.wrapper = none ∧ r = .object made (some m)
  | .table, r => ∃ v, r = .tableName v
  | .isValid, r => r = .validity false
  | .error, r => r = .misuse (some m)

namespace Builder

variable {b : Builder} {m : Misuse}

theorem becomes_callPart (b : Builder) (h : Handle) (next : Nat) (c : Call) :
    b.Becomes (b.callPart h next c).builder := by
  cases c with
  | clause c =>
    cases called : b.call c with
    | error f =>
      simp only [callPart, called]
      exact .same
    | ok r =>
      simp only [callPart, called]
      exact Becomes.same.called called
  | terminal t =>
    have becomes := b.becomes_start t
    show b.Becomes (b.startPart h t).builder
    unfold startPart
    generalize b.start t = r at becomes
    obtain ⟨b', es, l | _⟩ := r
    · cases l <;> exact becomes
    · exact becomes
  | _ => exact .same

theorem becomes_replyPart {h : Handle} {reply : Except Fault Value} {stage : Stage} {p : Part}
    (part : b.replyPart h reply stage = some p) : b.Becomes p.builder := by
  cases stage with
  | counting size number =>
    cases part
    have becomes := b.becomes_counted size number reply
    cases (b.counted size number reply).2.2 <;> exact becomes
  | reading reading =>
    cases part
    exact .same
  | ended response => cases part

theorem callPart_misuse (recorded : b.misuse = some m) (h : Handle) (next : Nat) (c : Call) :
    (b.callPart h next c).sent = none ∧
      ∃ r, (b.callPart h next c).stage = .ended r ∧ c.RefusedWith b.table m h r := by
  cases c with
  | clause c =>
    cases called : b.call c with
    | error f =>
      simp only [callPart, called]
      exact ⟨trivial, _, rfl, .inr ⟨f, rfl⟩⟩
    | ok r =>
      obtain ⟨b', es⟩ := r
      simp only [callPart, called]
      exact ⟨trivial, _, rfl, .inl (congrArg (Response.object h) (call_misuse recorded called))⟩
  | buildSelect fields =>
    exact ⟨rfl, _, rfl, congrArg Response.ofCompiled (compileSelect_misuse recorded fields)⟩
  | buildInsert data upsert =>
    exact ⟨rfl, _, rfl, congrArg Response.ofCompiled (compileInsert_misuse recorded data upsert)⟩
  | buildUpdate data =>
    exact ⟨rfl, _, rfl, congrArg Response.ofCompiled (compileUpdate_misuse recorded data)⟩
  | buildDelete =>
    exact ⟨rfl, _, rfl, congrArg Response.ofCompiled (compileDelete_misuse recorded)⟩
  | terminal t =>
    have opening := start_misuse recorded t
    show (b.startPart h t).sent = none ∧ ∃ r, (b.startPart h t).stage = .ended r ∧ _
    unfold startPart
    generalize b.start t = r at opening
    obtain ⟨b', es, opened⟩ := r
    cases opening
    exact ⟨rfl, _, rfl, rfl⟩
  | scope =>
    exact ⟨rfl, _, rfl, { builder := next }, rfl, congrArg (Response.object { builder := next }) recorded⟩
  | table => exact ⟨rfl, _, rfl, _, rfl⟩
  | isValid =>
    refine ⟨rfl, _, rfl, congrArg Response.validity ?_⟩
    unfold isValid
    rw [recorded]
    rfl
  | error => exact ⟨rfl, _, rfl, congrArg Response.misuse recorded⟩

theorem replyPart_misuse (recorded : b.misuse = some m) {h : Handle} {reply : Except Fault Value}
    {stage : Stage} {p : Part} (part : b.replyPart h reply stage = some p) : p.sent = none := by
  cases stage with
  | counting size number =>
    cases part
    obtain ⟨f, done⟩ := counted_misuse recorded size number reply
    rw [done]
    rfl
  | reading reading =>
    cases part
    rfl
  | ended response => cases part

end Builder

namespace Overlap

/-! ### Runs -/

/-- A family of builders and those that a move gets from it by scoping. -/
def descend (o : Overlap) (family : List Nat) : Move → List Nat
  | .call h .scope => if h.builder ∈ family then family ++ [o.builders.length] else family
  | _ => family

/-- A family of builders and all that a run gets from it by scoping. -/
def clones (o : Overlap) (family : List Nat) : List Move → List Nat
  | [] => family
  | m :: ms => (o.step m).clones (o.descend family m) ms

variable {o : Overlap} {table : Value} {m : Misuse}

/-- A builder that is there stays there, and becomes what the calls of a move make of it. -/
theorem step_becomes {i : Nat} {b : Builder} (present : o.builders[i]? = some b) (mv : Move) :
    ∃ b', (o.step mv).builders[i]? = some b' ∧ b.Becomes b' := by
  have replaced {j : Nat} {c p : Builder} (found : o.builders[j]? = some c) (becomes : c.Becomes p)
      (made : List Builder) :
      ∃ b', (o.builders.set j p ++ made)[i]? = some b' ∧ b.Becomes b' := by
    refine ⟨_, builder_set present j p made, ?_⟩
    by_cases own : j = i
    · subst own
      cases present.symm.trans found
      rw [if_pos rfl]
      exact becomes
    · rw [if_neg own]
      exact .same
  have moves := o.step_moves mv
  generalize o.step mv = o' at moves
  cases moves with
  | enter found => exact replaced found (Builder.becomes_callPart _ _ _ _) _
  | goOn begun found part =>
    obtain ⟨b', left, becomes⟩ := replaced found (Builder.becomes_replyPart part) []
    rw [List.append_nil] at left
    exact ⟨b', left, becomes⟩
  | stay => exact ⟨b, present, .same⟩

/-- A builder on the table that is there and has the misuse. -/
def Poisoned (o : Overlap) (table : Value) (m : Misuse) (j : Nat) : Prop :=
  ∃ b, o.builders[j]? = some b ∧ b.table = table ∧ b.misuse = some m

theorem step_poisoned (o : Overlap) (mv : Move) {j : Nat} (poisoned : o.Poisoned table m j) :
    (o.step mv).Poisoned table m j := by
  obtain ⟨b, present, named, recorded⟩ := poisoned
  obtain ⟨b', found, becomes⟩ := step_becomes present mv
  exact ⟨b', found, becomes.table.trans named, becomes.misuse recorded⟩

/-- A builder that is got by scoping has the misuse as well. -/
theorem step_descend (mv : Move) {family : List Nat} (poisoned : ∀ j ∈ family, o.Poisoned table m j) :
    ∀ j ∈ o.descend family mv, (o.step mv).Poisoned table m j := by
  intro j member
  have kept : j ∈ family → (o.step mv).Poisoned table m j := fun old =>
    o.step_poisoned mv (poisoned j old)
  unfold descend at member
  split at member
  · rename_i h
    split at member
    · rename_i parent
      rcases List.mem_append.mp member with old | new
      · exact kept old
      · cases List.mem_singleton.mp new
        obtain ⟨b, present, named, recorded⟩ := poisoned _ parent
        rw [step_call present]
        refine ⟨b.scope, ?_, named, recorded⟩
        show (o.builders.set h.builder b ++ [b.scope])[o.builders.length]? = _
        rw [← List.length_set (i := h.builder) (a := b), List.getElem?_concat_length]
    · exact kept member
  · exact kept member

theorem run_clones (ms : List Move) {family : List Nat}
    (poisoned : ∀ j ∈ family, o.Poisoned table m j) :
    ∀ j ∈ o.clones family ms, (o.run ms).Poisoned table m j := by
  induction ms generalizing o family with
  | nil => exact poisoned
  | cons mv ms ih => exact ih (step_descend mv poisoned)

/-- What is sent from now on comes from other builders. -/
structure Quiet (o : Overlap) (table : Value) (m : Misuse) (j : Nat) (o' : Overlap) : Prop where
  poisoned : o'.Poisoned table m j
  sent : ∃ rest, o'.sent = o.sent ++ rest ∧ ∀ d ∈ rest, d.builder ≠ j

theorem dispatches_builder {p : Part} {n i : Nat} {d : Dispatch} (sent : d ∈ p.dispatches n i) :
    d.builder = i ∧ p.sent ≠ none := by
  obtain ⟨s, out, rfl⟩ := List.mem_map.mp sent
  refine ⟨rfl, fun silent => ?_⟩
  rw [silent] at out
  cases out

theorem step_quiet {j : Nat} (o' : Overlap) (mv : Move) (quiet : o.Quiet table m j o') :
    o.Quiet table m j (o'.step mv) := by
  refine ⟨o'.step_poisoned mv quiet.poisoned, ?_⟩
  obtain ⟨⟨b, found, -, recorded⟩, rest, sent, others⟩ := quiet
  -- A part of a call on the builder itself sends nothing.
  have next {p : Part} {n i : Nat} (silent : i = j → p.sent = none) :
      ∃ rest, o'.sent ++ p.dispatches n i = o.sent ++ rest ∧ ∀ d ∈ rest, d.builder ≠ j := by
    refine ⟨rest ++ p.dispatches n i, by rw [sent, List.append_assoc], fun d member => ?_⟩
    rcases List.mem_append.mp member with old | new
    · exact others d old
    · obtain ⟨from_i, sends⟩ := dispatches_builder new
      rw [from_i]
      exact fun own => sends (silent own)
  have moves := o'.step_moves mv
  generalize o'.step mv = o'' at moves
  cases moves with
  | enter present =>
    refine next fun own => ?_
    subst own
    rw [found] at present
    cases present
    exact (Builder.callPart_misuse recorded _ _ _).1
  | goOn begun present part =>
    refine next fun own => ?_
    subst own
    rw [found] at present
    cases present
    exact Builder.replyPart_misuse recorded part
  | stay => exact ⟨rest, sent, others⟩

/-- Whatever is done after a misuse was recorded, the builder and all builders got from it by
scoping keep that misuse and are not valid. Every call on one of them ends at once; compilations and
terminal calls end with the misuse, whatever else could be said against them. The one exception is a
row looked for in a table that cannot be written, which ends with the fault of the table. No statement
is sent from any of the builders again. -/
theorem run_poisoned {i : Nat} {b : Builder} (present : o.builders[i]? = some b)
    (recorded : b.misuse = some m) (ms : List Move) :
    let o' := o.run ms
    ∀ j ∈ o.clones [i] ms,
      (∃ b', o'.builders[j]? = some b' ∧ b'.misuse = some m ∧ b'.isValid = false) ∧
      (∀ h c, h.builder = j → ∃ r, c.RefusedWith b.table m h r ∧
        (o'.step (.call h c)).calls = o'.calls ++ [⟨h, .ended r⟩] ∧
        (o'.step (.call h c)).sent = o'.sent) ∧
      ∀ later, ∃ rest, (o'.run later).sent = o'.sent ++ rest ∧ ∀ d ∈ rest, d.builder ≠ j := by
  intro o' j clone
  have poisoned : o'.Poisoned b.table m j := by
    refine run_clones ms (fun k member => ?_) j clone
    cases List.mem_singleton.mp member
    exact ⟨b, present, rfl, recorded⟩
  have quiet : o'.Quiet b.table m j o' :=
    ⟨poisoned, [], (List.append_nil _).symm, fun d member => (List.not_mem_nil member).elim⟩
  obtain ⟨b', found, named, kept⟩ := poisoned
  refine ⟨⟨b', found, kept, ?_⟩, fun h c own => ?_, fun later => ?_⟩
  · unfold Builder.isValid
    rw [kept]
    rfl
  · subst own
    obtain ⟨silent, r, ended, refused⟩ := Builder.callPart_misuse kept h o'.builders.length c
    refine ⟨r, named ▸ refused, ?_, ?_⟩
    · rw [step_call found, enter, ended]
    · rw [step_call found]
      show o'.sent ++ _ = o'.sent
      rw [Part.dispatches, silent]
      exact List.append_nil _
  · exact (run_keeps step_quiet quiet later).sent

/-- A limit that is no number is recorded and kept, also by a clone of the builder's clone. That one
accepts a limit, and is refused in turn although its own clauses are in order. -/
theorem run_poisoned_clone :
    let limit : Misuse := .badLimit (.text "ten")
    let fresh : Overlap := { builders := [{ table := .text "orders" }] }
    let o := fresh.run
      [.call ⟨0, none⟩ (.clause (.matching (.text "state") (.text "=") (.text "open"))),
        .call ⟨0, none⟩ (.clause (.limit (.text "ten")))]
    let ms : List Move :=
      [.call ⟨0, none⟩ .scope, .call ⟨1, some 0⟩ .scope,
        .call ⟨2, none⟩ (.clause (.limit (.int 5)))]
    o.calls = [⟨⟨0, none⟩, .ended (.object ⟨0, none⟩ none)⟩,
        ⟨⟨0, none⟩, .ended (.object ⟨0, none⟩ (some limit))⟩] ∧
      2 ∈ o.clones [0] ms ∧
      (∃ b, (o.run ms).builders[2]? = some b ∧ b.limit = some 5 ∧ b.misuse = some limit) ∧
      ((o.run ms).step (.call ⟨2, some 1⟩ (.terminal (.create (.map []) .none)))).calls =
        (o.run ms).calls ++ [⟨⟨2, some 1⟩, .ended (.reported [⟨some (.misuse limit), none⟩])⟩] := by
  intro limit fresh o ms
  obtain ⟨b, present, recorded⟩ : ∃ b, o.builders[0]? = some b ∧ b.misuse = some limit :=
    ⟨_, rfl, rfl⟩
  have clone : 2 ∈ o.clones [0] ms := by decide
  obtain ⟨⟨b', found, kept, -⟩, refuses, -⟩ := run_poisoned present recorded ms 2 clone
  obtain ⟨r, rfl, ended, -⟩ := refuses ⟨2, some 1⟩ (.terminal (.create (.map []) .none)) rfl
  have limited : ((o.run ms).builders[2]?).bind (·.limit) = some 5 := rfl
  rw [found] at limited
  exact ⟨rfl, clone, ⟨b', found, limited, kept⟩, ended⟩

end Overlap

end TableQuery

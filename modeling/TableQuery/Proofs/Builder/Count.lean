import TableQuery.Proofs.Builder.PageRequest
import TableQuery.Proofs.Builder.Tail

/-!
# Counting calls

The count of a builder's rows ends like its selection, with the order and the bounds that the builder
holds; the count of its scope, which a paginated call sends, ends with the conditions. The main
statement is `run_getCount`: the two send the same if and only if there is neither order nor bound.
-/

namespace TableQuery

theorem Statement.ending_eq_self {s : Statement} {tail : String} : s.ending tail = s ↔ tail = "" := by
  constructor
  · intro same
    have letters : (s.sql ++ tail).toList = s.sql.toList :=
      congrArg (fun t : Statement => t.sql.toList) same
    simpa using letters
  · rintro rfl
    exact s.ending_empty

namespace Builder

variable {b : Builder}

/-- What stands behind the conditions of a builder's selection. -/
def Tail (b : Builder) (text : String) : Prop :=
  ∃ order limit offset, text = order ++ limit ++ offset ∧ OrderTail b.order order ∧
    BoundTail "LIMIT" b.limit limit ∧ BoundTail "OFFSET" b.offset offset

theorem orderTail_eq_empty {order : Option (Value × Direction)} {text : String}
    (tail : OrderTail order text) : text = "" ↔ order = none := by
  cases order with
  | none => exact ⟨fun _ => rfl, fun _ => tail⟩
  | some o =>
    have filled : text ≠ "" := by
      rw [tail]
      simp only [String.append_assoc]
      exact append_ne_empty (by decide) _
    exact ⟨fun empty => (filled empty).elim, nofun⟩

theorem boundTail_eq_empty {keyword text : String} {bound : Option Nat}
    (tail : BoundTail keyword bound text) : text = "" ↔ bound = none := by
  cases bound with
  | none => exact ⟨fun _ => rfl, fun _ => tail⟩
  | some n =>
    obtain ⟨digits, -, rfl⟩ := tail
    have filled : " " ++ keyword ++ " " ++ digits ≠ "" := by
      simp only [String.append_assoc]
      exact append_ne_empty (by decide) _
    exact ⟨fun empty => (filled empty).elim, nofun⟩

theorem Tail.eq_empty {text : String} (tail : b.Tail text) :
    text = "" ↔ b.order = none ∧ b.limit = none ∧ b.offset = none := by
  obtain ⟨order, limit, offset, rfl, ordered, limited, shifted⟩ := tail
  rw [String.append_eq_empty_iff, String.append_eq_empty_iff, orderTail_eq_empty ordered,
    boundTail_eq_empty limited, boundTail_eq_empty shifted, and_assoc]

/-! ### The statement -/

theorem fits_of_unbounded (unlimited : b.limit = none) (unshifted : b.offset = none) :
    b.BoundsFit := by
  intro n bound
  rw [unlimited, unshifted] at bound
  exact bound.elim nofun nofun

theorem compileCount_tail (valid : b.misuse = none) (scope : b.ScopeFits) (order : b.OrderFits)
    (bounds : b.BoundsFit) :
    ∃ tail, b.Tail tail ∧ b.compileCount = .ok (b.countStatement.ending tail) := by
  obtain ⟨limit, offset, limited, shifted⟩ := bounds.written
  exact ⟨_, ⟨_, _, _, rfl, b.orderTail_orderText, boundTail_boundText (by decide) limited,
    boundTail_boundText (by decide) shifted⟩,
    compileCount_eq_ok.mpr ⟨valid, scope, order, limit, offset, limited, shifted, rfl⟩⟩

/-! ### The call -/

section Channels

variable {σ : Type} (send : Channel σ) (world : σ)

theorem run_getCount_sends {s : Statement} (fresh : b.executed = false)
    (compiled : b.compileCount = .ok s) :
    let r := b.run send world .getCount
    let d := send world s.sql s.values
    r.sent = [s] ∧ r.channel = d.state ∧ r.answer = Reading.count.finish d.reply := by
  have opening : b.start .getCount = ({ b with executed := true },
      [.executing s.kind b.table s.values.length], .leg (.send s .count)) := by
    simp [start, handWith, Terminal.clauses, callAll, compiled, hand, fresh]
  simp only [run, opening, finishLeg, and_self]

theorem run_getCount_faults {f : Fault} (failed : b.compileCount = .error f) :
    b.run send world .getCount = .refused b world f := by
  have opening : b.start .getCount = (b, [], .leg (.done (.error f))) := by
    simp [start, handWith, Terminal.clauses, callAll, failed, hand]
  unfold run
  rw [opening]
  rfl

/-- An answer of a statement that was handed over is read from a reply. -/
theorem hand_answer {s : Except Fault Statement} {reading : Reading} {a : Answer}
    (answered : (finishLeg send world (b.hand s reading).1 (b.hand s reading).2.2).answer = .ok a) :
    ∃ reply, reading.answer reply = .ok a := by
  unfold hand at answered
  split at answered
  · cases answered
  · split at answered
    · cases answered
    · obtain ⟨reply, -, read⟩ := bind_eq_ok.mp answered
      exact ⟨reply, read⟩

/-- The total of a page is the count of the scope. -/
theorem getPaginated_total {size number : Value} {page : Page}
    (answered : (b.run send world (.getPaginated size number)).answer = .ok (.page page)) :
    (b.scope.run send world .getCount).answer = .ok (.value page.total) := by
  cases bounds : b.pageBounds size number with
  | error m =>
    rw [run_refused send world bounds] at answered
    cases answered
  | ok asked =>
    obtain ⟨n, k⟩ := asked
    obtain ⟨valid, unlimited, unshifted, fresh, numbered⟩ := pageBounds_inv bounds
    by_cases fits : b.ScopeFits
    case neg =>
      rw [run_uncounted send world valid fits bounds] at answered
      cases answered
    obtain ⟨-, -, answer, -⟩ := run_counting send world valid fits bounds
    obtain ⟨-, -, inScope⟩ :=
      run_getCount_sends send world (b := b.scope) rfl (compileCount_scope valid fits)
    rw [answer] at answered
    rw [inScope]
    generalize send world b.countStatement.sql b.countStatement.values = d at answered
    cases counts : d.reply.bind countIn with
    | error f =>
      simp only [counted, counts] at answered
      cases answered
    | ok total =>
      rw [counted_eq unlimited unshifted numbered counts] at answered
      obtain ⟨reply, read⟩ := hand_answer send d.state answered
      obtain ⟨items, -, ⟨⟩⟩ := bind_eq_ok.mp read
      obtain ⟨v, replied, counted⟩ := bind_eq_ok.mp counts
      rw [replied, Reading.finish, ok_bind, Reading.answer, counted]
      rfl

/-- The count of a builder's rows is that of its scope with the order and the bounds behind it, if all
of it can be written. So the two send the same if and only if there is neither order nor bound, and
then come to the same. The total of a page is always the count of the scope. -/
theorem run_getCount {b : Builder} (valid : b.misuse = none) (fresh : b.executed = false) :
    let inScope := b.scope.run send world .getCount
    let counted := b.run send world .getCount
    (b.ScopeFits → inScope.sent = [b.countStatement]) ∧
      (¬ b.ScopeFits → inScope = .refused b.scope world (.number .unwritable)) ∧
      (b.ScopeFits → b.OrderFits → b.BoundsFit →
        ∃ tail, b.Tail tail ∧ counted.sent = [b.countStatement.ending tail]) ∧
      (¬ (b.ScopeFits ∧ b.OrderFits ∧ b.BoundsFit) →
        counted = .refused b world (.number .unwritable)) ∧
      (b.ScopeFits →
        (counted.sent = inScope.sent ↔ b.order = none ∧ b.limit = none ∧ b.offset = none)) ∧
      (counted.sent = inScope.sent →
        counted.channel = inScope.channel ∧ counted.answer = inScope.answer) ∧
      ∀ size number page, (b.run send world (.getPaginated size number)).answer = .ok (.page page) →
        inScope.answer = .ok (.value page.total) := by
  intro inScope counted
  have paged := @getPaginated_total b σ send world
  have uncounted (unfit : ¬ (b.ScopeFits ∧ b.OrderFits ∧ b.BoundsFit)) :
      counted = .refused b world (.number .unwritable) :=
    run_getCount_faults send world (compileCount_unwritable valid unfit)
  by_cases scope : b.ScopeFits
  case neg =>
    have unscoped : inScope = .refused b.scope world (.number .unwritable) :=
      run_getCount_faults send world (compileCount_scope_unwritable valid scope)
    have unfit := uncounted fun fits => scope fits.1
    refine ⟨fun fits => (scope fits).elim, fun _ => unscoped, fun fits => (scope fits).elim, uncounted,
      fun fits => (scope fits).elim, fun _ => ?_, @paged⟩
    rw [unscoped, unfit]
    exact ⟨rfl, rfl⟩
  obtain ⟨sent, channel, answer⟩ :=
    run_getCount_sends send world (b := b.scope) rfl (compileCount_scope valid scope)
  by_cases fits : b.OrderFits ∧ b.BoundsFit
  · obtain ⟨order, bounds⟩ := fits
    obtain ⟨tail, ends, compiled⟩ := compileCount_tail valid scope order bounds
    obtain ⟨sent', channel', answer'⟩ := run_getCount_sends send world fresh compiled
    have same : counted.sent = inScope.sent ↔ tail = "" := by
      rw [sent, sent', List.singleton_inj, Statement.ending_eq_self]
    refine ⟨fun _ => sent, fun unfit => (unfit scope).elim, fun _ _ _ => ⟨tail, ends, sent'⟩,
      uncounted, fun _ => same.trans ends.eq_empty, fun agree => ?_, @paged⟩
    have empty := same.mp agree
    subst empty
    rw [Statement.ending_empty] at channel' answer'
    exact ⟨channel'.trans channel.symm, answer'.trans answer.symm⟩
  · have bounded : ¬ (b.order = none ∧ b.limit = none ∧ b.offset = none) := by
      rintro ⟨unordered, unlimited, unshifted⟩
      refine fits ⟨fun column direction ordered => ?_, fits_of_unbounded unlimited unshifted⟩
      rw [unordered] at ordered
      cases ordered
    have unfit := uncounted fun both => fits both.2
    have differ : counted.sent ≠ inScope.sent := by
      rw [sent, unfit]
      exact nofun
    exact ⟨fun _ => sent, fun out => (out scope).elim, fun _ order bounds => (fits ⟨order, bounds⟩).elim,
      uncounted, fun _ => ⟨fun same => (differ same).elim, fun unset => (bounded unset).elim⟩,
      fun same => (differ same).elim, @paged⟩

end Channels

theorem run_getCount_unbounded :
    let b : Builder := { table := .text "t", conditions := [⟨.text "t.id > ?", [.int 7]⟩] }
    let script : Script := [.ok (.list [.map [(.text "count", .int 3)]])]
    let r := b.run Script.channel script .getCount
    r.sent = [⟨"SELECT COUNT(*) AS count FROM t WHERE 1 AND t.id > ?", [.int 7], .select⟩] ∧
      r.answer = .ok (.value (.int 3)) := by
  intro b script r
  obtain ⟨sent, -, -, -, same, agree, -⟩ := run_getCount Script.channel script (b := b) rfl rfl
  have fits : b.ScopeFits := ⟨rfl, by simp [b, Value.isWritable]⟩
  have alike := (same fits).mpr ⟨rfl, rfl, rfl⟩
  have counting : b.countStatement.sql = "SELECT COUNT(*) AS count FROM t WHERE 1 AND t.id > ?" := by
    decide +kernel
  refine ⟨?_, (agree alike).2⟩
  rw [← counting]
  exact alike.trans (sent fits)

/-- Bounds that a builder was given stay in the count of its rows, and are not in that of its
scope. -/
theorem run_getCount_second_ten :
    let b : Builder := ({ table := .text "t" } : Builder).withBounds 10 10
    let script : Script := [.ok (.list [.map [(.text "count", .int 3)]])]
    ({ table := .text "t" } : Builder).callAll [.limit (.int (10 : Nat)), .offset (.int (10 : Nat))] =
        .ok (b, []) ∧
      b.misuse = none ∧ b.executed = false ∧
      (b.run Script.channel script .getCount).sent.map (·.sql) =
        ["SELECT COUNT(*) AS count FROM t WHERE 1 LIMIT 10 OFFSET 10"] ∧
      (b.scope.run Script.channel script .getCount).sent.map (·.sql) =
        ["SELECT COUNT(*) AS count FROM t WHERE 1"] := by
  refine ⟨callAll_bounds rfl rfl 10 10, rfl, rfl, ?_, ?_⟩
  · decide +kernel
  · decide +kernel

end Builder

end TableQuery

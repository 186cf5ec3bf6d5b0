import Mathlib.Logic.ExistsUnique
import TableQuery.Proofs.Builder.Setting
import TableQuery.Proofs.Builder.Shape
import TableQuery.Proofs.Session.Run

/-!
# What clause calls come to

A clause call in a session is accepted and changes the clauses of its own group, or it is rejected
and records a misuse at most, or it faults and changes nothing. `take_clause_settles` shows that it is
one of the three and never two of them at once, and `take_clause_returns` which calls fault.
-/

namespace TableQuery

inductive ClauseOutcome where
  | accepted
  | rejected
  | faulted

namespace Builder

/-- What a clause call on an object comes to: the outcome, what it returns and the builder after it.
Unless it faults the object is returned. -/
inductive Settles (b : Builder) (h : Handle) (c : ClauseCall) :
    ClauseOutcome → Response → Builder → Prop where
  | accepted {b' : Builder} (grows : b.Grows b') (alone : ∀ g, b'.part g = b.part g ↔ g ≠ c.group) :
      Settles b h c .accepted (.object h b.misuse) b'
  | rejected (m : Misuse) :
      Settles b h c .rejected (.object h (some (b.misuse.getD m)))
        { b with misuse := some (b.misuse.getD m) }
  | faulted (f : Fault) : Settles b h c .faulted (.fault f) b

variable {b b' : Builder} {c : ClauseCall}

/-! ### One outcome -/

theorem part_misuse (b : Builder) (misuse : Option Misuse) (g : ClauseGroup) :
    ({ b with misuse } : Builder).part g = b.part g := by
  cases g <;> rfl

theorem Grows.part_ne (grows : b.Grows b') : ∃ g, b'.part g ≠ b.part g := by
  cases grows with
  | condition c =>
    refine ⟨.condition, fun same => ?_⟩
    have longer : b.conditions ++ [c] = b.conditions := congrArg Builder.conditions same
    simp at longer
  | join text =>
    refine ⟨.join, fun same => ?_⟩
    have longer : b.joins ++ [text] = b.joins := congrArg Builder.joins same
    simp at longer
  | selection unset named =>
    refine ⟨.only, fun same => ?_⟩
    have set : some _ = b.selection := congrArg Builder.selection same
    rw [unset] at set
    cases set
  | order unset =>
    refine ⟨.orderBy, fun same => ?_⟩
    have set : some _ = b.order := congrArg Builder.order same
    rw [unset] at set
    cases set
  | limit unset =>
    refine ⟨.limit, fun same => ?_⟩
    have set : some _ = b.limit := congrArg Builder.limit same
    rw [unset] at set
    cases set
  | offset unset =>
    refine ⟨.offset, fun same => ?_⟩
    have set : some _ = b.offset := congrArg Builder.offset same
    rw [unset] at set
    cases set

/-- An accepted call changes the clauses of its group, and those of no other. -/
theorem judge_part (accepted : b.judge c = .accepted b') (g : ClauseGroup) :
    b'.part g = b.part g ↔ g ≠ c.group := by
  have others : ∀ g, g ≠ c.group → b'.part g = b.part g := by
    intro g other
    obtain ⟨p, rfl⟩ := judge_accepted accepted
    exact part_rejoin_other other p
  refine ⟨?_, others g⟩
  rintro same rfl
  obtain ⟨g, changed⟩ := (judge_grows accepted).part_ne
  by_cases own : g = c.group
  · subst own
    exact changed same
  · exact changed (others g own)

theorem Settles.unique {h : Handle} {o o' : ClauseOutcome} {r : Response}
    (first : b.Settles h c o r b') (other : b.Settles h c o' r b') : o' = o := by
  -- An accepted call shows in the part of its group, a fault in what is returned.
  have apart (m : Misuse)
      (alone : ∀ g, ({ b with misuse := some (b.misuse.getD m) } : Builder).part g = b.part g ↔
        g ≠ c.group) : False :=
    (alone c.group).mp (b.part_misuse _ c.group) rfl
  cases first with
  | accepted grows alone =>
    generalize returned : Response.object h b.misuse = r at other
    cases other with
    | accepted => rfl
    | rejected m => exact (apart m alone).elim
    | faulted f => cases returned
  | rejected m =>
    generalize returned : Response.object h (some (b.misuse.getD m)) = r at other
    generalize left : ({ b with misuse := some (b.misuse.getD m) } : Builder) = b' at other
    cases other with
    | accepted grows alone =>
      subst left
      exact (apart m alone).elim
    | rejected m' => rfl
    | faulted f => cases returned
  | faulted f =>
    cases other with
    | faulted f => rfl

end Builder

namespace Session

variable {σ : Type} (send : Channel σ) (world : σ) {s : Session} {h : Handle} {b : Builder}

theorem update_same (present : s.builder? h = some b) : s.update h b = s := by
  obtain ⟨inside, rfl⟩ := List.getElem?_eq_some_iff.mp present
  unfold update
  rw [List.set_getElem_self]

theorem take_clause (present : s.builder? h = some b) (c : ClauseCall) (name : String) :
    s.take send world ⟨h, .clause c, name⟩ =
      match b.call c with
      | .ok (b', es) =>
        { response := .object h b'.misuse, session := s.update h b', channel := world, events := es }
      | .error f => { response := .fault f, session := s, channel := world } :=
  (take_present send world present).trans (perform_clause send world s h b name c)

/-- A clause call on a builder that is there leaves the channel alone and all other builders. It is
accepted, and then exactly the clauses of its group change: a condition or a join is added, or what
was not set is set. Or it is rejected, and then nothing changes but the misuse, if none was recorded
before. Or it faults and nothing changes at all. No two of these are the case at once, and the flag
stays as it is. -/
theorem take_clause_settles (present : s.builder? h = some b) (c : ClauseCall) (name : String) :
    let p := s.take send world ⟨h, .clause c, name⟩
    ∃ b', p.session = s.update h b' ∧ p.session.builder? h = some b' ∧ p.channel = world ∧
      p.sent = [] ∧ b'.executed = b.executed ∧ ∃! o, b.Settles h c o p.response b' := by
  intro p
  have inside : h.builder < s.builders.length := (List.getElem?_eq_some_iff.mp present).1
  have updated (b' : Builder) : (s.update h b').builder? h = some b' := List.getElem?_set_self inside
  have unique {o : ClauseOutcome} {r : Response} {b' : Builder} (settles : b.Settles h c o r b') :
      ∃! o, b.Settles h c o r b' := ⟨o, settles, fun _ other => settles.unique other⟩
  have taken := take_clause send world present c name
  cases judged : b.judge c with
  | accepted b' =>
    have grows := Builder.judge_grows judged
    simp only [p, taken, Builder.call, judged]
    refine ⟨b', rfl, updated b', trivial, trivial, grows.executed, ?_⟩
    rw [grows.misuse]
    exact unique (.accepted grows (Builder.judge_part judged))
  | rejected m =>
    simp only [p, taken, Builder.call, judged]
    refine ⟨_, rfl, updated _, trivial, trivial, ?_, ?_⟩
    · rw [Builder.record_eq]
    · rw [Builder.record_eq]
      exact unique (.rejected m)
  | fault f =>
    simp only [p, taken, Builder.call, judged]
    exact ⟨b, (update_same present).symm, present, trivial, trivial, rfl, unique (.faulted f)⟩

/-- One limit is accepted and a second one is rejected. Values that are no collection make the next
call fault, on the builder that is not valid. -/
theorem take_clause_settles_second_limit :
    let orders : Builder := { table := .text "orders" }
    let ask (s : Session) (c : ClauseCall) := s.take Script.channel [] ⟨⟨0, none⟩, .clause c, ""⟩
    let first := ask (ofBuilder orders) (.limit (.int 3))
    let second := ask first.session (.limit (.int 5))
    let third := ask second.session (.among (.text "id") (.int 5))
    ∃ b b', first.session.builder? ⟨0, none⟩ = some b ∧ second.session.builder? ⟨0, none⟩ = some b' ∧
      third.session.builder? ⟨0, none⟩ = some b' ∧
      b.limit = some 3 ∧ b.misuse = none ∧ b'.limit = some 3 ∧ b'.misuse = some .limitSet ∧
      (∀ o, orders.Settles ⟨0, none⟩ (.limit (.int 3)) o first.response b → o = .accepted) ∧
      (∀ o, b.Settles ⟨0, none⟩ (.limit (.int 5)) o second.response b' → o = .rejected) ∧
      ∀ o, b'.Settles ⟨0, none⟩ (.among (.text "id") (.int 5)) o third.response b' → o = .faulted := by
  intro orders ask first second third
  let limited : Builder := { orders with limit := some 3 }
  let refused : Builder := { limited with misuse := some .limitSet }
  obtain ⟨b, -, left, -, -, -, o, -, alone⟩ :=
    take_clause_settles Script.channel [] (rfl : (ofBuilder orders).builder? ⟨0, none⟩ = some orders)
      (.limit (.int 3)) ""
  obtain ⟨b', -, left', -, -, -, o', -, alone'⟩ :=
    take_clause_settles Script.channel [] (rfl : first.session.builder? ⟨0, none⟩ = some limited)
      (.limit (.int 5)) ""
  obtain ⟨b'', -, left'', -, -, -, o'', -, alone''⟩ :=
    take_clause_settles Script.channel [] (rfl : second.session.builder? ⟨0, none⟩ = some refused)
      (.among (.text "id") (.int 5)) ""
  obtain rfl : limited = b := Option.some.inj left
  obtain rfl : refused = b' := Option.some.inj left'
  obtain rfl : refused = b'' := Option.some.inj left''
  have accepts : orders.judge (.limit (.int 3)) = .accepted limited := rfl
  have accepted : o = .accepted :=
    (alone _ (.accepted (Builder.judge_grows accepts) (Builder.judge_part accepts))).symm
  have rejected : o' = .rejected := (alone' _ (.rejected .limitSet)).symm
  have faulted : o'' = .faulted := (alone'' _ (.faulted (.shape .wrongType))).symm
  exact ⟨limited, refused, left, left', left'', rfl, rfl, rfl, rfl,
    fun other settles => (alone other settles).trans accepted,
    fun other settles => (alone' other settles).trans rejected,
    fun other settles => (alone'' other settles).trans faulted⟩

/-- A clause call faults if and only if it comes to an argument that it cannot read, or to a text that
it cannot write, and then the session is as it was: no misuse is recorded. Every other call returns
the object on which it was made, and the builder has accepted it or has the misuse recorded. Arguments
of the types that are asked for can all be read; on a table that is a text, they can be written unless
a bound is asked for that is negative and has too many digits. -/
theorem take_clause_returns (present : s.builder? h = some b) (c : ClauseCall) (name : String) :
    let p := s.take send world ⟨h, .clause c, name⟩
    (∀ f, p.response = .fault f ↔
      f = .shape .wrongType ∧ c.Misshapen b ∨ f = .number .unwritable ∧ c.Unwritable b) ∧
      (c.Misshapen b ∨ c.Unwritable b → p.session = s) ∧
      (¬ c.Misshapen b → ¬ c.Unwritable b →
        ∃ b', p.session = s.update h b' ∧ p.response = .object h b'.misuse ∧
          (b.Grows b' ∨ ∃ m, b' = { b with misuse := some (b.misuse.getD m) })) ∧
      (c.Typed → ¬ c.Misshapen b) ∧
      (c.Typed → b.table.IsText → (c.Unwritable b ↔ c.LongBound)) := by
  intro p
  have taken := take_clause send world present c name
  have faults (f : Fault) : b.judge c = .fault f ↔
      f = .shape .wrongType ∧ c.Misshapen b ∨ f = .number .unwritable ∧ c.Unwritable b :=
    Builder.judge_eq_fault
  refine ⟨?_, ?_, ?_, fun typed => typed.not_misshapen b, fun typed => typed.unwritable_iff⟩
  · intro f
    rw [← faults]
    cases judged : b.judge c <;> simp [p, taken, Builder.call, judged]
  · intro either
    obtain ⟨f, judged⟩ : ∃ f, b.judge c = .fault f :=
      either.elim (fun misshapen => ⟨_, (faults _).mpr (.inl ⟨rfl, misshapen⟩)⟩)
        (fun long => ⟨_, (faults _).mpr (.inr ⟨rfl, long⟩)⟩)
    simp only [p, taken, Builder.call, judged]
  · intro shapely short
    cases judged : b.judge c with
    | accepted b' =>
      simp only [p, taken, Builder.call, judged]
      exact ⟨b', rfl, rfl, .inl (Builder.judge_grows judged)⟩
    | rejected m =>
      simp only [p, taken, Builder.call, judged]
      exact ⟨_, rfl, rfl, .inr ⟨m, by rw [Builder.record_eq]⟩⟩
    | fault f =>
      rcases (faults f).mp judged with ⟨-, misshapen⟩ | ⟨-, long⟩
      · exact (shapely misshapen).elim
      · exact (short long).elim

/-- What is refused for another reason is not read, whatever its type. A limit that is negative and
has too many digits is neither accepted nor recorded as a misuse. -/
theorem take_clause_returns_second_selection :
    let orders : Builder := { table := .text "orders", selection := some [.text "id"] }
    let s := ofBuilder orders
    let long : ClauseCall := .limit (.int (-(10 ^ Text.digitLimit : Nat)))
    let p := s.take Script.channel [] ⟨⟨0, none⟩, .clause (.only .none), ""⟩
    let q := s.take Script.channel [] ⟨⟨0, none⟩, .clause long, ""⟩
    s.builder? ⟨0, none⟩ = some orders ∧ ¬ (ClauseCall.only .none).Typed ∧
      (∃ b', p.session = s.update ⟨0, none⟩ b' ∧ p.response = .object ⟨0, none⟩ b'.misuse ∧
        b'.misuse = some .selectionSet) ∧
      long.Typed ∧ q.response = .fault (.number .unwritable) ∧ q.session = s := by
  intro orders s long p q
  have present : s.builder? ⟨0, none⟩ = some orders := rfl
  obtain ⟨-, -, returns, -⟩ := take_clause_returns Script.channel [] present (.only .none) ""
  have shapely : ¬ (ClauseCall.only .none).Misshapen orders := by
    rintro ⟨unset, -⟩
    cases unset
  obtain ⟨b', left, response, -⟩ := returns shapely id
  have recorded : p.response = .object ⟨0, none⟩ (some .selectionSet) := rfl
  have typed : long.Typed := ⟨_, rfl⟩
  obtain ⟨faults, stays, -, -, unwritable⟩ := take_clause_returns Script.channel [] present long ""
  have unwritten := (unwritable typed ⟨_, rfl⟩).mpr ⟨10 ^ Text.digitLimit, Nat.le_refl _, .inl rfl⟩
  refine ⟨present, fun typed => typed.1, ⟨b', left, response, ?_⟩, typed,
    (faults _).mpr (.inr ⟨rfl, unwritten⟩), stays (.inr unwritten)⟩
  exact (Response.object.inj (response.symm.trans recorded)).2

/-- A number in place of a collection of values is not recorded as a misuse. -/
theorem take_clause_returns_number :
    let orders : Builder := { table := .text "orders" }
    let s := ofBuilder orders
    let p := s.take Script.channel [] ⟨⟨0, none⟩, .clause (.among (.text "id") (.int 5)), ""⟩
    s.builder? ⟨0, none⟩ = some orders ∧ p.response = .fault (.shape .wrongType) ∧
      p.session.builder? ⟨0, none⟩ = some orders ∧ orders.misuse = none :=
  ⟨rfl, rfl, rfl, rfl⟩

end Session

end TableQuery

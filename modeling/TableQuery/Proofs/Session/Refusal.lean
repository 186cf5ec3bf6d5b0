import TableQuery.Proofs.Builder.Gate
import TableQuery.Proofs.Session.Clauses

/-!
# What a refused call leaves

Calls that get the first row, find a row or get a page make clause calls of their own, and what
these add stays when the statement is refused. Only a paginated call is checked before it makes them.
The main statement is `run_leaves`; it says which calls leave a builder as it was.
-/

namespace TableQuery.Builder

variable {b : Builder} {t : Terminal}

/-! ### The clauses of terminal calls -/

/-- A limit that is set stays, and the second one is a misuse. -/
def limited (b : Builder) (n : Nat) : Builder :=
  { b with
    limit := some (b.limit.getD n), misuse := b.misuse.or (b.limit.map fun _ => .limitSet) }

def shifted (b : Builder) (n : Nat) : Builder :=
  { b with
    offset := some (b.offset.getD n), misuse := b.misuse.or (b.offset.map fun _ => .offsetSet) }

/-- A builder that is narrowed to the rows with an identifier. -/
def identified (b : Builder) (id : Value) : Builder :=
  b.addCondition (comparison (.text (b.table.display ++ "." ++ "id")) "=" id)

/-- A builder with the clauses that a call adds before it compiles. -/
def withClauses (b : Builder) : Terminal → Builder
  | .getFirst => b.limited 1
  | .find id => (b.identified id).limited 1
  | _ => b

theorem attempt_limit (b : Builder) (n : Nat) : b.attempt (.limit (.int n)) = b.limited n := by
  have count : (Value.int (n : Int)).count? = some n := rfl
  rw [attempt_eq]
  simp only [judge, judgeLimit, count, limited]
  cases set : b.limit with
  | none => simp
  | some m => simp [record_eq, set]

theorem attempt_offset (b : Builder) (n : Nat) : b.attempt (.offset (.int n)) = b.shifted n := by
  have count : (Value.int (n : Int)).count? = some n := rfl
  rw [attempt_eq]
  simp only [judge, judgeOffset, count, shifted]
  cases set : b.offset with
  | none => simp
  | some m => simp [record_eq, set]

theorem attempt_id (writable : b.table.isWritable = true) (id : Value) :
    b.attempt (.matching (.text "id") (.text "=") id) = b.identified id := by
  have qualified : qualify b.table (.text "id") = .ok (.text (b.table.display ++ "." ++ "id")) :=
    qualify_eq_ok.mpr (.inr ⟨rfl, writable, rfl, rfl⟩)
  have judged : b.judge (.matching (.text "id") (.text "=") id) =
      .ofRead (qualify b.table (.text "id") >>= fun column =>
        (comparison column "=" id).written [column]) b.addCondition := rfl
  rw [attempt_eq, judged, qualified]
  rfl

/-- What the clauses of a call make of a builder if none of them faults. -/
theorem attemptAll_clauses (fits : t.fits b.table = true) :
    b.attemptAll t.clauses = b.withClauses t := by
  cases t with
  | getFirst => exact b.attempt_limit 1
  | find id =>
    show (b.attempt _).attempt _ = _
    rw [attempt_id fits]
    exact (b.identified id).attempt_limit 1
  | _ => rfl

theorem fits_of_callAll {r : Builder × List Event} (called : b.callAll t.clauses = .ok r) :
    t.fits b.table = true := by
  have clauses := t.callAll_clauses b
  split at clauses
  · assumption
  · rw [called] at clauses
    cases clauses

/-- No clause call faults with an error of the builder's class. -/
theorem blameless_callAll (b : Builder) (cs : List ClauseCall) : Blameless (b.callAll cs) := by
  induction cs generalizing b with
  | nil => exact blameless_ok _
  | cons c cs ih =>
    refine blameless_bind (fun f failed => ?_) fun r => blameless_bind (ih r.1) fun _ => blameless_ok _
    unfold call at failed
    split at failed
    · cases failed
    · cases failed
    · rename_i judged
      cases failed
      rcases judge_eq_fault.mp judged with ⟨rfl, -⟩ | ⟨rfl, -⟩ <;> rfl

theorem identified_conditions_ne (b : Builder) (id : Value) :
    (b.identified id).conditions ≠ b.conditions := by
  intro same
  have longer : b.conditions ++ [_] = b.conditions := same
  simp at longer

/-- The clauses of a call leave a builder as it was, but for the misuse. -/
theorem withClauses_same_iff :
    { b.withClauses t with misuse := b.misuse } = b ↔
      t.clauses = [] ∨ t = .getFirst ∧ b.limit.isSome = true := by
  cases t with
  | getFirst =>
    have limits : Terminal.getFirst.clauses ≠ [] := nofun
    cases set : b.limit with
    | none =>
      have changed : ({ b.withClauses .getFirst with misuse := b.misuse } : Builder) ≠ b := by
        intro same
        have limit : some (b.limit.getD 1) = b.limit := congrArg Builder.limit same
        rw [set] at limit
        cases limit
      simp [changed, limits]
    | some n =>
      have same : ({ b.withClauses .getFirst with misuse := b.misuse } : Builder) = b := by
        obtain ⟨_, _, _, _, _, _, _, _, _⟩ := b
        cases set
        rfl
      simp [same]
  | find id =>
    have finds : (Terminal.find id).clauses ≠ [] := nofun
    have changed : ({ b.withClauses (.find id) with misuse := b.misuse } : Builder) ≠ b := by
      intro same
      have conditions := congrArg Builder.conditions same
      exact b.identified_conditions_ne id conditions
    simp [changed, finds]
  | _ => exact ⟨fun _ => .inl rfl, fun _ => rfl⟩

theorem scope_withClauses_iff :
    { (b.withClauses t).scope with misuse := b.misuse } = b.scope ↔ ∀ id, t ≠ .find id := by
  cases t with
  | find id =>
    have changed :
        ({ (b.withClauses (.find id)).scope with misuse := b.misuse } : Builder) ≠ b.scope := by
      intro same
      have conditions := congrArg Builder.conditions same
      exact b.identified_conditions_ne id conditions
    simp [changed]
  | _ => exact ⟨fun _ => nofun, fun _ => rfl⟩

/-! ### A statement that is not sent -/

theorem hand_done {s : Except Fault Statement} {reading : Reading} {answer : Except Fault Answer}
    (done : (b.hand s reading).2.2 = .done answer) : (b.hand s reading).1 = b := by
  unfold hand at done ⊢
  split
  · rfl
  · split
    · rfl
    · rename_i fresh
      simp only [fresh] at done
      cases done

theorem handWith_done {clauses : List ClauseCall} {compile : Builder → Except Fault Statement}
    {reading : Reading} {f : Fault}
    (done : (b.handWith clauses compile reading).2.2 = .done (.error f))
    (blamed : f.isBuilderError = true) :
    ∃ r, b.callAll clauses = .ok r ∧ (b.handWith clauses compile reading).1 = b.attemptAll clauses := by
  unfold handWith at done ⊢
  cases called : b.callAll clauses with
  | error g =>
    rw [called] at done
    cases done
    rw [b.blameless_callAll clauses f called] at blamed
    cases blamed
  | ok r =>
    rw [called] at done
    refine ⟨r, rfl, ?_⟩
    rw [← callAll_eq_ok called]
    exact hand_done done

theorem counted_done {size number : Nat} {reply : Except Fault Value} {f : Fault}
    (numbered : 1 ≤ number) (done : (b.counted size number reply).2.2 = .done (.error f))
    (blamed : f.isBuilderError = true) (own : reply ≠ .error f) :
    (b.counted size number reply).1 = (b.limited size).shifted (size * (number - 1)) := by
  unfold counted at done ⊢
  cases counts : reply.bind countIn with
  | error g =>
    rw [counts] at done
    cases done
    cases reply with
    | error g =>
      cases counts
      exact (own rfl).elim
    | ok v =>
      have other := blameless_countIn v f counts
      rw [blamed] at other
      cases other
  | ok total =>
    rw [counts, offset_eq numbered] at done
    dsimp only at done ⊢
    obtain ⟨-, -, left⟩ := handWith_done done blamed
    rw [offset_eq numbered, left]
    show (b.attempt _).attempt _ = _
    rw [attempt_limit, attempt_offset]

theorem compileSelect_limited (valid : b.misuse = none) (unlimited : b.limit = none)
    (unshifted : b.offset = none) (scope : b.ScopeFits) (order : b.OrderFits)
    (named : ∃ names, (b.selection.getD [.text "*"]).mapM Value.text? = .ok names) :
    ∃ s, (b.limited 1).compileSelect .none = .ok s := by
  obtain ⟨names, named⟩ := named
  have short : 1 < 10 ^ Text.digitLimit := by decide +kernel
  have limit : boundText "LIMIT" (b.limited 1).limit = .ok ("LIMIT " ++ Text.decimal 1) := by
    rw [limited, unlimited]
    exact boundText_some "LIMIT" short
  have offset : boundText "OFFSET" (b.limited 1).offset = .ok "" := by
    rw [limited, unshifted]
    rfl
  have unmisused : (b.limited 1).misuse = none := by
    rw [limited, valid, unlimited]
    rfl
  exact ⟨_, compileSelect_eq_ok.mpr ⟨unmisused, ⟨scope.table, scope.conditions⟩, order, _, _, _, names,
    limit, offset, rfl, named, rfl⟩⟩

/-! ### Calls -/

section Channels

variable {σ : Type} (send : Channel σ) (world : σ) {f : Fault}

/-- A finished call that a misuse ended before anything was sent. -/
structure Refused (b : Builder) (world : σ) (t : Terminal) (r : Finished σ) : Prop where
  sent : r.sent = []
  channel : r.channel = world
  builder : r.builder = b.withClauses t

theorem run_single_refused {reading : Reading} (single : t.single? = some reading)
    (failed : (b.run send world t).answer = .error f) (blamed : f.isBuilderError = true)
    (own : .error f ∉ Channel.replies send world (b.run send world t).sent) :
    b.Refused world t (b.run send world t) := by
  have done := @handWith_done b t.clauses t.compile reading f
  rw [run_single send world b single] at failed own ⊢
  generalize b.handWith t.clauses t.compile reading = handed at done failed own ⊢
  obtain ⟨b', es, l⟩ := handed
  rcases finishLeg_blames send world failed blamed with rfl | reply
  · obtain ⟨made, called, left⟩ := done rfl blamed
    exact ⟨rfl, rfl, left.trans (attemptAll_clauses (fits_of_callAll called))⟩
  · exact (own reply).elim

theorem run_paginated_refused {size number : Value}
    (failed : (b.run send world (.getPaginated size number)).answer = .error f)
    (blamed : f.isBuilderError = true)
    (own : .error f ∉
      Channel.replies send world (b.run send world (.getPaginated size number)).sent) :
    b.Refused world (.getPaginated size number) (b.run send world (.getPaginated size number)) := by
  cases bounds : b.pageBounds size number with
  | error m =>
    rw [run_refused send world bounds]
    exact ⟨rfl, rfl, rfl⟩
  | ok asked =>
    -- Once the count is sent no misuse is left.
    obtain ⟨n, k⟩ := asked
    by_cases fits : b.ScopeFits
    case neg =>
      rw [run_uncounted send world (pageBounds_inv bounds).1 fits bounds]
      exact ⟨rfl, rfl, rfl⟩
    obtain ⟨sent, -⟩ := run_counting send world (pageBounds_inv bounds).1 fits bounds
    have silent := (run_paginated_gated send world b size number).blamed f failed blamed own
    rw [sent] at silent
    cases silent

theorem run_executed {reading : Reading} {s : Statement} (used : b.executed = true)
    (fits : t.fits b.table = true) (single : t.single? = some reading)
    (compiled : t.compile (b.withClauses t) = .ok s) :
    (b.run send world t).answer = .error (.misuse .executed) ∧
      b.Refused world t (b.run send world t) := by
  have clauses := t.callAll_clauses b
  rw [if_pos fits] at clauses
  obtain ⟨⟨b', es⟩, called⟩ := clauses
  have left : b' = b.withClauses t := (callAll_eq_ok called).trans (attemptAll_clauses fits)
  have executed : b'.executed = true := (callAll_executed called).trans used
  have opening : b.start t = (b', es ++ [], .leg (.done (.error (.misuse .executed)))) := by
    rw [b.start_single single, handWith, called]
    dsimp only
    rw [left, compiled, hand, ← left, executed]
    rfl
  unfold run
  rw [opening]
  exact ⟨rfl, rfl, rfl, left⟩

/-- If a call ends with an error of the builder's class that the channel did not raise, nothing was
sent, and the builder has the clauses that the call itself adds before it is checked. But for the
misuse it is as it was if there are none, and if the first row was asked for where a limit is set,
and in no other case. After a call that does not find a row its scope is the same. A paginated call
that is refused after its count, because of calls made meanwhile, leaves the bounds of its page. -/
theorem run_leaves (b : Builder) (t : Terminal) :
    let r := b.run send world t
    (∀ f, r.answer = .error f → f.isBuilderError = true →
      .error f ∉ Channel.replies send world r.sent →
      r.sent = [] ∧ r.channel = world ∧ r.builder = b.withClauses t ∧
        ({ r.builder with misuse := b.misuse } = b ↔
          t.clauses = [] ∨ t = .getFirst ∧ b.limit.isSome = true) ∧
        ({ r.builder.scope with misuse := b.misuse } = b.scope ↔ ∀ id, t ≠ .find id)) ∧
      ∀ size number reply f, 1 ≤ number → (b.counted size number reply).2.2 = .done (.error f) →
        f.isBuilderError = true → reply ≠ .error f →
        (b.counted size number reply).1 = (b.limited size).shifted (size * (number - 1)) := by
  intro r
  refine ⟨fun f failed blamed own => ?_, fun size number reply f => counted_done⟩
  have refused : b.Refused world t r := by
    cases single : t.single? with
    | some reading => exact run_single_refused send world single failed blamed own
    | none =>
      obtain ⟨size, number, rfl⟩ := Terminal.single?_eq_none.mp single
      exact run_paginated_refused send world failed blamed own
  refine ⟨refused.sent, refused.channel, refused.builder, ?_, ?_⟩
  · rw [refused.builder]
    exact withClauses_same_iff
  · rw [refused.builder]
    exact scope_withClauses_iff

/-- A limit of one is left behind where the first row is asked for on a builder that was
executed. -/
theorem run_leaves_first :
    let orders : Builder := { table := .text "orders", executed := true }
    let r := orders.run Script.channel [] .getFirst
    r.answer = .error (.misuse .executed) ∧ r.builder = orders.limited 1 ∧
      { r.builder with misuse := orders.misuse } ≠ orders ∧
      { r.builder.scope with misuse := orders.misuse } = orders.scope := by
  intro orders r
  obtain ⟨s, compiled⟩ := compileSelect_limited (b := orders) rfl rfl rfl ⟨rfl, nofun⟩ nofun ⟨["*"], rfl⟩
  obtain ⟨answer, refused⟩ :=
    run_executed Script.channel [] (b := orders) (t := .getFirst) rfl rfl rfl compiled
  have silent : .error (.misuse .executed) ∉ Channel.replies Script.channel [] r.sent := by
    rw [refused.sent]
    exact nofun
  obtain ⟨-, -, left, same, scope⟩ :=
    (run_leaves Script.channel [] orders .getFirst).1 _ answer rfl silent
  refine ⟨answer, left, fun unchanged => ?_, scope.mpr nofun⟩
  rcases same.mp unchanged with unasked | ⟨-, limited⟩
  · cases unasked
  · cases limited

/-- A row that is not looked for, because the builder was executed, still narrows its scope. -/
theorem run_leaves_find :
    let orders : Builder := { table := .text "orders" }
    let first := orders.run Script.channel [.ok (.list [])] .get
    let r := first.builder.run Script.channel [] (.find (.int 7))
    first.builder.scope.compileSelect .none = .ok ⟨"SELECT * FROM orders WHERE 1", [], .select⟩ ∧
      r.answer = .error (.misuse .executed) ∧ r.sent = [] ∧
      r.builder.scope.compileSelect .none =
        .ok ⟨"SELECT * FROM orders WHERE 1 AND orders.id = ?", [.int 7], .select⟩ := by
  intro orders first r
  have scope : (first.builder.identified (.int 7)).ScopeFits :=
    ⟨rfl, List.forall_mem_singleton.mpr rfl⟩
  obtain ⟨s, compiled⟩ :=
    compileSelect_limited (b := first.builder.identified (.int 7)) rfl rfl rfl scope nofun ⟨["*"], rfl⟩
  obtain ⟨answer, refused⟩ :=
    run_executed Script.channel [] (b := first.builder) (t := .find (.int 7)) rfl rfl rfl compiled
  refine ⟨rfl, answer, refused.sent, ?_⟩
  rw [refused.builder]
  rfl

end Channels

end TableQuery.Builder

import TableQuery.Proofs.Builder.Gate
import TableQuery.Proofs.Session.Clauses

/-!
# Scopes of builders

A scope keeps the selection, the conditions and the joins of a builder, and what it keeps hangs on
the calls for these alone: `scope_replays` shows that it is what those calls make of a fresh builder,
with the misuse of all calls. Scoping and such calls may change places (`attemptAll_scope`).
-/

namespace TableQuery

/-- The groups of clauses that a scope keeps. -/
def ClauseGroup.scoping : List ClauseGroup := [.only, .condition, .join]

/-- The calls for what a scope keeps, in their order. -/
def ClauseCall.scoping (cs : List ClauseCall) : List ClauseCall :=
  cs.filter fun c => c.group ∈ ClauseGroup.scoping

theorem ClauseCall.ofGroup_scoping {g : ClauseGroup} (kept : g ∈ ClauseGroup.scoping)
    (cs : List ClauseCall) : ofGroup g (scoping cs) = ofGroup g cs := by
  unfold ofGroup scoping
  rw [List.filter_filter]
  refine List.filter_congr fun c _ => ?_
  by_cases own : c.group = g
  · simp [own, kept]
  · simp [own]

namespace Builder

variable {b : Builder} {c : ClauseCall} {g : ClauseGroup}

/-! ### Scoping and clause calls -/

theorem part_scope (kept : g ∈ ClauseGroup.scoping) (b : Builder) : b.scope.part g = b.part g := by
  cases g with
  | only => rfl
  | condition => rfl
  | join => rfl
  | _ => simp [ClauseGroup.scoping] at kept

theorem scope_rejoin (kept : g ∈ ClauseGroup.scoping) (b p : Builder) :
    (b.rejoin g p).scope = b.scope.rejoin g p := by
  cases g with
  | only => rfl
  | condition => rfl
  | join => rfl
  | _ => simp [ClauseGroup.scoping] at kept

/-- A call for what a scope keeps is judged alike on a builder and on its scope. -/
theorem attempt_scope (kept : c.group ∈ ClauseGroup.scoping) (b : Builder) :
    (b.attempt c).scope = b.scope.attempt c := by
  rw [attempt_eq, attempt_eq, b.judge_eq_rejoin, b.scope.judge_eq_rejoin, part_scope kept]
  cases (b.part c.group).judge c with
  | accepted p => exact scope_rejoin kept b p
  | rejected m =>
    show (b.record m).1.scope = (b.scope.record m).1
    rw [record_eq, record_eq]
    rfl
  | fault f => rfl

theorem attemptAll_scope {cs : List ClauseCall} (kept : ∀ c ∈ cs, c.group ∈ ClauseGroup.scoping)
    (b : Builder) : (b.attemptAll cs).scope = b.scope.attemptAll cs := by
  induction cs generalizing b with
  | nil => rfl
  | cons c cs ih =>
    show ((b.attempt c).attemptAll cs).scope = (b.scope.attempt c).attemptAll cs
    rw [ih (fun d later => kept d (List.mem_cons_of_mem c later)),
      attempt_scope (kept c List.mem_cons_self)]

/-! ### Runs -/

variable {σ : Type} (send : Channel σ) (world : σ)

/-- Getting the rows changes nothing but the flag. -/
theorem run_get_flag (b : Builder) :
    ∃ executed, (b.run send world .get).builder = { b with executed } := by
  have handed : b.Gives [] (b.handWith [] (Terminal.compile .get) .rows).1 :=
    b.gives_handWith [] _ _
  have left : (b.run send world .get).builder = (b.handWith [] (Terminal.compile .get) .rows).1 := by
    rw [run_single send world b rfl]
    exact finishLeg_builder send world _ _
  rw [left]
  exact handed

/-- A fresh builder has taken clause calls, accepted, refused or faulty ones, and may have got its
rows after them. Its scope has the selection, the conditions and the joins that the calls for these
alone give a fresh builder, and the misuse of all calls; it has no order and no bounds and was not
executed. It is its own scope. Further calls for what a scope keeps lead to the same builder before
and after scoping. -/
theorem scope_replays (table : Value) (cs : List ClauseCall) :
    let fresh : Builder := { table }
    let made := fresh.attemptAll cs
    let replayed := fresh.attemptAll (ClauseCall.scoping cs)
    ∀ b ∈ [made, (made.run send world .get).builder],
      b.scope.table = table ∧ b.scope.selection = replayed.selection ∧
      b.scope.conditions = replayed.conditions ∧ b.scope.joins = replayed.joins ∧
      b.scope.order = none ∧ b.scope.limit = none ∧ b.scope.offset = none ∧
      b.scope.executed = false ∧ b.scope.misuse = made.misuse ∧ b.scope.scope = b.scope ∧
      ∀ ds : List ClauseCall, (∀ d ∈ ds, d.group ∈ ClauseGroup.scoping) →
        (b.attemptAll ds).scope = b.scope.attemptAll ds := by
  intro fresh made replayed b reached
  have same : b.scope = made.scope := by
    rcases List.mem_cons.mp reached with rfl | got
    · rfl
    · obtain ⟨executed, flag⟩ := run_get_flag send world made
      rw [List.mem_singleton.mp got, flag]
      rfl
  have parts (g : ClauseGroup) (kept : g ∈ ClauseGroup.scoping) : made.part g = replayed.part g := by
    have self : fresh.part g = fresh.part g := rfl
    rw [attemptAll_part self, ← ClauseCall.ofGroup_scoping kept, ← attemptAll_part self]
  have selection := congrArg Builder.selection (parts .only (by decide))
  have conditions := congrArg Builder.conditions (parts .condition (by decide))
  have joins := congrArg Builder.joins (parts .join (by decide))
  have further (ds : List ClauseCall) (kept : ∀ d ∈ ds, d.group ∈ ClauseGroup.scoping) :
      (b.attemptAll ds).scope = b.scope.attemptAll ds := attemptAll_scope kept b
  rw [same] at further ⊢
  exact ⟨fresh.attemptAll_table cs, selection, conditions, joins, rfl, rfl, rfl, rfl, rfl, rfl,
    further⟩

/-- A limit that is no number is not among the calls for the scope, but its misuse is the scope's. A
list of values that cannot be read leaves nothing behind, and a second selection is refused in the
scope as it is in the builder. -/
theorem scope_replays_bad_limit :
    let ids : ClauseCall := .only (.list [.text "id"])
    let cs : List ClauseCall :=
      [.limit (.text "ten"), ids, .among (.text "id") (.int 5), .orderBy (.text "id") (.text "desc"),
        .like (.text "name") (.text "a%")]
    let made := ({ table := .text "orders" } : Builder).attemptAll cs
    let got := (made.run Script.channel [] .get).builder
    (∀ d ∈ [ids], d.group ∈ ClauseGroup.scoping) ∧ got.scope.misuse = some (.badLimit (.text "ten")) ∧
      got.scope.conditions = [⟨.text "orders.name LIKE ?", [.text "a%"]⟩] ∧
      got.scope.selection = some [.text "id"] ∧
      (got.attemptAll [ids]).scope = got.scope.attemptAll [ids] := by
  intro ids cs made got
  have kept : ∀ d ∈ [ids], d.group ∈ ClauseGroup.scoping := by
    intro d member
    cases List.mem_singleton.mp member
    decide
  obtain ⟨-, selection, conditions, -, -, -, -, -, misuse, -, further⟩ :=
    scope_replays Script.channel [] (.text "orders") cs got (List.mem_cons_of_mem _ List.mem_cons_self)
  exact ⟨kept, misuse, conditions, selection, further [ids] kept⟩

end Builder

end TableQuery

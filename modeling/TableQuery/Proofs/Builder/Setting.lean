import TableQuery.Proofs.Builder.Order

/-!
# Clauses that are set once

Conditions and joins are added behind those that are there. The selection, the order and the bounds
are set by the first call that is accepted for them and stay as they are: `attemptAll_sets` says so
of calls in turn. Of two calls for one setting that return, one at least is refused, whatever they
ask for, which is `attemptAll_twice`.
-/

namespace TableQuery

/-- The groups that are set and not added to. -/
def ClauseGroup.settings : List ClauseGroup := [.only, .orderBy, .limit, .offset]

/-! ### What a call asks for -/

namespace ClauseCall

def columns? : ClauseCall → Option (List Value)
  | .only fields => (Builder.selected? fields).toOption
  | _ => none

/-- The column and the direction that a call orders by. -/
def order? (table : Value) : ClauseCall → Option (Value × Direction)
  | .orderBy field direction =>
    (qualify table field).toOption.bind fun column =>
      (Direction.ofWord? direction.display).map (column, ·)
  | _ => none

def limit? : ClauseCall → Option Nat
  | .limit quantity => quantity.count?
  | _ => none

def offset? : ClauseCall → Option Nat
  | .offset quantity => quantity.count?
  | _ => none

end ClauseCall

namespace Builder

variable {b b' : Builder} {g : ClauseGroup}

/-! ### Accepted calls -/

theorem judge_accepted {c : ClauseCall} (accepted : b.judge c = .accepted b') :
    ∃ p, b' = b.rejoin c.group p := by
  rw [judge_eq_rejoin] at accepted
  cases judged : (b.part c.group).judge c with
  | accepted p =>
    rw [judged] at accepted
    exact ⟨p, (Verdict.accepted.inj accepted).symm⟩
  | rejected m =>
    rw [judged] at accepted
    cases accepted
  | fault f =>
    rw [judged] at accepted
    cases accepted

/-- A setting is as it was, or as the first of some calls that asks for it. -/
structure Sets (b : Builder) (cs : List ClauseCall) (b' : Builder) : Prop where
  selection : b'.selection = b.selection.or (cs.findSome? (·.columns?))
  order : b'.order = b.order.or (cs.findSome? (·.order? b.table))
  limit : b'.limit = b.limit.or (cs.findSome? (·.limit?))
  offset : b'.offset = b.offset.or (cs.findSome? (·.offset?))

theorem Sets.none (selection : b'.selection = b.selection) (order : b'.order = b.order)
    (limit : b'.limit = b.limit) (offset : b'.offset = b.offset) : b.Sets [] b' := by
  refine ⟨?_, ?_, ?_, ?_⟩ <;> simp [selection, order, limit, offset]

theorem Sets.append {b'' : Builder} {cs ds : List ClauseCall} (first : b.Sets cs b')
    (table : b'.table = b.table) (later : b'.Sets ds b'') : b.Sets (cs ++ ds) b'' := by
  refine ⟨?_, ?_, ?_, ?_⟩
  · rw [later.selection, first.selection, List.findSome?_append, Option.or_assoc]
  · rw [later.order, first.order, table, List.findSome?_append, Option.or_assoc]
  · rw [later.limit, first.limit, List.findSome?_append, Option.or_assoc]
  · rw [later.offset, first.offset, List.findSome?_append, Option.or_assoc]

theorem judge_sets {c : ClauseCall} (accepted : b.judge c = .accepted b') : b.Sets [c] b' := by
  cases c with
  | only fields =>
    obtain ⟨unset, columns, read, -, rfl⟩ := judgeOnly_accepted accepted
    refine ⟨?_, ?_, ?_, ?_⟩ <;>
      simp [ClauseCall.columns?, ClauseCall.order?, ClauseCall.limit?, ClauseCall.offset?, unset,
        read, Except.toOption]
  | orderBy field direction =>
    obtain ⟨unset, column, d, qualified, directed, rfl⟩ := judgeOrderBy_accepted accepted
    refine ⟨?_, ?_, ?_, ?_⟩ <;>
      simp [ClauseCall.columns?, ClauseCall.order?, ClauseCall.limit?, ClauseCall.offset?, unset,
        qualified, directed, Except.toOption]
  | limit quantity =>
    obtain ⟨unset, n, counted, rfl⟩ := judgeLimit_accepted accepted
    refine ⟨?_, ?_, ?_, ?_⟩ <;>
      simp [ClauseCall.columns?, ClauseCall.order?, ClauseCall.limit?, ClauseCall.offset?, unset,
        counted]
  | offset quantity =>
    obtain ⟨unset, n, counted, rfl⟩ := judgeOffset_accepted accepted
    refine ⟨?_, ?_, ?_, ?_⟩ <;>
      simp [ClauseCall.columns?, ClauseCall.order?, ClauseCall.limit?, ClauseCall.offset?, unset,
        counted]
  | _ =>
    -- Conditions and joins are in other parts than the settings.
    obtain ⟨p, rfl⟩ := judge_accepted accepted
    exact ⟨Option.or_none.symm, Option.or_none.symm, Option.or_none.symm, Option.or_none.symm⟩

/-- What a call is accepted for was not set, and is set from then on. -/
theorem judge_present {c : ClauseCall} (setting : c.group ∈ ClauseGroup.settings)
    (accepted : b.judge c = .accepted b') :
    b.present c.group = false ∧ b'.present c.group = true := by
  cases c with
  | only fields =>
    obtain ⟨unset, columns, -, -, rfl⟩ := judgeOnly_accepted accepted
    simp [present, ClauseCall.group, unset]
  | orderBy field direction =>
    obtain ⟨unset, column, d, -, -, rfl⟩ := judgeOrderBy_accepted accepted
    simp [present, ClauseCall.group, unset]
  | limit quantity =>
    obtain ⟨unset, n, -, rfl⟩ := judgeLimit_accepted accepted
    simp [present, ClauseCall.group, unset]
  | offset quantity =>
    obtain ⟨unset, n, -, rfl⟩ := judgeOffset_accepted accepted
    simp [present, ClauseCall.group, unset]
  | _ =>
    revert setting
    simp [ClauseCall.group, ClauseGroup.settings]

theorem present_part (b : Builder) (g : ClauseGroup) : (b.part g).present g = b.present g := by
  cases g <;> rfl

/-! ### Calls in turn -/

def accepts (b : Builder) (c : ClauseCall) : Bool :=
  match b.judge c with
  | .accepted _ => true
  | _ => false

/-- The calls that a builder accepts, each judged after the ones before. -/
def accepted (b : Builder) : List ClauseCall → List ClauseCall
  | [] => []
  | c :: cs => (if b.accepts c then [c] else []) ++ (b.attempt c).accepted cs

/-- The calls that return, each made after the ones before. -/
def returned (b : Builder) : List ClauseCall → List ClauseCall
  | [] => []
  | c :: cs => (if (b.call c).isOk then [c] else []) ++ (b.attempt c).returned cs

theorem accepts_iff {c : ClauseCall} :
    b.accepts c = true ↔ b.judge c = .accepted (b.attempt c) := by
  rw [attempt_eq]
  unfold accepts
  cases b.judge c <;> simp

/-- A call that is not accepted changes nothing but the misuse. -/
theorem attempt_idle {c : ClauseCall} (idle : b.accepts c = false) :
    b.attempt c = { b with misuse := (b.attempt c).misuse } := by
  rw [attempt_eq]
  unfold accepts at idle
  cases judged : b.judge c with
  | accepted b' =>
    rw [judged] at idle
    cases idle
  | rejected m => simp only [record_eq]
  | fault f => rfl

theorem attempt_sets (b : Builder) (c : ClauseCall) :
    b.Sets (if b.accepts c then [c] else []) (b.attempt c) := by
  cases accepts : b.accepts c with
  | true => exact judge_sets (accepts_iff.mp accepts)
  | false =>
    rw [attempt_idle accepts]
    exact .none rfl rfl rfl rfl

theorem attemptAll_sets (b : Builder) (cs : List ClauseCall) :
    b.Sets (b.accepted cs) (b.attemptAll cs) := by
  induction cs generalizing b with
  | nil => exact .none rfl rfl rfl rfl
  | cons c cs ih => exact (b.attempt_sets c).append (b.attempt_table c) (ih (b.attempt c))

theorem attempt_present {c : ClauseCall} (idle : c.group = g → b.accepts c = false) :
    (b.attempt c).present g = b.present g := by
  by_cases own : c.group = g
  · rw [attempt_idle (idle own)]
    cases g <;> rfl
  · rw [← present_part, b.attempt_part_other (Ne.symm own), present_part]

/-- A setting is accepted once, and not if it is there already. -/
theorem accepted_once (setting : g ∈ ClauseGroup.settings) (b : Builder) (cs : List ClauseCall) :
    (ClauseCall.ofGroup g (b.accepted cs)).length + (b.present g).toNat ≤ 1 := by
  induction cs generalizing b with
  | nil =>
    rw [accepted, ClauseCall.ofGroup, List.filter_nil, List.length_nil, Nat.zero_add]
    exact Bool.toNat_le _
  | cons c cs ih =>
    have rest := ih (b.attempt c)
    unfold ClauseCall.ofGroup at rest ⊢
    rw [accepted, List.filter_append, List.length_append]
    by_cases own : c.group = g ∧ b.accepts c = true
    · obtain ⟨rfl, accepts⟩ := own
      obtain ⟨unset, set⟩ := judge_present setting (accepts_iff.mp accepts)
      have one : ((if b.accepts c then [c] else []).filter fun d => d.group = c.group).length = 1 := by
        simp [accepts]
      rw [set, Bool.toNat_true] at rest
      rw [one, unset, Bool.toNat_false]
      omega
    · have none : (if b.accepts c then [c] else []).filter (fun d => d.group = g) = [] := by
        cases accepts : b.accepts c with
        | true => simpa using fun same => own ⟨same, accepts⟩
        | false => rfl
      have kept : (b.attempt c).present g = b.present g :=
        attempt_present fun same => by simpa using fun accepts => own ⟨same, accepts⟩
      rw [kept] at rest
      rw [none, List.length_nil, Nat.zero_add]
      exact rest

/-- A call that returns was accepted or refused. -/
theorem returned_length (b : Builder) (g : ClauseGroup) (cs : List ClauseCall) :
    (ClauseCall.ofGroup g (b.returned cs)).length =
      (ClauseCall.ofGroup g (b.accepted cs)).length +
        (ClauseCall.ofGroup g (b.refused cs)).length := by
  induction cs generalizing b with
  | nil => rfl
  | cons c cs ih =>
    have rest := ih (b.attempt c)
    unfold ClauseCall.ofGroup at rest ⊢
    rw [returned, accepted, refused]
    simp only [List.filter_append, List.length_append, rest]
    have one : ((if (b.call c).isOk then [c] else []).filter fun c => c.group = g).length =
        ((if b.accepts c then [c] else []).filter fun c => c.group = g).length +
          ((if b.rejects c then [c] else []).filter fun c => c.group = g).length := by
      unfold call accepts rejects
      cases b.judge c with
      | accepted b' => rfl
      | rejected m => exact (Nat.zero_add _).symm
      | fault f => rfl
    omega

/-- Two calls for one setting leave no valid builder. -/
theorem attemptAll_twice (setting : g ∈ ClauseGroup.settings) (b : Builder) {cs : List ClauseCall}
    (twice : 2 ≤ (ClauseCall.ofGroup g (b.returned cs)).length) : (b.attemptAll cs).isValid = false := by
  have once := accepted_once setting b cs
  rw [returned_length] at twice
  have refused : b.refused cs ≠ [] := by
    intro none
    rw [none] at twice
    simp only [ClauseCall.ofGroup, List.filter_nil, List.length_nil] at twice once
    omega
  rw [attemptAll_isValid, List.isEmpty_eq_false_iff.mpr refused, Bool.and_false]

/-! ### Lists that grow -/

/-- Conditions and joins are added behind those that are there. -/
def Lengthens (b b' : Builder) : Prop := b.conditions <+: b'.conditions ∧ b.joins <+: b'.joins

theorem Grows.lengthens (grows : b.Grows b') : b.Lengthens b' := by
  cases grows with
  | condition c => exact ⟨List.prefix_append _ _, List.prefix_refl _⟩
  | join text => exact ⟨List.prefix_refl _, List.prefix_append _ _⟩
  | _ => exact ⟨List.prefix_refl _, List.prefix_refl _⟩

theorem attempt_lengthens (b : Builder) (c : ClauseCall) : b.Lengthens (b.attempt c) := by
  unfold attempt
  split
  · rename_i b' es called
    rcases call_eq_ok called with grows | ⟨m, rfl⟩
    · exact grows.lengthens
    · exact ⟨List.prefix_refl _, List.prefix_refl _⟩
  · exact ⟨List.prefix_refl _, List.prefix_refl _⟩

theorem attemptAll_lengthens (b : Builder) (cs : List ClauseCall) :
    b.Lengthens (b.attemptAll cs) := by
  induction cs generalizing b with
  | nil => exact ⟨List.prefix_refl _, List.prefix_refl _⟩
  | cons c cs ih =>
    obtain ⟨conditions, joins⟩ := b.attempt_lengthens c
    obtain ⟨conditions', joins'⟩ := ih (b.attempt c)
    exact ⟨conditions.trans conditions', joins.trans joins'⟩

end Builder

end TableQuery

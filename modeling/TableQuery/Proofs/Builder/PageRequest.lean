import TableQuery.Proofs.Builder.Pagination

/-!
# Which pages may be asked for

A paginated call wants a positive integer for the size of a page and another for its number. A size
that is none is refused before anything is sent. So is a number that is none, unless it counts as not
given: zero, `False` and everything empty ask for the first page. A value that is refused is named, or
the call ends because it cannot be written. The main statement is `run_asked`.
-/

namespace TableQuery

/-- An integer from one on. Truth values and doubles are none. -/
def Value.Positive (v : Value) : Prop := ∃ n : Nat, 1 ≤ n ∧ v = .int n

theorem Value.count?_eq_none {v : Value} (given : v.truthy = true) (other : ¬ v.Positive) :
    v.count? = Option.none := by
  cases v with
  | int i =>
    cases i with
    | ofNat n =>
      cases n with
      | zero => cases given
      | succ n => exact (other ⟨n + 1, by omega, rfl⟩).elim
    | negSucc n => rfl
  | _ => rfl

namespace Builder

variable {b : Builder} {size number : Value}

/-! ### What is refused -/

theorem pageBounds_size (valid : b.misuse = none) (given : size.truthy = true)
    (other : ¬ size.Positive) (number : Value) :
    b.pageBounds size number = .error (Misuse.badLimit size).fault := by
  unfold pageBounds
  simp [valid, given, Value.count?_eq_none given other]

theorem pageBounds_unsized (valid : b.misuse = none) (ungiven : size.truthy = false)
    (number : Value) : b.pageBounds size number = .error (.misuse .noPageSize) := by
  unfold pageBounds
  simp [valid, ungiven]

theorem pageBounds_number (valid : b.misuse = none) (sized : size.Positive)
    (given : number.truthy = true) (other : ¬ number.Positive) :
    b.pageBounds size number = .error (Misuse.badPage number).fault := by
  obtain ⟨n, positive, rfl⟩ := sized
  have count : (Value.int (n : Int)).count? = some n := rfl
  have asked : number.orElse (.int 1) = number := if_pos given
  unfold pageBounds
  simp [valid, Value.truthy_natCast positive, count, asked, Value.count?_eq_none given other]

/-- A refusal that names a value ends with the misuse, or with the fault of the value. -/
theorem refused_naming {σ : Type} (world : σ) {m : Misuse} {v : Value} (shown : m.shown = [v]) :
    (v.isWritable = true →
        Finished.refused b world m.fault = .refused b world (.misuse m)) ∧
      (v.isWritable = false →
        Finished.refused b world m.fault = .refused b world (.number .unwritable)) := by
  have named : m.Writable ↔ v.isWritable = true := by
    rw [Misuse.Writable, shown, List.forall_mem_singleton]
  constructor
  · intro writable
    rw [Misuse.fault_of_writable (named.mpr writable)]
  · intro long
    have unnamed : ¬ m.Writable := by
      rw [named, long]
      exact Bool.false_ne_true
    rw [Misuse.fault_of_long unnamed]

/-- A number that is not given is one, whatever it is. -/
theorem pageBounds_ungiven (b : Builder) (size : Value) (ungiven : number.truthy = false) :
    b.pageBounds size number = b.pageBounds size (.int 1) := by
  have first : number.orElse (.int 1) = .int 1 := if_neg (by rw [ungiven]; decide)
  unfold pageBounds
  rw [first]
  rfl

section Channels

variable {σ : Type} (send : Channel σ) (world : σ)

theorem run_ungiven (size : Value) (ungiven : number.truthy = false) :
    b.run send world (.getPaginated size number) =
      b.run send world (.getPaginated size (.int 1)) := by
  have opening : b.start (.getPaginated size number) = b.start (.getPaginated size (.int 1)) := by
    simp only [start, startPage, b.pageBounds_ungiven size ungiven]
  unfold run
  rw [opening]

/-- On a builder that is valid, was not executed and has no bounds a paginated call counts the scope
if size and number are positive integers, unless the scope cannot be written. Any other size is
refused, and so is any other number except those that count as not given, which ask for the first
page. Nothing is sent then, and the fault is the misuse that names the value, or that of an integer in
it which is too long to be written. -/
theorem run_asked (valid : b.misuse = none) (fresh : b.executed = false) (unlimited : b.limit = none)
    (unshifted : b.offset = none) (size number : Value) :
    let r := b.run send world (.getPaginated size number)
    (size.Positive → number.Positive → b.ScopeFits → r.sent.head? = some b.countStatement) ∧
      (size.Positive → number.Positive → ¬ b.ScopeFits →
        r = .refused b world (.number .unwritable)) ∧
      (size.Positive → number.truthy = false →
        r = b.run send world (.getPaginated size (.int 1))) ∧
      (size.Positive → number.truthy = true → ¬ number.Positive →
        (number.isWritable = true → r = .refused b world (.misuse (.badPage number))) ∧
          (number.isWritable = false → r = .refused b world (.number .unwritable))) ∧
      (size.truthy = true → ¬ size.Positive →
        (size.isWritable = true → r = .refused b world (.misuse (.badLimit size))) ∧
          (size.isWritable = false → r = .refused b world (.number .unwritable))) ∧
      (size.truthy = false → r = .refused b world (.misuse .noPageSize)) := by
  refine ⟨?_, ?_, ?_, ?_, ?_, ?_⟩
  · rintro ⟨n, sized, rfl⟩ ⟨k, numbered, rfl⟩ fits
    obtain ⟨sent, -⟩ := run_counting send world valid fits
      (pageBounds_eq_ok valid fresh unlimited unshifted sized numbered)
    rw [sent]
    rfl
  · rintro ⟨n, sized, rfl⟩ ⟨k, numbered, rfl⟩ unfit
    exact run_uncounted send world valid unfit
      (pageBounds_eq_ok valid fresh unlimited unshifted sized numbered)
  · intro _ ungiven
    exact run_ungiven send world size ungiven
  · intro sized given other
    rw [run_refused send world (pageBounds_number valid sized given other)]
    exact refused_naming world rfl
  · intro given other
    rw [run_refused send world (pageBounds_size valid given other number)]
    exact refused_naming world rfl
  · intro ungiven
    exact run_refused send world (pageBounds_unsized valid ungiven number)

end Channels

theorem run_asked_second_page :
    let b : Builder := { table := .text "t" }
    let script : Script := [.ok (.list [.list [.int 3]]), .ok (.list [])]
    let ask (size number : Value) := b.run Script.channel script (.getPaginated size number)
    let long : Value := .int (-(10 ^ 4300))
    (ask (.int 5) (.int 2)).sent.head? = some b.countStatement ∧
      ask (.int 5) (.bool true) = .refused b script (.misuse (.badPage (.bool true))) ∧
      ask (.int 5) long = .refused b script (.number .unwritable) ∧
      ask (.int (-5)) (.int 2) = .refused b script (.misuse (.badLimit (.int (-5)))) ∧
      ask .none (.int 2) = .refused b script (.misuse .noPageSize) := by
  intro b script ask long
  have five : (Value.int 5).Positive := ⟨5, by decide, rfl⟩
  have two : (Value.int 2).Positive := ⟨2, by decide, rfl⟩
  have truth : ¬ (Value.bool true).Positive := by rintro ⟨_, _, ⟨⟩⟩
  have negative : ¬ (Value.int (-5)).Positive := by rintro ⟨n, _, ⟨⟩⟩
  have given : long.truthy = true := by decide +kernel
  have below : ¬ long.Positive := by
    rintro ⟨n, positive, same⟩
    have under : (-(10 ^ 4300) : Int) < 0 := by decide +kernel
    rw [Value.int.inj same] at under
    omega
  have unwritable : long.isWritable = false := by decide +kernel
  have asked := run_asked Script.channel script (b := b) rfl rfl rfl rfl
  refine ⟨?_, ?_, ?_, ?_, ?_⟩
  · exact (asked (.int 5) (.int 2)).1 five two ⟨rfl, nofun⟩
  · exact ((asked (.int 5) (.bool true)).2.2.2.1 five rfl truth).1 rfl
  · exact ((asked (.int 5) long).2.2.2.1 five given below).2 unwritable
  · exact ((asked (.int (-5)) (.int 2)).2.2.2.2.1 rfl negative).1 (by decide +kernel)
  · exact (asked .none (.int 2)).2.2.2.2.2 rfl

/-- Page zero is no positive number, and the first page is sent for. -/
theorem run_asked_zero :
    let b : Builder := { table := .text "t" }
    let script : Script := [.ok (.list [.list [.int 3]]), .ok (.list [])]
    let r := b.run Script.channel script (.getPaginated (.int 5) (.int 0))
    ¬ (Value.int 0).Positive ∧
      r.sent.map (·.sql) =
        ["SELECT COUNT(*) AS count FROM t WHERE 1", "SELECT * FROM t WHERE 1 LIMIT 5 OFFSET 0"] ∧
      r.answer = .ok (.page ⟨.int 3, .int 5, .int 1, []⟩) := by
  intro b script r
  have other : ¬ (Value.int 0).Positive := by
    rintro ⟨n, positive, same⟩
    have zero : (0 : Int) = n := Value.int.inj same
    omega
  have first : r = b.run Script.channel script (.getPaginated (.int (5 : Nat)) (.int (1 : Nat))) :=
    run_ungiven Script.channel script (.int 5) rfl
  have writable : Writable 5 (5 * (1 - 1)) := by decide +kernel
  have fits : b.ScopeFits := ⟨rfl, nofun⟩
  have counts : (Except.ok (.list [.list [.int 3]]) : Except Fault Value).bind countIn = .ok 3 := rfl
  obtain ⟨sent, -, answer⟩ := run_writable Script.channel script (b := b) rfl rfl rfl rfl
    (by decide) (by decide) fits (compileSelect_withBounds rfl rfl fits nofun writable) counts rfl
  refine ⟨other, ?_, ?_⟩
  · rw [first, sent]
    decide +kernel
  · rw [first, answer]
    rfl

end Builder

end TableQuery

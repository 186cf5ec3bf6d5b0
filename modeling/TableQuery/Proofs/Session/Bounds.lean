import TableQuery.Proofs.Builder.Tail
import TableQuery.Proofs.Session.Clauses

/-!
# Orders and bounds of a run

An order and a bound that a builder holds were asked for in a clause call on that builder: a bound as
an integer that is not negative, a direction as a word whose upper case is `ASC` or `DESC`. Whatever
else was given as an argument in a run is not written behind the conditions of a selection. The main
statement is `run_bounded`.
-/

namespace TableQuery

theorem Direction.ofWord?_eq_some {word : String} {d : Direction}
    (known : Direction.ofWord? word = some d) : Text.upper word = d.keyword := by
  unfold Direction.ofWord? at known
  split at known
  · rename_i asc
    cases known
    exact eq_of_beq asc
  · split at known
    · rename_i desc
      cases known
      exact eq_of_beq desc
    · cases known

theorem Direction.keyword_mem (d : Direction) : d.keyword ∈ ["ASC", "DESC"] := by
  cases d <;> decide

theorem Value.count?_eq_some {v : Value} {n : Nat} (counted : v.count? = some n) :
    v = .int n := by
  unfold Value.count? at counted
  split at counted
  · cases counted
    rfl
  · cases counted

namespace ClauseCall

variable {c : ClauseCall}

theorem order?_eq_some {table column : Value} {d : Direction}
    (ordered : c.order? table = some (column, d)) :
    ∃ field direction, c = .orderBy field direction ∧ qualify table field = .ok column ∧
      Text.upper direction.display = d.keyword := by
  cases c with
  | orderBy field direction =>
    obtain ⟨stored, qualified, directed⟩ := Option.bind_eq_some_iff.mp ordered
    obtain ⟨d', known, same⟩ := Option.map_eq_some_iff.mp directed
    cases same
    exact ⟨field, direction, rfl, toOption_eq_some.mp qualified, Direction.ofWord?_eq_some known⟩
  | _ => cases ordered

theorem limit?_eq_some {n : Nat} (limited : c.limit? = some n) : c = .limit (.int n) := by
  cases c with
  | limit quantity => exact congrArg _ (Value.count?_eq_some limited)
  | _ => cases limited

theorem offset?_eq_some {n : Nat} (shifted : c.offset? = some n) : c = .offset (.int n) := by
  cases c with
  | offset quantity => exact congrArg _ (Value.count?_eq_some shifted)
  | _ => cases shifted

end ClauseCall

namespace Builder

variable {b b' : Builder} {cs ds : List ClauseCall}

/-- What a builder holds of an order and of bounds was asked for in some clause calls. -/
structure Asked (b : Builder) (cs : List ClauseCall) : Prop where
  selection : b.selection ≠ some []
  order : ∀ column d, b.order = some (column, d) → d.keyword ∈ ["ASC", "DESC"] ∧
    ∃ field direction, .orderBy field direction ∈ cs ∧ qualify b.table field = .ok column ∧
      Text.upper direction.display = d.keyword
  limit : ∀ n, b.limit = some n → .limit (.int n) ∈ cs
  offset : ∀ n, b.offset = some n → .offset (.int n) ∈ cs

/-- A builder without order and bounds. -/
theorem Asked.unset (selection : b.selection ≠ some []) (order : b.order = none)
    (limit : b.limit = none) (offset : b.offset = none) : b.Asked cs := by
  refine ⟨selection, fun column d set => ?_, fun n set => ?_, fun n set => ?_⟩
  · rw [order] at set
    cases set
  · rw [limit] at set
    cases set
  · rw [offset] at set
    cases set

theorem on?_eq_ok {table : Value} (made : on? table = .ok b) : b = { table } := by
  unfold on? at made
  split at made
  · exact (Except.ok.inj made).symm
  · cases made

theorem accepted_subset (b : Builder) (cs : List ClauseCall) : b.accepted cs ⊆ cs := by
  induction cs generalizing b with
  | nil => exact List.Subset.refl _
  | cons c cs ih =>
    refine List.append_subset.mpr ⟨?_, fun d member => List.mem_cons_of_mem _ (ih _ member)⟩
    split
    · exact List.cons_subset_cons c (List.nil_subset cs)
    · exact List.nil_subset _

theorem attempt_selection (c : ClauseCall) (named : b.selection ≠ some []) :
    (b.attempt c).selection ≠ some [] := by
  unfold attempt
  split
  · rename_i b' es called
    rcases call_eq_ok called with grows | ⟨m, rfl⟩
    · cases grows with
      | selection unset chosen => exact fun empty => chosen (Option.some.inj empty)
      | _ => exact named
    · exact named
  · exact named

theorem attemptAll_selection (cs : List ClauseCall) (named : b.selection ≠ some []) :
    (b.attemptAll cs).selection ≠ some [] := by
  induction cs generalizing b with
  | nil => exact named
  | cons c cs ih => exact ih (attempt_selection c named)

/-- A setting that was made by one of some calls, or was there before. -/
theorem or_findSome? {α : Type} {x : Option α} {f : ClauseCall → Option α} {a : α}
    (set : x.or (cs.findSome? f) = some a) : x = some a ∨ ∃ c ∈ cs, f c = some a := by
  cases x with
  | none => exact .inr (List.exists_of_findSome?_eq_some set)
  | some a' => exact .inl set

theorem Asked.gives (asked : b.Asked cs) (gives : b.Gives ds b') : b'.Asked (cs ++ ds) := by
  obtain ⟨flag, rfl⟩ := gives
  have sets := b.attemptAll_sets ds
  have inside {c : ClauseCall} (accepted : c ∈ b.accepted ds) : c ∈ cs ++ ds :=
    List.mem_append_right cs (b.accepted_subset ds accepted)
  refine ⟨attemptAll_selection ds asked.selection, fun column d set => ⟨d.keyword_mem, ?_⟩,
    fun n set => ?_, fun n set => ?_⟩
  · show ∃ field direction, _ ∧ qualify (b.attemptAll ds).table field = _ ∧ _
    rw [b.attemptAll_table ds]
    rcases or_findSome? (sets.order.symm.trans set) with before | ⟨c, accepted, ordered⟩
    · obtain ⟨-, field, direction, member, rest⟩ := asked.order column d before
      exact ⟨field, direction, List.mem_append_left ds member, rest⟩
    · obtain ⟨field, direction, rfl, rest⟩ := ClauseCall.order?_eq_some ordered
      exact ⟨field, direction, inside accepted, rest⟩
  · rcases or_findSome? (sets.limit.symm.trans set) with before | ⟨c, accepted, limited⟩
    · exact List.mem_append_left ds (asked.limit n before)
    · rw [← ClauseCall.limit?_eq_some limited]
      exact inside accepted
  · rcases or_findSome? (sets.offset.symm.trans set) with before | ⟨c, accepted, shifted⟩
    · exact List.mem_append_left ds (asked.offset n before)
    · rw [← ClauseCall.offset?_eq_some shifted]
      exact inside accepted

end Builder

namespace Overlap

variable {o : Overlap} {asked : Nat → List ClauseCall}

/-- Every builder is what it was asked to be. -/
def Asks (o : Overlap) (asked : Nat → List ClauseCall) : Prop :=
  ∀ i (b : Builder), o.builders[i]? = some b → b.Asked (asked i)

/-- A builder that a move adds is a scope of one that was there. -/
theorem step_made {m : Move} {i : Nat} {b : Builder} (absent : o.builders[i]? = none)
    (present : (o.step m).builders[i]? = some b) :
    ∃ parent ∈ o.builders, b = parent.scope := by
  have outside : o.builders.length ≤ i := List.getElem?_eq_none_iff.mp absent
  have moves := o.step_moves m
  generalize o.step m = o' at moves present
  cases moves with
  | @enter h parent c found =>
    unfold enter at present
    rw [List.getElem?_append_right (by rw [List.length_set]; exact outside)] at present
    have made : b ∈ c.made parent := List.mem_of_getElem? present
    cases c with
    | scope => exact ⟨parent, List.mem_of_getElem? found, List.mem_singleton.mp made⟩
    | _ => cases made
  | goOn begun found part =>
    unfold goOn at present
    obtain ⟨inside, -⟩ := List.getElem?_eq_some_iff.mp present
    rw [List.length_set] at inside
    omega
  | stay =>
    rw [absent] at present
    cases present

theorem step_asks (asks : o.Asks asked) (m : Move) :
    (o.step m).Asks fun i => asked i ++ o.clausesOf i m := by
  intro i b present
  cases before : o.builders[i]? with
  | some b₀ =>
    obtain ⟨b', found, gives⟩ := step_gives before m
    rw [present] at found
    cases found
    exact (asks i b₀ before).gives gives
  | none =>
    obtain ⟨parent, member, rfl⟩ := step_made before present
    obtain ⟨j, found⟩ := List.mem_iff_getElem?.mp member
    exact .unset (asks j parent found).selection rfl rfl rfl

theorem run_asks (asks : o.Asks asked) (ms : List Move) :
    (o.run ms).Asks fun i => asked i ++ o.clausesOn i ms := by
  induction ms generalizing o asked with
  | nil =>
    intro i b present
    show b.Asked (asked i ++ [])
    rw [List.append_nil]
    exact asks i b present
  | cons m ms ih =>
    intro i b present
    show b.Asked (asked i ++ (o.clausesOf i m ++ (o.step m).clausesOn i ms))
    rw [← List.append_assoc]
    exact ih (step_asks asks m) i b present

/-- Whatever is called with whatever arguments, a builder holds a bound only if a clause call of the
run asked for this non-negative integer, and an order only in a direction whose upper case is `ASC`
or `DESC`; its selection is not empty. A selection that it compiles into has nothing behind its
conditions but the stored column and these two words and digits, with single spaces between them. -/
theorem run_bounded (fresh : ∀ b ∈ o.builders, ∃ table, Builder.on? table = .ok b) (ms : List Move)
    {i : Nat} {b : Builder} (present : (o.run ms).builders[i]? = some b) :
    b.Asked (o.clausesOn i ms) ∧
      ∀ fields,
        ((∃ s, b.compileSelect fields = .ok s) ↔ b.isValid = true ∧
          (∀ n, b.limit = some n ∨ b.offset = some n → n < 10 ^ Text.digitLimit) ∧
          b.ScopeFits ∧ b.OrderFits ∧
          ∃ columns names, b.columns fields = .ok columns ∧ columns.mapM Value.text? = .ok names) ∧
        ∀ s, b.compileSelect fields = .ok s → b.Ends s.sql := by
  have asks : o.Asks fun _ => [] := by
    intro j b₀ found
    obtain ⟨table, made⟩ := fresh b₀ (List.mem_of_getElem? found)
    obtain rfl := Builder.on?_eq_ok made
    exact .unset (by simp) rfl rfl rfl
  refine ⟨run_asks asks ms i b present, fun fields => ⟨Builder.compileSelect_returns, ?_⟩⟩
  exact fun s compiled => Builder.compileSelect_tail compiled

/-- A page is ordered in the direction `deſc`, whose upper case is `DESC`. Its bounds are asked for
when the rows are counted, the offset as a product. -/
theorem run_bounded_page :
    let orders : Builder := { table := .text "orders" }
    let first : Overlap := { builders := [orders] }
    let ms : List Move :=
      [.call ⟨0, none⟩ (.clause (.orderBy (.text "total") (.text "deſc"))),
        .call ⟨0, none⟩ (.terminal (.getPaginated (.int 10) (.int 3))),
        .reply 1 (.ok (.list [.list [.int 35]]))]
    Builder.on? (.text "orders") = .ok orders ∧ .offset (.int 20) ∈ first.clausesOn 0 ms ∧
      ∃ b, (first.run ms).builders[0]? = some b ∧ b.order.map (·.2) = some .desc ∧
        b.limit = some 10 ∧ b.offset = some 20 ∧ ∃ s, b.compileSelect .none = .ok s ∧ b.Ends s.sql := by
  intro orders first ms
  have fresh : ∀ b ∈ first.builders, ∃ table, Builder.on? table = .ok b := by
    intro b member
    cases List.mem_singleton.mp member
    exact ⟨.text "orders", rfl⟩
  have settings : (first.run ms).builders[0]?.map (fun b =>
      (b.isValid, b.selection.isNone, b.order.map (·.2), b.limit, b.offset)) =
        some (true, true, some .desc, some 10, some 20) := by decide +kernel
  have writable : (first.run ms).builders[0]?.map (fun b =>
      (b.table.isWritable, b.conditions.isEmpty, b.order.all (·.1.isWritable))) =
        some (true, true, true) := by decide +kernel
  obtain ⟨b, present, same⟩ := Option.map_eq_some_iff.mp settings
  rw [present] at writable
  simp only [Prod.mk.injEq, Option.isNone_iff_eq_none, Option.map_some, Option.some.injEq,
    List.isEmpty_iff] at same writable
  obtain ⟨valid, all, directed, limited, shifted⟩ := same
  obtain ⟨table, unconditional, ordered⟩ := writable
  obtain ⟨asked, compiles⟩ := run_bounded fresh ms present
  have fits : ∀ n, b.limit = some n ∨ b.offset = some n → n < 10 ^ Text.digitLimit := by
    intro n bound
    have two : n < 10 ^ 2 := by
      rw [limited, shifted] at bound
      rcases bound with ⟨⟨⟩⟩ | ⟨⟨⟩⟩ <;> decide
    exact two.trans_le (Nat.pow_le_pow_right (by decide) (by decide))
  have scope : b.ScopeFits := ⟨table, by rw [unconditional]; exact nofun⟩
  have order : b.OrderFits := by
    intro column direction set
    rw [set] at ordered
    exact ordered
  have star : b.columns .none = .ok [.text "*"] := by
    unfold Builder.columns
    rw [all]
    rfl
  obtain ⟨returns, ends⟩ := compiles .none
  obtain ⟨s, compiled⟩ := returns.mpr ⟨valid, fits, scope, order, _, ["*"], star, rfl⟩
  exact ⟨rfl, asked.offset 20 shifted, b, present, directed, limited, shifted, s, compiled,
    ends s compiled⟩

end Overlap

end TableQuery

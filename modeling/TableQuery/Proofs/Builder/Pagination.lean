import Mathlib
import TableQuery.Builder.Session
import TableQuery.Proofs.Builder.Text

/-!
# Paginated calls

A paginated call counts the rows in scope on a builder of its own and then selects one page on the
builder itself. Both statements have the text of one scope and the same values. The main statement
is `run_getPaginated`; bounds that cannot be written are the one thing that can stop the call
after its count.
-/

namespace TableQuery

/-- The first row of a reply carries a number, under `count` or in the first place. -/
def CarriesCount (reply : Value) (n : Int) : Prop :=
  ∃ row, reply.first? = .ok row ∧
    match row with
    | .map es => Value.lookup? (.text "count") es = some (.int n)
    | row => row.first? = .ok (.int n)

theorem countIn_of_carriesCount {reply : Value} {n : Int} (h : CarriesCount reply n) :
    countIn reply = .ok n := by
  obtain ⟨row, first, carried⟩ := h
  unfold countIn
  rw [first, ok_bind]
  cases row with
  | map es => simp only [carried]; rfl
  | _ => simp only [carried, ok_bind]; rfl

theorem Value.truthy_natCast {n : Nat} (positive : 1 ≤ n) : (Value.int n).truthy = true := by
  simp only [truthy, bne_iff_ne, ne_eq]
  omega

/-- A statement with bounds after its text. -/
def Statement.bounded (s : Statement) (limit offset : Nat) : Statement :=
  { s with sql := s.sql ++ " LIMIT " ++ Text.decimal limit ++ " OFFSET " ++ Text.decimal offset }

/-- A statement with more text behind it. -/
def Statement.ending (s : Statement) (tail : String) : Statement := { s with sql := s.sql ++ tail }

theorem Statement.ending_empty (s : Statement) : s.ending "" = s := by
  rw [ending, String.append_empty]

/-- A call that ends before anything is sent or logged. -/
def Finished.refused {σ : Type} (b : Builder) (world : σ) (f : Fault) : Finished σ :=
  { answer := .error f, builder := b, channel := world }

/-- Bounds that are short enough to be written. -/
def Writable (limit offset : Nat) : Prop :=
  limit < 10 ^ Text.digitLimit ∧ offset < 10 ^ Text.digitLimit

instance (limit offset : Nat) : Decidable (Writable limit offset) :=
  inferInstanceAs (Decidable (_ ∧ _))

namespace Builder

/-- The count of the rows that a builder is about. -/
def countStatement (b : Builder) : Statement :=
  { sql := "SELECT COUNT(*) AS count FROM " ++ b.table.display ++ b.scopeText
    values := Clause.allValues b.conditions }

/-! ### The two statements -/

theorem selectText_count (b : Builder) (limit offset : String) :
    b.selectText ["COUNT(*) AS count"] limit offset =
      b.countStatement.sql ++ (spaced b.orderText ++ spaced limit ++ spaced offset) := by
  have head : ("SELECT " ++ ", ".intercalate ["COUNT(*) AS count"] ++ " FROM " : String) =
      "SELECT COUNT(*) AS count FROM " := by decide
  delta countStatement selectText
  rw [head]
  simp only [String.append_assoc]

theorem mapM_count : [Value.text "COUNT(*) AS count"].mapM Value.text? = .ok ["COUNT(*) AS count"] :=
  rfl

/-- The count of a builder's rows keeps the order and the bounds that the builder holds. -/
theorem compileCount_eq_ok {b : Builder} {s : Statement} :
    b.compileCount = .ok s ↔
      b.misuse = none ∧ b.ScopeFits ∧ b.OrderFits ∧ ∃ limit offset,
        boundText "LIMIT" b.limit = .ok limit ∧ boundText "OFFSET" b.offset = .ok offset ∧
        s = b.countStatement.ending (spaced b.orderText ++ spaced limit ++ spaced offset) := by
  unfold compileCount
  rw [compileSelect_eq_ok]
  refine and_congr_right fun _ => and_congr_right fun _ => and_congr_right fun _ => ?_
  constructor
  · rintro ⟨limit, offset, columns, names, limited, shifted, ⟨⟩, read, rfl⟩
    cases mapM_count.symm.trans read
    refine ⟨limit, offset, limited, shifted, ?_⟩
    rw [selectText_count]
    rfl
  · rintro ⟨limit, offset, limited, shifted, rfl⟩
    refine ⟨limit, offset, _, _, limited, shifted, rfl, mapM_count, ?_⟩
    rw [selectText_count]
    rfl

theorem compileCount_unwritable {b : Builder} (valid : b.misuse = none)
    (unfit : ¬ (b.ScopeFits ∧ b.OrderFits ∧ b.BoundsFit)) :
    b.compileCount = .error (.number .unwritable) :=
  compileSelect_unwritable valid rfl mapM_count unfit

theorem compileCount_scope {b : Builder} (valid : b.misuse = none) (fits : b.ScopeFits) :
    b.scope.compileCount = .ok b.countStatement :=
  compileCount_eq_ok.mpr ⟨valid, ⟨fits.table, fits.conditions⟩, nofun, "", "", rfl, rfl,
    b.countStatement.ending_empty.symm⟩

theorem compileCount_scope_unwritable {b : Builder} (valid : b.misuse = none)
    (unfit : ¬ b.ScopeFits) : b.scope.compileCount = .error (.number .unwritable) :=
  compileCount_unwritable valid fun fits => unfit ⟨fits.1.table, fits.1.conditions⟩

theorem mapM_text?_eq_ok {columns : List Value} (texts : ∀ v ∈ columns, ∃ t, v = .text t) :
    ∃ names, columns.mapM Value.text? = .ok names := by
  induction columns with
  | nil => exact ⟨[], rfl⟩
  | cons v columns ih =>
    obtain ⟨t, rfl⟩ := texts v List.mem_cons_self
    obtain ⟨names, read⟩ := ih fun w member => texts w (List.mem_cons_of_mem _ member)
    exact ⟨t :: names, by rw [List.mapM_cons, read]; rfl⟩

theorem mapM_selection {b : Builder}
    (texts : ∀ columns, b.selection = some columns → ∀ v ∈ columns, ∃ t, v = .text t) :
    ∃ names, (b.selection.getD [.text "*"]).mapM Value.text? = .ok names := by
  cases selected : b.selection with
  | none => exact ⟨["*"], rfl⟩
  | some columns => exact mapM_text?_eq_ok (texts columns selected)

theorem compileSelect_unbounded {b : Builder} {names : List String} (valid : b.misuse = none)
    (unlimited : b.limit = none) (unshifted : b.offset = none)
    (named : (b.selection.getD [.text "*"]).mapM Value.text? = .ok names) (scope : b.ScopeFits)
    (order : b.OrderFits) :
    b.compileSelect .none =
      .ok ⟨b.selectText names "" "", Clause.allValues b.conditions, .select⟩ := by
  refine compileSelect_eq_ok.mpr ⟨valid, scope, order, "", "", _, names, ?_, ?_, rfl, named, rfl⟩
  · rw [unlimited]; rfl
  · rw [unshifted]; rfl

def withBounds (b : Builder) (limit offset : Nat) : Builder :=
  { b with limit := some limit, offset := some offset }

theorem selectText_bounded (b : Builder) (names : List String) (limit offset : Nat) :
    (b.withBounds limit offset).selectText names ("LIMIT " ++ Text.decimal limit)
      ("OFFSET " ++ Text.decimal offset) =
      b.selectText names "" "" ++ " LIMIT " ++ Text.decimal limit ++ " OFFSET " ++
        Text.decimal offset := by
  have limited : spaced ("LIMIT " ++ Text.decimal limit) = " LIMIT " ++ Text.decimal limit := by
    rw [spaced_of_ne (append_ne_empty (by decide) _), ← String.append_assoc]
    rfl
  have shifted : spaced ("OFFSET " ++ Text.decimal offset) = " OFFSET " ++ Text.decimal offset := by
    rw [spaced_of_ne (append_ne_empty (by decide) _), ← String.append_assoc]
    rfl
  delta selectText
  rw [limited, shifted, spaced_empty]
  simp only [String.append_empty, String.append_assoc]
  rfl

theorem compileSelect_withBounds {b : Builder} {names : List String} {limit offset : Nat}
    (valid : b.misuse = none)
    (named : (b.selection.getD [.text "*"]).mapM Value.text? = .ok names) (scope : b.ScopeFits)
    (order : b.OrderFits) (writable : Writable limit offset) :
    (b.withBounds limit offset).compileSelect .none =
      .ok (Statement.bounded ⟨b.selectText names "" "", Clause.allValues b.conditions, .select⟩
        limit offset) := by
  refine compileSelect_eq_ok.mpr ⟨valid, ⟨scope.table, scope.conditions⟩, order, _, _, _, names,
    boundText_some _ writable.1, boundText_some _ writable.2, rfl, named, ?_⟩
  rw [Statement.bounded, ← selectText_bounded]
  rfl

theorem compileSelect_withBounds_unwritable {b : Builder} {names : List String} {limit offset : Nat}
    (valid : b.misuse = none)
    (named : (b.selection.getD [.text "*"]).mapM Value.text? = .ok names)
    (unwritable : ¬ (b.OrderFits ∧ Writable limit offset)) :
    (b.withBounds limit offset).compileSelect .none = .error (.number .unwritable) :=
  compileSelect_unwritable valid rfl named fun ⟨_, order, fits⟩ =>
    unwritable ⟨order, fits limit (.inl rfl), fits offset (.inr rfl)⟩

/-! ### The call -/

theorem offset_eq {number : Nat} (positive : 1 ≤ number) (size : Nat) :
    ((size : Int) * ((number : Int) - 1)) = ((size * (number - 1) : Nat) : Int) := by
  obtain ⟨before, rfl⟩ : ∃ before, number = before + 1 := ⟨number - 1, by omega⟩
  simp

theorem pageBounds_eq_ok {b : Builder} {size number : Nat} (valid : b.misuse = none)
    (fresh : b.executed = false) (unlimited : b.limit = none) (unshifted : b.offset = none)
    (sized : 1 ≤ size) (numbered : 1 ≤ number) :
    b.pageBounds (.int size) (.int number) = .ok (size, number) := by
  have count (n : Nat) : (Value.int (n : Int)).count? = some n := rfl
  have nonzero : number ≠ 0 := by omega
  simp [pageBounds, valid, Value.truthy_natCast sized, count, Value.orElse,
    Value.truthy_natCast numbered, nonzero, unlimited, unshifted, fresh]

/-- A page may be asked of a builder that is valid, was not executed and has no bounds. -/
theorem pageBounds_inv {b : Builder} {size number : Value} {n k : Nat}
    (bounds : b.pageBounds size number = .ok (n, k)) :
    b.misuse = none ∧ b.limit = none ∧ b.offset = none ∧ b.executed = false ∧ 1 ≤ k := by
  unfold pageBounds at bounds
  split at bounds
  · cases bounds
  · rename_i valid
    split at bounds
    · cases bounds
    · split at bounds
      · cases bounds
      · dsimp only at bounds
        split at bounds
        · cases bounds
        · split at bounds
          · cases bounds
          · rename_i positive
            split at bounds
            · cases bounds
            · rename_i unset
              split at bounds
              · cases bounds
              · rename_i fresh
                cases bounds
                simp only [Bool.or_eq_true, not_or, Bool.not_eq_true, Option.isSome_eq_false_iff,
                  Option.isNone_iff_eq_none] at unset
                exact ⟨valid, unset.1, unset.2, by simpa using fresh, by omega⟩

/-- A paginated call begins with the count of the scope, and leaves the builder as it is. -/
theorem startPage_counting {b : Builder} {size number : Value} {n k : Nat} (valid : b.misuse = none)
    (fits : b.ScopeFits) (bounds : b.pageBounds size number = .ok (n, k)) :
    b.startPage size number =
      (b, [.executing .select b.table (Clause.allValues b.conditions).length],
        .counting b.countStatement n k) := by
  have counted := compileCount_scope valid fits
  simp only [startPage, bounds, counted, hand]
  rfl

theorem startPage_unwritable {b : Builder} {size number : Value} {n k : Nat}
    (valid : b.misuse = none) (unfit : ¬ b.ScopeFits)
    (bounds : b.pageBounds size number = .ok (n, k)) :
    b.startPage size number = (b, [], .leg (.done (.error (.number .unwritable)))) := by
  have failed := compileCount_scope_unwritable valid unfit
  simp only [startPage, bounds, failed, hand]

theorem callAll_bounds {b : Builder} (unlimited : b.limit = none) (unshifted : b.offset = none)
    (limit offset : Nat) :
    b.callAll [.limit (.int limit), .offset (.int offset)] = .ok (b.withBounds limit offset, []) := by
  have count (n : Nat) : (Value.int (n : Int)).count? = some n := rfl
  have limited : b.call (.limit (.int limit)) = .ok ({ b with limit := some limit }, []) := by
    simp only [call, judge, judgeLimit, count, unlimited]
    rfl
  have shifted : ({ b with limit := some limit } : Builder).call (.offset (.int offset)) =
      .ok (b.withBounds limit offset, []) := by
    simp only [call, judge, judgeOffset, count, unshifted]
    rfl
  simp only [callAll, limited, shifted, ok_bind]
  rfl

theorem counted_eq {b : Builder} {size number : Nat} {reply : Except Fault Value} {total : Int}
    (unlimited : b.limit = none) (unshifted : b.offset = none) (numbered : 1 ≤ number)
    (counts : reply.bind countIn = .ok total) :
    b.counted size number reply =
      (b.withBounds size (size * (number - 1))).hand
        ((b.withBounds size (size * (number - 1))).compileSelect .none)
        (.page total size number) := by
  unfold counted handWith
  simp only [counts, offset_eq numbered, callAll_bounds unlimited unshifted, List.nil_append]

section Channels

variable {σ : Type} (send : Channel σ) (world : σ) {b : Builder} {size number : Nat} {total : Int}

theorem run_refused {size number : Value} {f : Fault}
    (bounds : b.pageBounds size number = .error f) :
    b.run send world (.getPaginated size number) = .refused b world f := by
  have opening : b.start (.getPaginated size number) = (b, [], .leg (.done (.error f))) := by
    simp only [start, startPage, bounds]
  unfold run
  rw [opening]
  rfl

/-- A paginated call whose scope cannot be written ends before its count. -/
theorem run_uncounted {size number : Value} {n k : Nat} (valid : b.misuse = none)
    (unfit : ¬ b.ScopeFits) (bounds : b.pageBounds size number = .ok (n, k)) :
    b.run send world (.getPaginated size number) = .refused b world (.number .unwritable) := by
  have opening : b.start (.getPaginated size number) = _ := startPage_unwritable valid unfit bounds
  unfold run
  rw [opening]
  rfl

/-- After its count a paginated call goes on with the leg that the reply leads to. -/
theorem run_counting {size number : Value} {n k : Nat} (valid : b.misuse = none)
    (fits : b.ScopeFits) (bounds : b.pageBounds size number = .ok (n, k)) :
    let counted := send world b.countStatement.sql b.countStatement.values
    let next := b.counted n k counted.reply
    let last := finishLeg send counted.state next.1 next.2.2
    let r := b.run send world (.getPaginated size number)
    r.sent = b.countStatement :: last.sent ∧ r.channel = last.channel ∧ r.answer = last.answer ∧
      r.builder = last.builder := by
  have opening : b.start (.getPaginated size number) = _ := startPage_counting valid fits bounds
  simp only [run, opening, and_self]

theorem run_writable {base : Statement} {rows : List Value} (valid : b.misuse = none)
    (fresh : b.executed = false) (unlimited : b.limit = none) (unshifted : b.offset = none)
    (sized : 1 ≤ size) (numbered : 1 ≤ number) (fits : b.ScopeFits)
    (compiled : (b.withBounds size (size * (number - 1))).compileSelect .none = .ok base)
    (counts : (send world b.countStatement.sql b.countStatement.values).reply.bind countIn =
      .ok total)
    (replied : (send (send world b.countStatement.sql b.countStatement.values).state base.sql
      base.values).reply = .ok (.list rows)) :
    let r := b.run send world (.getPaginated (.int size) (.int number))
    r.sent = [b.countStatement, base] ∧
      r.channel = (send (send world b.countStatement.sql b.countStatement.values).state base.sql
        base.values).state ∧
      r.answer = .ok (.page ⟨.int total, .int size, .int number, rows⟩) := by
  obtain ⟨sent, channel, answer, -⟩ := run_counting send world valid fits
    (pageBounds_eq_ok valid fresh unlimited unshifted sized numbered)
  rw [counted_eq unlimited unshifted numbered counts, compiled] at sent channel answer
  have waiting : (b.withBounds size (size * (number - 1))).executed = false := fresh
  simp only [hand, waiting, Bool.false_eq_true, if_false, finishLeg] at sent channel answer
  refine ⟨sent, channel, answer.trans ?_⟩
  rw [replied]
  rfl

theorem run_unwritable {f : Fault} (valid : b.misuse = none) (fresh : b.executed = false)
    (unlimited : b.limit = none) (unshifted : b.offset = none) (sized : 1 ≤ size)
    (numbered : 1 ≤ number) (fits : b.ScopeFits)
    (failed : (b.withBounds size (size * (number - 1))).compileSelect .none = .error f)
    (counts : (send world b.countStatement.sql b.countStatement.values).reply.bind countIn =
      .ok total) :
    let r := b.run send world (.getPaginated (.int size) (.int number))
    r.sent = [b.countStatement] ∧
      r.channel = (send world b.countStatement.sql b.countStatement.values).state ∧
      r.answer = .error f := by
  obtain ⟨sent, channel, answer, -⟩ := run_counting send world valid fits
    (pageBounds_eq_ok valid fresh unlimited unshifted sized numbered)
  rw [counted_eq unlimited unshifted numbered counts, failed] at sent channel answer
  exact ⟨sent, channel, answer⟩

/-- A paginated call counts the scope first, on a reply that carries a number goes on with the page
that was asked for, and does so on any channel. Only an integer that is too long to be written stops
it: in the table or a condition before the count, in the order or a bound after it. -/
theorem run_getPaginated (valid : b.misuse = none) (fresh : b.executed = false)
    (unlimited : b.limit = none) (unshifted : b.offset = none)
    (texts : ∀ columns, b.selection = some columns → ∀ v ∈ columns, ∃ t, v = .text t)
    (sized : 1 ≤ size) (numbered : 1 ≤ number) :
    ∃ names base, (b.ScopeFits → b.OrderFits → b.compileSelect .none = .ok base) ∧
      base.sql = "SELECT " ++ ", ".intercalate names ++ " FROM " ++ b.table.display ++
        b.scopeText ++ spaced b.orderText ∧
      b.countStatement.sql = "SELECT COUNT(*) AS count FROM " ++ b.table.display ++ b.scopeText ∧
      b.countStatement.values = base.values ∧
      (¬ b.ScopeFits → b.run send world (.getPaginated (.int size) (.int number)) =
        .refused b world (.number .unwritable)) ∧
      ∀ total rows, b.ScopeFits →
        let offset := size * (number - 1)
        let counted := send world b.countStatement.sql b.countStatement.values
        let selected := send counted.state (base.bounded size offset).sql base.values
        let r := b.run send world (.getPaginated (.int size) (.int number))
        let page : Page := ⟨.int total, .int size, .int number, rows⟩
        (∃ reply, counted.reply = .ok reply ∧ CarriesCount reply total) →
        (b.OrderFits → Writable size offset → selected.reply = .ok (.list rows) →
          r.sent = [b.countStatement, base.bounded size offset] ∧ r.channel = selected.state ∧
            r.answer = .ok (.page page) ∧ page.offset = .ok (.int offset)) ∧
        (¬ (b.OrderFits ∧ Writable size offset) →
          r.sent = [b.countStatement] ∧ r.channel = counted.state ∧
            r.answer = .error (.number .unwritable)) := by
  -- Without bounds the builder compiles; the page is that statement with the bounds behind it.
  obtain ⟨names, named⟩ := mapM_selection texts
  refine ⟨names, ⟨b.selectText names "" "", Clause.allValues b.conditions, .select⟩,
    compileSelect_unbounded valid unlimited unshifted named, ?_, rfl, rfl, fun unfit => ?_, ?_⟩
  · delta selectText
    simp only [spaced_empty, String.append_empty]
  · exact run_uncounted send world valid unfit
      (pageBounds_eq_ok valid fresh unlimited unshifted sized numbered)
  intro total rows fits offset counted selected r page carried
  have counts : counted.reply.bind countIn = .ok total := by
    obtain ⟨reply, replied, carried⟩ := carried
    rw [replied]
    exact countIn_of_carriesCount carried
  constructor
  · intro order writable replied
    obtain ⟨sent, channel, answer⟩ := run_writable send world valid fresh unlimited unshifted sized
      numbered fits (compileSelect_withBounds valid named fits order writable) counts replied
    refine ⟨sent, channel, answer, ?_⟩
    have placed : page.offset = .ok (.int ((size : Int) * ((number : Int) - 1))) := rfl
    rw [placed, offset_eq numbered]
  · intro unwritable
    exact run_unwritable send world valid fresh unlimited unshifted sized numbered fits
      (compileSelect_withBounds_unwritable valid named unwritable) counts

end Channels

theorem run_getPaginated_third_page :
    let b : Builder :=
      { table := .text "orders", conditions := [⟨.text "orders.state = ?", [.text "open"]⟩],
        joins := ["LEFT JOIN users ON orders.user = users.id"],
        order := some (.text "orders.id", .desc) }
    let script : Script := [.ok (.list [.list [.int 25]]), .ok (.list [.text "last"])]
    let r := b.run Script.channel script (.getPaginated (.int (10 : Nat)) (.int (3 : Nat)))
    let scope := "orders LEFT JOIN users ON orders.user = users.id WHERE 1 AND orders.state = ?"
    r.sent =
        [⟨"SELECT COUNT(*) AS count FROM " ++ scope, [.text "open"], .select⟩,
          ⟨"SELECT * FROM " ++ scope ++ " ORDER BY orders.id DESC LIMIT 10 OFFSET 20",
            [.text "open"], .select⟩] ∧
      r.answer = .ok (.page ⟨.int 25, .int 10, .int 3, [.text "last"]⟩) := by
  intro b script r scope
  obtain ⟨names, base, compiled, -, -, -, -, page⟩ := run_getPaginated Script.channel script (b := b)
    rfl rfl rfl rfl (fun _ none => nomatch none) (by decide : 1 ≤ 10) (by decide : 1 ≤ 3)
  have fits : b.ScopeFits := ⟨rfl, by simp [b, Value.isWritable]⟩
  have order : b.OrderFits := by
    rintro _ _ ⟨⟩
    rfl
  cases compiled fits order
  have carried : CarriesCount (.list [.list [.int 25]]) 25 := ⟨_, rfl, rfl⟩
  obtain ⟨written, -⟩ := page 25 [.text "last"] fits ⟨_, rfl, carried⟩
  obtain ⟨sent, -, answer, -⟩ := written order (by decide +kernel) rfl
  have counting : b.countStatement.sql = "SELECT COUNT(*) AS count FROM " ++ scope := by
    decide +kernel
  have selecting : (Statement.bounded ⟨b.selectText ["*"] "" "", [.text "open"], .select⟩ 10 20).sql =
      "SELECT * FROM " ++ scope ++ " ORDER BY orders.id DESC LIMIT 10 OFFSET 20" := by
    decide +kernel
  refine ⟨?_, answer⟩
  rw [← counting, ← selecting]
  exact sent

theorem run_getPaginated_long_offset :
    let b : Builder := { table := .text "t" }
    let script : Script := [.ok (.list [.list [.int 3]]), .ok (.list [])]
    let number : Nat := 10 ^ 2200
    let r := b.run Script.channel script (.getPaginated (.int number) (.int number))
    1 ≤ number ∧ r.sent = [⟨"SELECT COUNT(*) AS count FROM t WHERE 1", [], .select⟩] ∧
      r.answer = .error (.number .unwritable) := by
  intro b script number r
  have positive : 1 ≤ number := by decide +kernel
  have unwritable : ¬ Writable number (number * (number - 1)) := by decide +kernel
  have counts : countIn (.list [.list [.int 3]]) = .ok 3 := rfl
  obtain ⟨sent, -, answer⟩ := run_unwritable Script.channel script (b := b) rfl rfl rfl rfl positive
    positive ⟨rfl, nofun⟩ (compileSelect_withBounds_unwritable rfl rfl fun both => unwritable both.2)
    counts
  exact ⟨positive, sent, answer⟩

end Builder

end TableQuery

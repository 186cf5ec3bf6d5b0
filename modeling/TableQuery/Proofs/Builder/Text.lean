import Mathlib
import TableQuery.Builder.Compile
import TableQuery.Proofs.Value.Writing

/-!
# The text of compiled statements

Each kind of statement is its head and then parts with single spaces between them. The lemmas
`compileSelect_eq_ok`, `compileInsert_eq_ok`, `compileUpdate_eq_ok` and `compileDelete_eq_ok` say
when a builder compiles, and into which text with which values. `scopeText` is what the statements
of one builder have in common: its joins and its conditions.
-/

namespace TableQuery.Builder

def spaced (s : String) : String := if s = "" then "" else " " ++ s

@[simp] theorem spaced_empty : spaced "" = "" := rfl

theorem spaced_of_ne {s : String} (h : s ≠ "") : spaced s = " " ++ s := if_neg h

theorem intercalate_cons (separator head : String) (parts : List String) :
    separator.intercalate (head :: parts) = head ++ String.join (parts.map (separator ++ ·)) := by
  induction parts generalizing head with
  | nil => simp
  | cons part parts ih =>
    rw [String.intercalate_cons_cons, ih, List.map_cons, String.join_cons]
    simp only [String.append_assoc]

theorem assemble_cons {head : String} (h : head ≠ "") (parts : List String) :
    assemble (head :: parts) = head ++ String.join (parts.map spaced) := by
  have present : String.join ((parts.filter (· != "")).map (" " ++ ·)) =
      String.join (parts.map spaced) := by
    induction parts with
    | nil => rfl
    | cons part parts ih =>
      rw [List.map_cons, String.join_cons, ← ih]
      by_cases empty : part = ""
      · rw [List.filter_cons_of_neg (by simp [empty]), empty, spaced_empty, String.empty_append]
      · rw [List.filter_cons_of_pos (by simp [empty]), List.map_cons, String.join_cons,
          spaced_of_ne empty]
  rw [assemble, List.filter_cons_of_pos (by simp [h]), intercalate_cons, present]

theorem join_spaced_append (ps qs : List String) :
    String.join ((ps ++ qs).map spaced) = String.join (ps.map spaced) ++ String.join (qs.map spaced) := by
  rw [List.map_append, String.join_append]

theorem join_spaced_cons (p : String) (ps : List String) :
    String.join ((p :: ps).map spaced) = spaced p ++ String.join (ps.map spaced) := by
  rw [List.map_cons, String.join_cons]

theorem join_spaced_nil : String.join (([] : List String).map spaced) = "" := rfl

/-! ### Parts -/

def joinsText (b : Builder) : String := String.join (b.joins.map spaced)

/-- The joins and the conditions, each part behind a space. -/
def scopeText (b : Builder) : String := b.joinsText ++ " " ++ b.whereText

theorem whereText_ne_empty (b : Builder) : b.whereText ≠ "" := by
  unfold whereText
  intro empty
  have letters := congrArg String.toList empty
  cases b.conditions <;> simp at letters

theorem whereText_join (b : Builder) :
    b.whereText = "WHERE 1" ++ String.join (b.conditions.map fun c => " AND " ++ c.sql.display) := by
  have behind : (" " ++ ·) ∘ (fun c : Clause => "AND " ++ c.sql.display) =
      fun c => " AND " ++ c.sql.display := by
    funext c
    rw [Function.comp_apply, ← String.append_assoc]
    rfl
  rw [whereText, intercalate_cons, List.map_map, behind]

theorem append_ne_empty {keyword : String} (h : keyword ≠ "") (s : String) : keyword ++ s ≠ "" := by
  intro empty
  exact h (String.append_eq_empty_iff.mp empty).1

theorem isWritable_natCast {n : Nat} :
    (Value.int n).isWritable = true ↔ n < 10 ^ Text.digitLimit := by
  rw [Value.isWritable, Text.isWritable, decide_eq_true_iff, Int.natAbs_natCast, Nat.pow_eq]

theorem boundText_some (keyword : String) {n : Nat} (h : n < 10 ^ Text.digitLimit) :
    boundText keyword (some n) = .ok (keyword ++ " " ++ Text.decimal n) :=
  Value.writing_ok (by simpa using isWritable_natCast.mpr h) _

theorem boundText_long (keyword : String) {n : Nat} (h : ¬ n < 10 ^ Text.digitLimit) :
    boundText keyword (some n) = .error (.number .unwritable) :=
  Value.writing_error List.mem_cons_self (Bool.eq_false_iff.mpr (mt isWritable_natCast.mp h)) _

/-- A bound is written unless it has too many digits. -/
theorem boundText_eq_ok {keyword text : String} {bound : Option Nat} :
    boundText keyword bound = .ok text ↔
      (∀ n, bound = some n → n < 10 ^ Text.digitLimit) ∧
        text = bound.elim "" fun n => keyword ++ " " ++ Text.decimal n := by
  cases bound with
  | none =>
    refine ⟨fun written => ⟨fun n given => ?_, (Except.ok.inj written).symm⟩, ?_⟩
    · cases given
    · rintro ⟨-, rfl⟩
      rfl
  | some n =>
    by_cases short : n < 10 ^ Text.digitLimit
    · rw [boundText_some keyword short]
      refine ⟨fun written => ⟨?_, (Except.ok.inj written).symm⟩, ?_⟩
      · rintro _ ⟨⟩
        exact short
      · rintro ⟨-, rfl⟩
        rfl
    · rw [boundText_long keyword short]
      refine ⟨fun written => ?_, fun ⟨fits, _⟩ => (short (fits n rfl)).elim⟩
      cases written

/-- The bounds of a builder are short enough to be written. -/
def BoundsFit (b : Builder) : Prop :=
  ∀ n, b.limit = some n ∨ b.offset = some n → n < 10 ^ Text.digitLimit

theorem BoundsFit.written {b : Builder} (fits : b.BoundsFit) :
    ∃ limit offset, boundText "LIMIT" b.limit = .ok limit ∧ boundText "OFFSET" b.offset = .ok offset :=
  ⟨_, _, boundText_eq_ok.mpr ⟨fun n bound => fits n (.inl bound), rfl⟩,
    boundText_eq_ok.mpr ⟨fun n bound => fits n (.inr bound), rfl⟩⟩

/-- The table of a builder and the conditions that were given as they are can be written. -/
structure ScopeFits (b : Builder) : Prop where
  table : b.table.isWritable = true
  conditions : ∀ c ∈ b.conditions, c.sql.isWritable = true

/-- The column of the order, if one is set, can be written. -/
def OrderFits (b : Builder) : Prop :=
  ∀ column direction, b.order = some (column, direction) → column.isWritable = true

theorem writeHead_eq_ok {b : Builder} {words text : String} :
    b.writeHead words = .ok text ↔ b.table.isWritable = true ∧ text = words ++ b.table.display := by
  simp [writeHead, Value.writing_eq_ok]

theorem writeWhere_eq_ok {b : Builder} {text : String} :
    b.writeWhere = .ok text ↔
      (∀ c ∈ b.conditions, c.sql.isWritable = true) ∧ text = b.whereText := by
  simp [writeWhere, Value.writing_eq_ok]

theorem writeOrder_eq_ok {b : Builder} {text : String} :
    b.writeOrder = .ok text ↔ b.OrderFits ∧ text = b.orderText := by
  rw [writeOrder, Value.writing_eq_ok, OrderFits]
  rcases b.order with _ | ⟨column, direction⟩ <;> simp

theorem check_select {b : Builder} : b.check .select = .ok () ↔ b.misuse = none := by
  unfold check
  cases b.misuse with
  | none => simp [Kind.forbidden]
  | some m => simp

/-! ### Statements -/

def selectText (b : Builder) (names : List String) (limit offset : String) : String :=
  "SELECT " ++ ", ".intercalate names ++ " FROM " ++ b.table.display ++ b.scopeText ++
    spaced b.orderText ++ spaced limit ++ spaced offset

theorem assemble_select (b : Builder) (names : List String) (limit offset : String) :
    assemble (("SELECT " ++ ", ".intercalate names ++ " FROM " ++ b.table.display) ::
      b.joins ++ [b.whereText, b.orderText] ++ [limit, offset]) =
        b.selectText names limit offset := by
  have head : "SELECT " ++ ", ".intercalate names ++ " FROM " ++ b.table.display ≠ "" := by
    simp only [String.append_assoc]
    exact append_ne_empty (by decide) _
  simp only [List.cons_append, List.append_assoc]
  rw [assemble_cons head]
  delta selectText scopeText joinsText
  simp only [join_spaced_append, join_spaced_cons,
    join_spaced_nil, spaced_of_ne b.whereText_ne_empty, String.append_assoc, String.append_empty,
    String.empty_append]

theorem compileSelect_eq_ok {b : Builder} {fields : Value} {s : Statement} :
    b.compileSelect fields = .ok s ↔
      b.misuse = none ∧ b.ScopeFits ∧ b.OrderFits ∧ ∃ limit offset columns names,
        boundText "LIMIT" b.limit = .ok limit ∧ boundText "OFFSET" b.offset = .ok offset ∧
        b.columns fields = .ok columns ∧ columns.mapM Value.text? = .ok names ∧
        s = ⟨b.selectText names limit offset, Clause.allValues b.conditions, .select⟩ := by
  simp only [compileSelect, bind_eq_ok, pure_eq_ok, Except.ok.injEq, writeHead_eq_ok,
    writeWhere_eq_ok, writeOrder_eq_ok]
  constructor
  · rintro ⟨_, checked, _, ⟨ordered, rfl⟩, limit, hl, offset, ho, columns, hc, names, hn, _,
      ⟨table, rfl⟩, _, ⟨conditions, rfl⟩, rfl⟩
    refine ⟨check_select.mp checked, ⟨table, conditions⟩, ordered, limit, offset, columns, names,
      hl, ho, hc, hn, ?_⟩
    rw [assemble_select]
  · rintro ⟨valid, scope, ordered, limit, offset, columns, names, hl, ho, hc, hn, rfl⟩
    refine ⟨(), check_select.mpr valid, _, ⟨ordered, rfl⟩, limit, hl, offset, ho, columns, hc, names,
      hn, _, ⟨scope.table, rfl⟩, _, ⟨scope.conditions, rfl⟩, ?_⟩
    rw [assemble_select]

theorem boundText_eq_error {keyword : String} {bound : Option Nat} {f : Fault}
    (failed : boundText keyword bound = .error f) : f = .number .unwritable := by
  cases bound with
  | none => cases failed
  | some n => exact (Value.writing_eq_error.mp failed).1

/-- A builder that is valid and names its columns does not compile if something cannot be written. -/
theorem compileSelect_unwritable {b : Builder} {fields : Value} {columns : List Value}
    {names : List String} (valid : b.misuse = none) (chosen : b.columns fields = .ok columns)
    (named : columns.mapM Value.text? = .ok names)
    (unfit : ¬ (b.ScopeFits ∧ b.OrderFits ∧ b.BoundsFit)) :
    b.compileSelect fields = .error (.number .unwritable) := by
  cases compiled : b.compileSelect fields with
  | ok s =>
    obtain ⟨-, scope, order, limit, offset, -, -, limited, shifted, -⟩ :=
      compileSelect_eq_ok.mp compiled
    have bounds : b.BoundsFit := fun n bound =>
      bound.elim ((boundText_eq_ok.mp limited).1 n) ((boundText_eq_ok.mp shifted).1 n)
    exact (unfit ⟨scope, order, bounds⟩).elim
  | error f =>
    simp only [compileSelect, check_select.mpr valid, chosen, named, ok_bind, bind_eq_error,
      pure_eq_ok] at compiled
    congr 1
    rcases compiled with order | ⟨_, -, limit | ⟨_, -, offset | ⟨_, -, table | ⟨_, -, conditions |
      ⟨_, -, none⟩⟩⟩⟩⟩
    · exact (Value.writing_eq_error.mp order).1
    · exact boundText_eq_error limit
    · exact boundText_eq_error offset
    · exact (Value.writing_eq_error.mp table).1
    · exact (Value.writing_eq_error.mp conditions).1
    · cases none

theorem compileDelete_eq_ok {b : Builder} {s : Statement} :
    b.compileDelete = .ok s ↔
      b.check .delete = .ok () ∧ b.ScopeFits ∧
        s = ⟨"DELETE FROM " ++ b.table.display ++ b.scopeText, Clause.allValues b.conditions,
          .delete⟩ := by
  have head : "DELETE FROM " ++ b.table.display ≠ "" := append_ne_empty (by decide) _
  have text : assemble (("DELETE FROM " ++ b.table.display) :: b.joins ++ [b.whereText]) =
      "DELETE FROM " ++ b.table.display ++ b.scopeText := by
    rw [List.cons_append, assemble_cons head]
    delta scopeText joinsText
    simp only [join_spaced_append, join_spaced_cons, join_spaced_nil,
      spaced_of_ne b.whereText_ne_empty, String.append_assoc, String.append_empty]
  simp only [compileDelete, bind_eq_ok, pure_eq_ok, Except.ok.injEq, writeHead_eq_ok,
    writeWhere_eq_ok]
  constructor
  · rintro ⟨_, checked, _, ⟨table, rfl⟩, _, ⟨conditions, rfl⟩, rfl⟩
    refine ⟨checked, ⟨table, conditions⟩, ?_⟩
    rw [text]
  · rintro ⟨checked, scope, rfl⟩
    refine ⟨(), checked, _, ⟨scope.table, rfl⟩, _, ⟨scope.conditions, rfl⟩, ?_⟩
    rw [text]

/-- The names of a map are its keys, and its values are in the order of its keys. -/
theorem assignments_eq_ok {data : Value} {name : Value → Except Fault Value} {set : Clause} :
    assignments data name = .ok set ↔
      ∃ es names, data = .map es ∧ (es.map (·.1)).mapM name = .ok names ∧
        (∀ v ∈ names, v.isWritable = true) ∧
        set = ⟨.text (", ".intercalate (names.map fun c => c.display ++ "=?")), es.map (·.2)⟩ := by
  simp only [assignments, bind_eq_ok, Value.writing_eq_ok]
  constructor
  · rintro ⟨keys, read, names, named, text, ⟨writable, rfl⟩, done⟩
    cases data with
    | map es =>
      cases read
      exact ⟨es, names, rfl, named, writable, (Except.ok.inj done).symm⟩
    | _ => cases done
  · rintro ⟨es, names, rfl, named, writable, rfl⟩
    exact ⟨es.map (·.1), rfl, names, named, _, ⟨writable, rfl⟩, rfl⟩

theorem requireData_eq_ok {data : Value} {kind : Kind} :
    requireData data kind = .ok () ↔ data.truthy = true := by
  unfold requireData
  cases data.truthy <;> simp

def insertText (b : Builder) (set : String) (upsert : Bool) : String :=
  "INSERT INTO " ++ b.table.display ++ " SET " ++ set ++
    if upsert then " ON DUPLICATE KEY UPDATE " ++ set else ""

theorem compileInsert_eq_ok {b : Builder} {data upsert : Value} {s : Statement} :
    b.compileInsert data upsert = .ok s ↔
      b.check .insert = .ok () ∧ data.truthy = true ∧ b.table.isWritable = true ∧
        ∃ set, assignments data .ok = .ok set ∧
          s = ⟨b.insertText set.sql.display upsert.truthy,
            if upsert.truthy then set.values ++ set.values else set.values, .insert⟩ := by
  have once (set : Clause) : Clause.allValues [set] = set.values := by simp [Clause.allValues]
  have twice (set : Clause) : Clause.allValues [set, set] = set.values ++ set.values := by
    simp [Clause.allValues]
  simp only [compileInsert, bind_eq_ok, pure_eq_ok, once, twice, writeHead_eq_ok]
  delta insertText
  constructor
  · rintro ⟨_, checked, _, given, set, assigned, _, ⟨table, rfl⟩, done⟩
    refine ⟨checked, requireData_eq_ok.mp given, table, set, assigned, ?_⟩
    cases upserts : upsert.truthy with
    | false =>
      simp only [upserts, Bool.false_eq_true, if_false, String.append_empty] at done ⊢
      exact (Except.ok.inj done).symm
    | true =>
      simp only [upserts, if_true, String.append_assoc] at done ⊢
      exact (Except.ok.inj done).symm
  · rintro ⟨checked, given, table, set, assigned, rfl⟩
    refine ⟨(), checked, (), requireData_eq_ok.mpr given, set, assigned, _, ⟨table, rfl⟩, ?_⟩
    cases upsert.truthy with
    | false => simp only [Bool.false_eq_true, if_false, String.append_empty]
    | true => simp only [if_true, String.append_assoc]

def updateText (b : Builder) (set : String) : String :=
  "UPDATE " ++ b.table.display ++ b.joinsText ++ " SET " ++ set ++ " " ++ b.whereText

theorem compileUpdate_eq_ok {b : Builder} {data : Value} {s : Statement} :
    b.compileUpdate data = .ok s ↔
      b.check .update = .ok () ∧ data.truthy = true ∧ b.ScopeFits ∧
        ∃ set, assignments data (qualify b.table) = .ok set ∧
          s = ⟨b.updateText set.sql.display, set.values ++ Clause.allValues b.conditions,
            .update⟩ := by
  have head : "UPDATE " ++ b.table.display ≠ "" := append_ne_empty (by decide) _
  have text (set : String) : assemble
      (("UPDATE " ++ b.table.display) :: b.joins ++ ["SET " ++ set, b.whereText]) =
        b.updateText set := by
    rw [List.cons_append, assemble_cons head]
    have setPart : spaced ("SET " ++ set) = " SET " ++ set := by
      rw [spaced_of_ne (append_ne_empty (by decide) _), ← String.append_assoc]
      rfl
    delta updateText joinsText
    simp only [join_spaced_append, join_spaced_cons, join_spaced_nil,
      setPart, spaced_of_ne b.whereText_ne_empty, String.append_assoc, String.append_empty]
  have values (set : Clause) : Clause.allValues (set :: b.conditions) =
      set.values ++ Clause.allValues b.conditions := by simp [Clause.allValues]
  simp only [compileUpdate, bind_eq_ok, pure_eq_ok, Except.ok.injEq, values, writeHead_eq_ok,
    writeWhere_eq_ok]
  constructor
  · rintro ⟨_, checked, _, given, set, assigned, _, ⟨table, rfl⟩, _, ⟨conditions, rfl⟩, rfl⟩
    refine ⟨checked, requireData_eq_ok.mp given, ⟨table, conditions⟩, set, assigned, ?_⟩
    rw [text]
  · rintro ⟨checked, given, scope, set, assigned, rfl⟩
    refine ⟨(), checked, (), requireData_eq_ok.mpr given, set, assigned, _, ⟨scope.table, rfl⟩, _,
      ⟨scope.conditions, rfl⟩, ?_⟩
    rw [text]

end TableQuery.Builder

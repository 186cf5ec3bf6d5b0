import TableQuery.Proofs.Builder.Suffix
import TableQuery.Proofs.Placeholder.Lawful

/-!
# Values in the order of their placeholders

The statements that a plain builder compiles are sentences in which the clauses that were given to
it are laid out in order. So their placeholders are all of their question marks, and each takes the
value of its own clause: `compile_aligned` says so for the four kinds of statement, after any calls
with plain names. The assignments of an `UPDATE` come before its conditions, and an `INSERT` that
overwrites has its assignments twice.
-/

namespace TableQuery
open Sql

/-- A statement whose placeholders are its question marks and take, in turn, the values of the
clauses that are laid out in it. -/
structure Statement.Aligned (s : Statement) (given : List Clause) : Prop where
  places : Placeholder.spans s.sql = .ok ((questions s.sql).map Placeholder.span)
  accepted : Placeholder.align s.sql (.tuple s.values) = .ok s.values.length
  laid : Laid given s.sql
  values : s.values = Clause.allValues given
  placed : ∀ (i : Nat) (v : Value), s.values[i]? = some v →
    ∃ c ∈ given, ∃ (before after : String) (j p : Nat), s.sql = before ++ c.sql.display ++ after ∧
      c.values[j]? = some v ∧ (questions c.sql.display)[j]? = some p ∧
      (questions s.sql)[i]? = some (before.length + p)

theorem Statement.aligned {s : Statement} {given : List Clause}
    (sentence : Sentence false s.sql.toList) (laid : Laid given s.sql)
    (full : ∀ c ∈ given, c.Full) (values : s.values = Clause.allValues given) :
    s.Aligned given := by
  have places : Placeholder.spans s.sql = .ok ((questions s.sql).map Placeholder.span) := by
    rw [Placeholder.spans, tokens_lawful.places_sentence sentence]
    rfl
  have size : (Value.tuple s.values).size? = .ok s.values.length := rfl
  have count : (questions s.sql).length = s.values.length := by
    rw [laid.length_questions full, values]
  refine ⟨places, ?_, laid, values, fun i v bound => laid.placed full (values ▸ bound)⟩
  simp only [Placeholder.align, places, size, ok_bind, List.length_map, count, if_true, pure_eq_ok]

/-! ### Heads -/

/-- The words before the first name of a statement. -/
structure Heads (head : String) : Prop where
  unmarked : '?' ∉ head.toList
  sentence : ∀ cs, Sentence true cs → Sentence false (head.toList ++ cs)

/-- A head, an item without placeholders and a suffix make a statement. -/
theorem Heads.aligned {head item rest : String} {given : List Clause} {kind : Kind}
    (heads : Heads head) (first : Item item) (plain : '?' ∉ item.toList)
    (suffix : Suffix given rest) (full : ∀ c ∈ given, c.Full) :
    Statement.Aligned ⟨head ++ item ++ rest, Clause.allValues given, kind⟩ given := by
  have tail := suffix.tail [] .nil
  rw [List.append_nil] at tail
  refine Statement.aligned ?_ (suffix.laid.glue (by simp [heads.unmarked, plain])) full rfl
  show Sentence false (head ++ item ++ rest).toList
  rw [String.toList_append, String.toList_append, List.append_assoc]
  exact heads.sentence _ (first _ tail.itemStops tail.sentence)

theorem Heads.keyword {w : String} (known : w.toList ∈ keywords) : Heads (w ++ " ") := by
  refine ⟨?_, fun cs rest => ?_⟩
  · simpa using unmarked_keyword known
  · rw [String.toList_append, List.append_assoc]
    exact .word known rest

theorem Heads.more {head w : String} (heads : Heads head) (known : w.toList ∈ keywords) :
    Heads (head ++ w ++ " ") := by
  refine ⟨?_, fun cs rest => ?_⟩
  · simpa using ⟨heads.unmarked, unmarked_keyword known⟩
  · rw [String.toList_append, String.toList_append, List.append_assoc, List.append_assoc]
    exact heads.sentence _ (.word known rest)

theorem heads_select : Heads "SELECT " := .keyword (w := "SELECT") (by decide)

theorem heads_insert : Heads "INSERT INTO " :=
  (Heads.keyword (w := "INSERT") (by decide)).more (w := "INTO") (by decide)

theorem heads_update : Heads "UPDATE " := .keyword (w := "UPDATE") (by decide)

theorem heads_delete : Heads "DELETE FROM " :=
  (Heads.keyword (w := "DELETE") (by decide)).more (w := "FROM") (by decide)

/-! ### Full clauses -/

theorem length_questions_append (s t : String) :
    (questions (s ++ t)).length = (questions s).length + (questions t).length := by
  rw [questions_append, List.length_append, List.length_map]

theorem length_questions_path {p : String} (path : IsPath p.toList) : (questions p).length = 0 := by
  rw [questions_eq_nil path.unmarked]
  rfl

theorem length_questions_marks (values : List Value) :
    (questions (", ".intercalate (values.map fun _ => "?"))).length = values.length := by
  have behind : ∀ values : List Value,
      (questions (String.join ((values.map fun _ => "?").map (", " ++ ·)))).length =
        values.length := by
    intro values
    induction values with
    | nil => rfl
    | cons v values ih =>
      have one : (questions (", " ++ "?")).length = 1 := by decide
      rw [List.map_cons, List.map_cons, String.join_cons, length_questions_append, ih, one,
        List.length_cons, Nat.add_comm]
  cases values with
  | nil => rfl
  | cons v values =>
    have one : (questions "?").length = 1 := by decide
    rw [List.map_cons, Builder.intercalate_cons, length_questions_append, behind, one,
      List.length_cons, Nat.add_comm]

theorem Clause.Plain.full {c : Clause} (plain : c.Plain) : c.Full := by
  cases plain with
  | @comparison column operator value path known =>
    have unmarked : ∀ operator ∈ comparators, (questions operator).length = 0 := by decide
    have blank : (questions " ").length = 0 := by decide
    have mark : (questions " ?").length = 1 := by decide
    simp only [Clause.Full, Builder.comparison, Value.display_text, length_questions_append,
      length_questions_path path.display, unmarked operator known, blank, mark]
    rfl
  | @membership column values path =>
    have opening : (questions " IN (").length = 0 := by decide
    have closing : (questions ")").length = 0 := by decide
    simp only [Clause.Full, Builder.membership, Value.display_text, length_questions_append,
      length_questions_path path.display, length_questions_marks, opening, closing]
    omega

/-! ### Assignments -/

def assignment (column value : Value) : Clause := ⟨.text (column.display ++ "=?"), [value]⟩

/-- The assignments that the entries of a map make, under the names that the columns go by. -/
def assigned (name : Value → Except Fault Value) (es : List (Value × Value)) : List Clause :=
  es.filterMap fun e => (name e.1).toOption.map fun column => assignment column e.2

theorem full_assignment {column : Value} (value : Value) (path : column.IsPath) :
    (assignment column value).Full := by
  have mark : (questions "=?").length = 1 := by decide
  simp only [Clause.Full, assignment, Value.display_text, length_questions_append,
    length_questions_path path.display, mark]
  rfl

theorem mem_assigned {name : Value → Except Fault Value} {es : List (Value × Value)} {c : Clause}
    (named : ∀ e ∈ es, ∃ column, name e.1 = .ok column ∧ column.IsPath)
    (member : c ∈ assigned name es) : ∃ column value, column.IsPath ∧ c = assignment column value := by
  obtain ⟨e, present, made⟩ := List.mem_filterMap.mp member
  obtain ⟨column, read, path⟩ := named e present
  rw [read] at made
  exact ⟨column, e.2, path, (Option.some.inj made).symm⟩

/-- The text and the values that a builder makes of a map are those of its assignments. -/
theorem assigned_eq {name : Value → Except Fault Value} {es : List (Value × Value)}
    {names : List Value} (read : (es.map (·.1)).mapM name = .ok names) :
    (names.map fun c => c.display ++ "=?") = (assigned name es).map (·.sql.display) ∧
      es.map (·.2) = Clause.allValues (assigned name es) := by
  induction es generalizing names with
  | nil =>
    cases read
    exact ⟨rfl, rfl⟩
  | cons e es ih =>
    rw [List.map_cons, List.mapM_cons] at read
    obtain ⟨column, named, read⟩ := bind_eq_ok.mp read
    obtain ⟨rest, others, read⟩ := bind_eq_ok.mp read
    cases read
    obtain ⟨texts, values⟩ := ih others
    have first : assigned name (e :: es) = assignment column e.2 :: assigned name es := by
      rw [assigned, List.filterMap_cons, named]
      rfl
    rw [first, List.map_cons, List.map_cons, List.map_cons, texts, values]
    exact ⟨rfl, rfl⟩

theorem Opens.assignments {o : String} (opens : Opens o) {cs : List Clause}
    (each : ∀ c ∈ cs, ∃ column value, column.IsPath ∧ c = assignment column value) :
    Suffix cs (o ++ ", ".intercalate (cs.map (·.sql.display))) := by
  have laid : ∀ (cs : List Clause) (glue : String), '?' ∉ glue.toList →
      Laid cs (glue ++ ", ".intercalate (cs.map (·.sql.display))) := by
    intro cs
    induction cs with
    | nil => exact fun glue plain => .nil (by simpa using plain)
    | cons c cs ih =>
      intro glue plain
      cases cs with
      | nil =>
        have last : Laid [c] (glue ++ c.sql.display ++ "") := .cons plain (.nil (by decide))
        simpa using last
      | cons d ds =>
        have text : glue ++ ", ".intercalate ((c :: d :: ds).map (·.sql.display)) =
            glue ++ c.sql.display ++ (", " ++ ", ".intercalate ((d :: ds).map (·.sql.display))) := by
          rw [List.map_cons, List.map_cons, String.intercalate_cons_cons]
          simp only [String.append_assoc]
        rw [text]
        exact .cons plain (ih ", " (by decide))
  refine ⟨laid cs o opens.unmarked, fun rest tail => ?_⟩
  rw [String.toList_append, List.append_assoc]
  refine opens.tail _ (Item.intercalate (fun t member => ?_) rest tail.itemStops tail.sentence)
  obtain ⟨c, present, rfl⟩ := List.mem_map.mp member
  obtain ⟨column, value, path, rfl⟩ := each c present
  exact item_assign path.display

/-! ### Statements -/

namespace Builder

theorem unmarked_intercalate {items : List String} (plain : ∀ t ∈ items, '?' ∉ t.toList) :
    '?' ∉ (", ".intercalate items).toList := by
  induction items with
  | nil => decide
  | cons t items ih =>
    have others := ih fun u member => plain u (List.mem_cons_of_mem _ member)
    cases items with
    | nil => simpa using plain
    | cons u items =>
      rw [String.intercalate_cons_cons, String.toList_append, String.toList_append,
        List.mem_append, List.mem_append]
      rintro ((first | comma) | rest)
      · exact plain t List.mem_cons_self first
      · exact absurd comma (by decide)
      · exact others rest

theorem mapM_text?_inv {columns : List Value} {names : List String}
    (read : columns.mapM Value.text? = .ok names) : columns = names.map .text := by
  induction columns generalizing names with
  | nil =>
    cases read
    rfl
  | cons v columns ih =>
    rw [List.mapM_cons] at read
    obtain ⟨t, first, read⟩ := bind_eq_ok.mp read
    obtain ⟨rest, others, read⟩ := bind_eq_ok.mp read
    cases read
    cases v with
    | text s =>
      cases first
      rw [ih others]
      rfl
    | _ => cases first

theorem columns_plain {b : Builder} (plain : b.Plain) {fields : Value}
    (paths : ∀ columns, fields.items? = .ok columns → ∀ v ∈ columns, v.IsPath)
    {columns : List Value} (chosen : b.columns fields = .ok columns) {t : String}
    (member : .text t ∈ columns) : IsPath t.toList ∨ t = "*" := by
  unfold Builder.columns at chosen
  split at chosen
  · exact .inl (paths columns chosen _ member)
  · cases chosen
    cases selected : b.selection with
    | none =>
      rw [selected] at member
      cases List.mem_singleton.mp member
      exact .inr rfl
    | some columns =>
      rw [selected] at member
      exact .inl (plain.selection columns selected _ member)

theorem from_suffix {b : Builder} (plain : b.Plain) :
    Suffix b.conditions (" FROM " ++ b.table.display ++ b.scopeText) := by
  have opens : Opens " FROM " := .keyword (w := "FROM") (by decide)
  exact (opens.path plain.table.display).append (scope_suffix plain)

theorem compileSelect_aligned {b : Builder} (plain : b.Plain) {fields : Value}
    (paths : ∀ columns, fields.items? = .ok columns → ∀ v ∈ columns, v.IsPath) {s : Statement}
    (compiled : b.compileSelect fields = .ok s) : s.Aligned b.conditions := by
  obtain ⟨-, -, -, limit, offset, columns, names, limited, shifted, chosen, named, rfl⟩ :=
    compileSelect_eq_ok.mp compiled
  -- What is selected stands before all clauses, so it must not hold a question mark.
  have items : ∀ t ∈ names, Item t ∧ '?' ∉ t.toList := by
    intro t member
    have column : Value.text t ∈ columns := by
      rw [mapM_text?_inv named]
      exact List.mem_map_of_mem member
    rcases columns_plain plain paths chosen column with path | rfl
    · exact ⟨path.item, path.unmarked⟩
    · exact ⟨item_star, by decide⟩
  have rest := (((from_suffix plain).append_none (order_suffix plain)).append_none
    (bound_suffix (.inl rfl) limited)).append_none (bound_suffix (.inr rfl) shifted)
  have aligned : Statement.Aligned ⟨_, _, .select⟩ b.conditions :=
    heads_select.aligned (.intercalate fun t member => (items t member).1)
      (unmarked_intercalate fun t member => (items t member).2) rest
      fun c member => (plain.conditions c member).full
  have text : b.selectText names limit offset = "SELECT " ++ ", ".intercalate names ++
      (" FROM " ++ b.table.display ++ b.scopeText ++ spaced b.orderText ++ spaced limit ++
        spaced offset) := by
    delta selectText
    simp only [String.append_assoc]
  rw [text]
  exact aligned

theorem compileDelete_aligned {b : Builder} (plain : b.Plain) {s : Statement}
    (compiled : b.compileDelete = .ok s) : s.Aligned b.conditions := by
  obtain ⟨-, -, rfl⟩ := compileDelete_eq_ok.mp compiled
  exact heads_delete.aligned plain.table.display.item plain.table.display.unmarked
    (scope_suffix plain) fun c member => (plain.conditions c member).full

theorem set_suffix {name : Value → Except Fault Value} {es : List (Value × Value)}
    (named : ∀ e ∈ es, ∃ column, name e.1 = .ok column ∧ column.IsPath) {set : Clause}
    (made : assignments (.map es) name = .ok set) :
    Suffix (assigned name es) (" SET " ++ set.sql.display) ∧
      Suffix (assigned name es) (" ON DUPLICATE KEY UPDATE " ++ set.sql.display) ∧
      set.values = Clause.allValues (assigned name es) ∧ ∀ c ∈ assigned name es, c.Full := by
  obtain ⟨_, names, same, read, -, rfl⟩ := assignments_eq_ok.mp made
  obtain rfl : es = _ := Value.map.inj same
  obtain ⟨texts, values⟩ := assigned_eq read
  have set : Opens " SET " := .keyword (w := "SET") (by decide)
  have overwrite : Opens " ON DUPLICATE KEY UPDATE " :=
    (((Opens.keyword (w := "ON") (by decide)).more (w := "DUPLICATE") (by decide)).more
      (w := "KEY") (by decide)).more (w := "UPDATE") (by decide)
  have each := fun c member => mem_assigned (c := c) named member
  rw [texts]
  refine ⟨set.assignments each, overwrite.assignments each, values, fun c member => ?_⟩
  obtain ⟨column, value, path, rfl⟩ := each c member
  exact full_assignment value path

theorem compileInsert_aligned {b : Builder} (plain : b.Plain) {data : List (Value × Value)}
    (keys : ∀ e ∈ data, e.1.IsPath) {upsert : Value} {s : Statement}
    (compiled : b.compileInsert (.map data) upsert = .ok s) :
    s.Aligned (if upsert.truthy then assigned .ok data ++ assigned .ok data
      else assigned .ok data) := by
  obtain ⟨-, -, -, set, made, rfl⟩ := compileInsert_eq_ok.mp compiled
  obtain ⟨sets, overwrites, values, full⟩ :=
    set_suffix (fun e member => ⟨e.1, rfl, keys e member⟩) made
  have path := plain.table.display
  delta insertText
  cases upsert.truthy with
  | false =>
    simp only [Bool.false_eq_true, if_false, String.append_empty, values]
    rw [String.append_assoc]
    exact heads_insert.aligned path.item path.unmarked sets full
  | true =>
    simp only [if_true, values, ← Clause.allValues_append]
    have text : "INSERT INTO " ++ b.table.display ++ " SET " ++ set.sql.display ++
        (" ON DUPLICATE KEY UPDATE " ++ set.sql.display) = "INSERT INTO " ++ b.table.display ++
          (" SET " ++ set.sql.display ++ (" ON DUPLICATE KEY UPDATE " ++ set.sql.display)) := by
      simp only [String.append_assoc]
    rw [text]
    refine heads_insert.aligned path.item path.unmarked (sets.append overwrites) fun c member => ?_
    exact (List.mem_append.mp member).elim (full c) (full c)

theorem compileUpdate_aligned {b : Builder} (plain : b.Plain) {data : List (Value × Value)}
    (keys : ∀ e ∈ data, e.1.IsPath) {s : Statement}
    (compiled : b.compileUpdate (.map data) = .ok s) :
    s.Aligned (assigned (qualify b.table) data ++ b.conditions) := by
  obtain ⟨-, -, -, set, made, rfl⟩ := compileUpdate_eq_ok.mp compiled
  obtain ⟨sets, -, values, full⟩ :=
    set_suffix (fun e member => qualify_path plain.table (keys e member)) made
  have path := plain.table.display
  have rest := (joins_suffix plain).append (sets.append (where_suffix plain.conditions))
  have text : b.updateText set.sql.display = "UPDATE " ++ b.table.display ++
      (b.joinsText ++ (" SET " ++ set.sql.display ++ (" " ++ b.whereText))) := by
    delta updateText
    simp only [String.append_assoc]
  rw [text, values, ← Clause.allValues_append]
  refine heads_update.aligned path.item path.unmarked rest fun c member => ?_
  rcases List.mem_append.mp member with assigned | condition
  · exact full c assigned
  · exact (plain.conditions c condition).full

/-- However a builder with a plain table is called with plain names, the statements that it compiles
bind the values of the calls, and of the map that is written, to the placeholders of their own
clauses. -/
theorem compile_aligned {table : Value} {calls : List ClauseCall} (path : table.IsPath)
    (plain : ∀ c ∈ calls, c.Plain) :
    let b : Builder := ({ table } : Builder).attemptAll calls
    let conditions := calls.filterMap (·.condition? table)
    (∀ fields s, (∀ columns, fields.items? = .ok columns → ∀ v ∈ columns, v.IsPath) →
      b.compileSelect fields = .ok s → s.Aligned conditions) ∧
    (∀ data upsert s, (∀ e ∈ data, e.1.IsPath) → b.compileInsert (.map data) upsert = .ok s →
      s.Aligned (if upsert.truthy then assigned .ok data ++ assigned .ok data
        else assigned .ok data)) ∧
    (∀ data s, (∀ e ∈ data, e.1.IsPath) → b.compileUpdate (.map data) = .ok s →
      s.Aligned (assigned (qualify table) data ++ conditions)) ∧
    (∀ s, b.compileDelete = .ok s → s.Aligned conditions) := by
  intro b conditions
  have fresh : Plain { table } := ⟨path, nofun, nofun, nofun, nofun⟩
  have reached := attemptAll_extends fresh plain
  have same : b.conditions = conditions := reached.conditions
  have named : b.table = table := reached.table
  rw [← same, ← named]
  exact ⟨fun _ _ paths compiled => compileSelect_aligned reached.plain paths compiled,
    fun _ _ _ keys compiled => compileInsert_aligned reached.plain keys compiled,
    fun _ _ keys compiled => compileUpdate_aligned reached.plain keys compiled,
    fun _ compiled => compileDelete_aligned reached.plain compiled⟩

theorem compile_aligned_start :
    let calls : List ClauseCall :=
      [.join .left (.text "lock") (.text "tables") (.text "begin") (.text "<=>"),
        .matching (.text "call") (.text " LIKE ") (.text "a?"),
        .among (.text "lock.begin") (.list [.int 1, .none])]
    let b : Builder := ({ table := .text "start" } : Builder).attemptAll calls
    let s : Statement :=
      ⟨"UPDATE start LEFT JOIN lock ON start.tables <=> lock.begin SET start.replace=? " ++
          "WHERE 1 AND start.call LIKE ? AND lock.begin IN (?, ?)",
        [.int 7, .text "a?", .int 1, .none], .update⟩
    b.compileUpdate (.map [(.text "replace", .int 7)]) = .ok s ∧
      s.Aligned [assignment (.text "start.replace") (.int 7),
        comparison (.text "start.call") "LIKE" (.text "a?"),
        membership (.text "lock.begin") [.int 1, .none]] := by
  intro calls b s
  have path {t : String} (named : isName t.toList = true) : (Value.text t).IsPath := .name named
  have plain : ∀ c ∈ calls, c.Plain := by
    refine List.forall_mem_cons.mpr ⟨⟨path (by decide), path (by decide), path (by decide), ?_⟩, ?_⟩
    · decide
    refine List.forall_mem_cons.mpr ⟨⟨path (by decide), ?_⟩, ?_⟩
    · show Text.strip " LIKE " ∈ comparators
      decide
    refine List.forall_mem_cons.mpr ⟨?_, nofun⟩
    exact .point (by decide : isName "lock".toList = true)
      (.name (by decide : isName "begin".toList = true))
  have built : b.compileUpdate (.map [(.text "replace", .int 7)]) = .ok s := rfl
  obtain ⟨-, -, update, -⟩ := compile_aligned (path (t := "start") (by decide)) plain
  refine ⟨built, update _ s (fun e member => ?_) built⟩
  cases List.mem_singleton.mp member
  exact path (by decide)

end Builder

end TableQuery

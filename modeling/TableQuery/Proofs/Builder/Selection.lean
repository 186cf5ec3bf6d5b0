import TableQuery.Proofs.Builder.Alignment
import TableQuery.Proofs.Builder.Pagination
import TableQuery.Proofs.Session.Bounds
import TableQuery.Proofs.Statement.Grammar

/-!
# Selections that a server accepts

A plain builder compiles into a selection that the grammar derives, but for its bounds: limit and
offset are set apart from each other, and an offset is written whether there is a limit or not.
`compileSelect_derived` is the main statement: the grammar derives what a builder compiles if and
only if the builder has no offset without a limit.
-/

namespace TableQuery

/-- A list of values that is not empty, where one is asked for. -/
def ClauseCall.Filled : ClauseCall → Prop
  | .among _ values => (values.orElse (.tuple [])).items? ≠ .ok []
  | _ => True

/-- Columns that are paths, where some are asked for. -/
def Value.ListsPaths (fields : Value) : Prop :=
  fields.truthy = true → ∃ columns, fields.items? = .ok columns ∧ ∀ v ∈ columns, v.IsPath

/-- A value that counts as given has items, if it has a list of them. -/
theorem Value.items?_ne_nil {v : Value} {vs : List Value} (given : v.truthy = true)
    (read : v.items? = .ok vs) : vs ≠ [] := by
  cases v with
  | text s =>
    cases read
    simpa [truthy] using given
  | bytes bs | list bs | tuple bs | map bs =>
    cases read
    simpa [truthy] using given
  | _ => cases read

namespace Builder
open Grammar

variable {b : Builder}

theorem join_derived {text : String} (table : b.table.IsPath) (joined : b.IsJoin text) :
    Grammar.Join text ∧ spaced text = " " ++ text := by
  obtain ⟨side, other, localField, remoteField, operator, path, path', path'', known, rfl⟩ := joined
  refine ⟨?_, spaced_of_ne (b.joinText_ne_empty side other localField remoteField operator)⟩
  have text : b.joinText side other localField remoteField operator =
      side.keyword ++ " JOIN " ++ other.display ++ " ON " ++
        (b.table.display ++ "." ++ localField.display) ++ " " ++
        (operator.orElse (.text "=")).display ++ " " ++
        (other.display ++ "." ++ remoteField.display) := by
    simp only [joinText, String.append_assoc]
  rw [text]
  exact .on side path.display (table.display.dotted path'.display) known
    (path.display.dotted path''.display)

theorem condition_derived {table : Value} {call : ClauseCall} {c : Clause} (path : table.IsPath)
    (plain : call.Plain) (filled : call.Filled) (asked : call.condition? table = some c) :
    Grammar.Condition c.sql.display := by
  have compared {column : Value} {operator : String} (value : Value) (path : column.IsPath)
      (known : operator ∈ comparators) :
      Grammar.Condition (comparison column operator value).sql.display :=
    .comparison path.display known
  cases call with
  | matching field operator value =>
    obtain ⟨column, qualified, path'⟩ := qualify_path path plain.1
    simp only [ClauseCall.condition?, qualified] at asked
    cases asked
    exact compared value path' plain.2.display
  | like field value =>
    obtain ⟨column, qualified, path'⟩ := qualify_path path plain
    simp only [ClauseCall.condition?, qualified] at asked
    cases asked
    exact compared value path' (by decide)
  | among field values =>
    obtain ⟨column, qualified, path'⟩ := qualify_path path plain
    simp only [ClauseCall.condition?, qualified] at asked
    cases read : (values.orElse (.tuple [])).items? with
    | error f =>
      rw [read] at asked
      cases asked
    | ok vs =>
      rw [read] at asked
      cases asked
      have some : vs ≠ [] := fun empty => filled (read.trans (congrArg _ empty))
      obtain ⟨v, more, rfl⟩ := List.exists_cons_of_ne_nil some
      have marks : (v :: more).map (fun _ => "?") = List.replicate (more.length + 1) "?" := by
        rw [List.map_const', List.length_cons]
      unfold membership
      rw [marks]
      exact .membership path'.display more.length
  | _ => cases asked

theorem names_derived {columns : List Value} (some : columns ≠ []) (paths : ∀ v ∈ columns, v.IsPath)
    {names : List String} (named : columns.mapM Value.text? = .ok names) :
    Columns (", ".intercalate names) := by
  obtain rfl := mapM_text?_inv named
  refine .named (fun empty => some (by rw [empty]; rfl)) fun name member => ?_
  exact paths (.text name) (List.mem_map_of_mem member)

theorem columns_derived {fields : Value} (plain : b.Plain) (chosen : b.selection ≠ some [])
    (listed : fields.ListsPaths) {columns : List Value} (read : b.columns fields = .ok columns)
    {names : List String} (named : columns.mapM Value.text? = .ok names) :
    Columns (", ".intercalate names) := by
  unfold Builder.columns at read
  split at read
  · rename_i given
    obtain ⟨columns', read', paths⟩ := listed given
    obtain rfl := Except.ok.inj (read'.symm.trans read)
    exact names_derived (Value.items?_ne_nil given read) paths named
  · cases read
    cases selected : b.selection with
    | none =>
      rw [selected] at named
      cases named
      exact .all
    | some columns =>
      rw [selected] at chosen named
      exact names_derived (fun empty => chosen (congrArg some empty))
        (plain.selection columns selected) named

theorem order_derived (plain : b.Plain) : Grammar.Order (spaced b.orderText) := by
  unfold orderText
  split
  · rename_i column direction ordered
    have filled : "ORDER BY " ++ column.display ++ " " ++ direction.keyword ≠ "" := by
      simp only [String.append_assoc]
      exact append_ne_empty (by decide) _
    rw [spaced_of_ne filled]
    have text : " " ++ ("ORDER BY " ++ column.display ++ " " ++ direction.keyword) =
        " ORDER BY " ++ column.display ++ " " ++ direction.keyword := by
      simp only [← String.append_assoc]
      rfl
    rw [text]
    exact .sorted (plain.order column direction ordered).display direction
  · exact .none

theorem body_derived (plain : b.Plain)
    (tested : ∀ c ∈ b.conditions, Grammar.Condition c.sql.display) {names : List String}
    (listed : Columns (", ".intercalate names)) :
    Body ("SELECT " ++ ", ".intercalate names ++ " FROM " ++ b.table.display ++ b.scopeText ++
      spaced b.orderText) := by
  have joined : ∀ t ∈ b.joins, Grammar.Join t ∧ spaced t = " " ++ t :=
    fun t member => join_derived plain.table (plain.joins t member)
  have joins : b.joinsText = String.join (b.joins.map (" " ++ ·)) :=
    congrArg String.join (List.map_congr_left fun t member => (joined t member).2)
  have conditions : " " ++ b.whereText =
      " WHERE 1" ++ String.join ((b.conditions.map fun c => c.sql.display).map (" AND " ++ ·)) := by
    rw [whereText_join, List.map_map, ← String.append_assoc]
    rfl
  have scope : b.scopeText = String.join (b.joins.map (" " ++ ·)) ++ " WHERE 1" ++
      String.join ((b.conditions.map fun c => c.sql.display).map (" AND " ++ ·)) := by
    rw [scopeText, String.append_assoc, conditions, joins, ← String.append_assoc]
  have text : "SELECT " ++ ", ".intercalate names ++ " FROM " ++ b.table.display ++ b.scopeText ++
      spaced b.orderText = "SELECT " ++ ", ".intercalate names ++ " FROM " ++ b.table.display ++
        String.join (b.joins.map (" " ++ ·)) ++ " WHERE 1" ++
        String.join ((b.conditions.map fun c => c.sql.display).map (" AND " ++ ·)) ++
        spaced b.orderText := by
    rw [scope]
    simp only [String.append_assoc]
  rw [text]
  refine .select listed plain.table.display (fun t member => (joined t member).1) (fun t member => ?_)
    (order_derived plain)
  obtain ⟨c, there, rfl⟩ := List.mem_map.mp member
  exact tested c there

/-- Bounds behind a body make a selection unless the offset stands alone. -/
theorem bounded_iff {body limit offset : String} (derived : Body body)
    (limited : BoundTail "LIMIT" b.limit limit) (shifted : BoundTail "OFFSET" b.offset offset) :
    Selection (body ++ limit ++ offset) ↔ (b.offset ≠ none → b.limit ≠ none) := by
  cases hl : b.limit with
  | none =>
    rw [hl] at limited
    obtain rfl : limit = "" := limited
    rw [String.append_empty]
    cases ho : b.offset with
    | none =>
      rw [ho] at shifted
      obtain rfl : offset = "" := shifted
      exact ⟨fun _ never => never, fun _ => .bounded derived .none⟩
    | some m =>
      rw [ho] at shifted
      obtain ⟨digits, number, rfl⟩ := shifted
      have alone : ¬ Selection (body ++ (" " ++ "OFFSET" ++ " " ++ digits)) := by
        have other := not_selection_offset derived number
        rwa [String.append_assoc] at other
      exact ⟨fun selection => (alone selection).elim, fun both => (both nofun rfl).elim⟩
  | some n =>
    rw [hl] at limited
    obtain ⟨digits, number, rfl⟩ := limited
    refine ⟨fun _ _ => nofun, fun _ => ?_⟩
    rw [String.append_assoc]
    cases ho : b.offset with
    | none =>
      rw [ho] at shifted
      obtain rfl : offset = "" := shifted
      rw [String.append_empty]
      exact .bounded derived (.limit number)
    | some m =>
      rw [ho] at shifted
      obtain ⟨digits', number', rfl⟩ := shifted
      have text : " " ++ "LIMIT" ++ " " ++ digits ++ (" " ++ "OFFSET" ++ " " ++ digits') =
          " LIMIT " ++ digits ++ " OFFSET " ++ digits' := by
        have words : " OFFSET " = " " ++ "OFFSET" ++ " " := rfl
        rw [words]
        simp only [← String.append_assoc]
        rfl
      rw [text]
      exact .bounded derived (.offset number number')

theorem columns_return (plain : b.Plain) {fields : Value} (listed : fields.ListsPaths) :
    ∃ columns names, b.columns fields = .ok columns ∧ columns.mapM Value.text? = .ok names := by
  have texts {columns : List Value} (paths : ∀ v ∈ columns, v.IsPath) :
      ∃ names, columns.mapM Value.text? = .ok names :=
    mapM_text?_eq_ok fun v member => (paths v member).exists_text.imp fun _ => And.left
  unfold Builder.columns
  split
  · rename_i given
    obtain ⟨columns, read, paths⟩ := listed given
    obtain ⟨names, named⟩ := texts paths
    exact ⟨columns, names, read, named⟩
  · cases selected : b.selection with
    | none => exact ⟨_, ["*"], rfl, rfl⟩
    | some columns =>
      obtain ⟨names, named⟩ := texts (plain.selection columns selected)
      exact ⟨columns, names, rfl, named⟩

theorem Plain.scopeFits (plain : b.Plain) : b.ScopeFits := by
  refine ⟨plain.table.isWritable, fun c member => ?_⟩
  cases plain.conditions c member <;> rfl

theorem Plain.orderFits (plain : b.Plain) : b.OrderFits :=
  fun column direction ordered => (plain.order column direction ordered).isWritable

/-- However a builder with a plain table is called with plain names, it compiles into a selection
that the grammar derives, unless it is not valid, a bound has too many digits or it has an offset
without a limit. -/
theorem compileSelect_derived {table : Value} {calls : List ClauseCall} (path : table.IsPath)
    (plain : ∀ c ∈ calls, c.Plain) (filled : ∀ c ∈ calls, c.Filled) :
    let b := ({ table } : Builder).attemptAll calls
    b.isValid = true → ∀ fields : Value, fields.ListsPaths →
      ((∃ s, b.compileSelect fields = .ok s) ↔ b.BoundsFit) ∧
      ∀ s, b.compileSelect fields = .ok s →
        (Selection s.sql ↔ (b.offset ≠ none → b.limit ≠ none)) := by
  intro b valid fields listed
  have fresh : Plain { table } := ⟨path, nofun, nofun, nofun, nofun⟩
  have reached := attemptAll_extends fresh plain
  have chosen : b.selection ≠ some [] := attemptAll_selection calls nofun
  refine ⟨?_, fun s compiled => ?_⟩
  · rw [compileSelect_returns]
    exact ⟨fun returns => returns.2.1, fun fits => ⟨valid, fits, reached.plain.scopeFits,
      reached.plain.orderFits, columns_return reached.plain listed⟩⟩
  obtain ⟨-, -, -, limit, offset, columns, names, limited, shifted, read, named, rfl⟩ :=
    compileSelect_eq_ok.mp compiled
  have tested : ∀ c ∈ b.conditions, Grammar.Condition c.sql.display := by
    intro c member
    rw [reached.conditions] at member
    obtain ⟨call, made, asked⟩ := List.mem_filterMap.mp member
    exact condition_derived path (plain call made) (filled call made) asked
  have columned := columns_derived reached.plain chosen listed read named
  exact bounded_iff (body_derived reached.plain tested columned)
    (boundTail_boundText (by decide) limited) (boundTail_boundText (by decide) shifted)

theorem compileSelect_derived_second_five :
    let calls : List ClauseCall :=
      [.only (.list [.text "users.id", .text "name"]),
        .join .left (.text "orders") (.text "id") (.text "user_id") .none,
        .matching (.text "age") (.text ">=") (.int 18),
        .among (.text "orders.state") (.list [.text "paid", .none]),
        .orderBy (.text "name") (.text "desc"), .offset (.int 5), .limit (.int 5)]
    let b := ({ table := .text "users" } : Builder).attemptAll calls
    let sql := "SELECT users.id, name FROM users LEFT JOIN orders ON users.id = orders.user_id " ++
      "WHERE 1 AND users.age >= ? AND orders.state IN (?, ?) ORDER BY users.name DESC " ++
      "LIMIT 5 OFFSET 5"
    b.isValid = true ∧ ∃ s, b.compileSelect .none = .ok s ∧ s.sql = sql ∧ Selection s.sql := by
  intro calls b sql
  have path {t : String} (named : Sql.isName t.toList = true) : (Value.text t).IsPath := .name named
  have dotted {t u : String} (named : Sql.isName t.toList = true)
      (named' : Sql.isName u.toList = true) : Sql.IsPath (t.toList ++ '.' :: u.toList) :=
    .point named (.name named')
  have plain : ∀ c ∈ calls, c.Plain := by
    refine List.forall_mem_cons.mpr ⟨?_, List.forall_mem_cons.mpr ⟨?_, List.forall_mem_cons.mpr ⟨?_,
      List.forall_mem_cons.mpr ⟨?_, List.forall_mem_cons.mpr ⟨path (by decide), ?_⟩⟩⟩⟩⟩
    · intro columns selected
      cases selected
      refine List.forall_mem_cons.mpr ⟨dotted (t := "users") (u := "id") (by decide) (by decide), ?_⟩
      exact List.forall_mem_singleton.mpr (path (by decide))
    · exact ⟨path (by decide), path (by decide), path (by decide), by decide⟩
    · refine ⟨path (by decide), ?_⟩
      show Text.strip ">=" ∈ comparators
      decide
    · exact dotted (t := "orders") (u := "state") (by decide) (by decide)
    · simp [ClauseCall.Plain]
  have filled : ∀ c ∈ calls, c.Filled := by
    simp [calls, ClauseCall.Filled, Value.orElse, Value.truthy, Value.items?]
  have users : (Value.text "users").IsPath := path (by decide)
  obtain ⟨-, derived⟩ := compileSelect_derived users plain filled rfl .none fun given =>
    (Bool.false_ne_true given).elim
  have built : (b.compileSelect .none).toOption.map (·.sql) = some sql := by decide +kernel
  obtain ⟨s, compiled, text⟩ := Option.map_eq_some_iff.mp built
  replace compiled := toOption_eq_some.mp compiled
  exact ⟨rfl, s, compiled, text, (derived s compiled).mpr fun _ => Option.some_ne_none _⟩

/-- An offset alone is accepted, and written alone. -/
theorem compileSelect_derived_alone :
    let b := ({ table := .text "t" } : Builder).attempt (.offset (.int 5))
    let sql := "SELECT * FROM t WHERE 1 OFFSET 5"
    b.isValid = true ∧ ∃ s, b.compileSelect .none = .ok s ∧ s.sql = sql ∧ ¬ Selection s.sql := by
  intro b sql
  have built : (b.compileSelect .none).toOption.map (·.sql) = some sql := by decide +kernel
  obtain ⟨s, compiled, text⟩ := Option.map_eq_some_iff.mp built
  refine ⟨rfl, s, toOption_eq_some.mp compiled, text, ?_⟩
  have body : Body "SELECT * FROM t WHERE 1" :=
    @Body.select _ "t" _ [] [] .all (.name (by decide : Sql.isName "t".toList = true)) nofun nofun
      .none
  rw [text]
  exact not_selection_offset body (numeral_decimal 5)

end Builder

end TableQuery

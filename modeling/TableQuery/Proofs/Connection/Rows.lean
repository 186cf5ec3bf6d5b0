import Mathlib.Data.List.Forall2
import TableQuery.Proofs.Connection.Alone
import TableQuery.Proofs.Value.Distinct

/-!
# Rows

A statement that returns rows comes to a map for each of them, in order. A map holds every name of
a column once, with the value of the last column of that name (`rowMap_maps`). So where columns have
equal names, as in a join of two tables, values are lost unless they are equal too. `run_maps_rows`
is the main statement.
-/

namespace TableQuery

/-- A row has one value for each column. -/
def Fits (columns : List String) (row : Value) : Prop :=
  ∃ values, row.items? = .ok values ∧ values.length = columns.length

/-- What is left of the values of a row under the names of its columns. All values can be read back
exactly when equal names have equal values. -/
structure Maps (columns : List String) (values : List Value) (entries : List (Value × Value)) :
    Prop where
  keys : entries.map Prod.fst = columns.eraseDups.map Value.text
  last : ∀ name, Value.lookup? (.text name) entries = (columns.zip values).reverse.lookup name
  each : entries.length = columns.length ↔ columns.Nodup
  whole : columns.Nodup → entries = (columns.map Value.text).zip values
  back : (∀ (i : Nat) name v, columns[i]? = some name → values[i]? = some v →
      Value.lookup? (.text name) entries = some v) ↔
    ∀ i j : Nat, columns[i]? = columns[j]? → values[i]? = values[j]?

/-- The map of a row. -/
def RowMaps (columns : List String) (row m : Value) : Prop :=
  ∃ values entries, row.items? = .ok values ∧ m = .map entries ∧ Maps columns values entries

section

variable {columns : List String} {values : List Value} {row : Value} {rows : List Value}

theorem keyed_zip (columns : List String) (values : List Value) :
    (columns.map Value.text).zip values = Value.keyed (columns.zip values) :=
  List.zip_map_left

theorem lookup_zip_some {name : String} {v : Value}
    (found : (columns.zip values).reverse.lookup name = some v) :
    ∃ i : Nat, columns[i]? = some name ∧ values[i]? = some v := by
  obtain ⟨before, after, split, -⟩ := List.lookup_eq_some_iff.mp found
  have there : (name, v) ∈ columns.zip values := by
    rw [← List.mem_reverse, split]
    exact List.mem_append_right _ List.mem_cons_self
  obtain ⟨i, at_i⟩ := List.getElem?_of_mem there
  exact ⟨i, List.getElem?_zip_eq_some.mp at_i⟩

theorem lookup_zip_isSome {i : Nat} {name : String} {v : Value} (column : columns[i]? = some name)
    (value : values[i]? = some v) : ∃ w, (columns.zip values).reverse.lookup name = some w := by
  have there : (name, v) ∈ columns.zip values :=
    List.mem_of_getElem? (List.getElem?_zip_eq_some.mpr ⟨column, value⟩)
  cases found : (columns.zip values).reverse.lookup name with
  | some w => exact ⟨w, rfl⟩
  | none =>
    have absent := List.lookup_eq_none_iff.mp found (name, v) (List.mem_reverse.mpr there)
    simp at absent

theorem value_of_column {i : Nat} {name : String} (size : values.length = columns.length)
    (column : columns[i]? = some name) : ∃ v, values[i]? = some v := by
  obtain ⟨bound, -⟩ := List.getElem?_eq_some_iff.mp column
  exact ⟨_, List.getElem?_eq_getElem (size ▸ bound)⟩

/-- The last value of a name is every value of it exactly when equal names have equal values. -/
theorem lookup_zip_iff (size : values.length = columns.length) :
    (∀ (i : Nat) name v, columns[i]? = some name → values[i]? = some v →
        (columns.zip values).reverse.lookup name = some v) ↔
      ∀ i j : Nat, columns[i]? = columns[j]? → values[i]? = values[j]? := by
  refine ⟨fun reads i j same => ?_, fun equal i name v column value => ?_⟩
  · cases column : columns[i]? with
    | none =>
      have column' := same ▸ column
      rw [List.getElem?_eq_none_iff, ← size, ← List.getElem?_eq_none_iff] at column column'
      rw [column, column']
    | some name =>
      have column' := same ▸ column
      obtain ⟨v, value⟩ := value_of_column size column
      obtain ⟨w, value'⟩ := value_of_column size column'
      have first := reads i name v column value
      rw [reads j name w column' value'] at first
      rw [value, value', first]
  · obtain ⟨w, found⟩ := lookup_zip_isSome column value
    obtain ⟨j, column', value'⟩ := lookup_zip_some found
    rw [found, ← value, ← value']
    exact equal j i (column'.trans column.symm)

/-- Setting the values under the names one after another leaves the last of each name. -/
theorem distinct_maps (size : values.length = columns.length) :
    Maps columns values (Value.distinct (Value.keyed (columns.zip values))) := by
  have names : (columns.zip values).map Prod.fst = columns :=
    List.map_fst_zip (Nat.le_of_eq size.symm)
  have keys := Value.distinct_keys (columns.zip values)
  have last := Value.lookup?_distinct (columns.zip values)
  rw [names] at keys
  have count := congrArg List.length keys
  rw [List.length_map, List.length_map] at count
  refine ⟨keys, last, ?_, fun nodup => ?_, ?_⟩
  · rw [count, Value.eraseDups_length_eq]
  · rw [keyed_zip]
    exact Value.distinct_of_nodup (names.symm ▸ nodup)
  · simp only [last]
    exact lookup_zip_iff size

theorem rowMap_maps (fits : Fits columns row) :
    ∃ m, rowMap columns row = .ok m ∧ RowMaps columns row m := by
  obtain ⟨values, items, size⟩ := fits
  refine ⟨_, ?_, values, _, items, rfl, distinct_maps size⟩
  rw [rowMap, items, ok_bind, keyed_zip]
  rfl

/-- Every row has its map, in order. -/
theorem mapM_rowMap (fit : ∀ row ∈ rows, Fits columns row) :
    ∃ maps, rows.mapM (rowMap columns) = .ok maps ∧ List.Forall₂ (RowMaps columns) rows maps := by
  induction rows with
  | nil => exact ⟨[], rfl, .nil⟩
  | cons row rows ih =>
    obtain ⟨m, made, maps⟩ := rowMap_maps (fit row List.mem_cons_self)
    obtain ⟨ms, rest, all⟩ := ih fun row member => fit row (List.mem_cons_of_mem _ member)
    refine ⟨m :: ms, ?_, .cons maps all⟩
    rw [List.mapM_cons, made, rest]
    rfl

end

namespace Completed

variable {done : Completed} {columns : List String}

theorem rowColumns_some (named : done.columns = some columns) (column : columns ≠ []) :
    done.rowColumns = some columns := by
  rw [rowColumns, named, Option.filter_some, if_pos (by simpa using column)]

theorem rowColumns_nil (named : done.columns = some []) : done.rowColumns = none := by
  rw [rowColumns, named]
  rfl

end Completed

namespace Responses

/-- The replies when nothing fails. -/
def returned (done : Completed) (rows : List Value) : Responses :=
  { statement := .ok done, rows := .ok rows }

theorem returned_outcome {m : Machine} (texts : m.options.namesAreTexts = true) (done : Completed)
    (rows : List Value) : ((returned done rows).on m).outcome = (returned done rows).result := by
  rw [on, if_pos texts, returned, ite_self]
  rfl

variable {r : Responses} {done : Completed} {columns : List String} {rows : List Value}

theorem result_maps (statement : r.statement = .ok done) (named : done.columns = some columns)
    (column : columns ≠ []) (fetched : r.rows = .ok rows) (fit : ∀ row ∈ rows, Fits columns row) :
    ∃ maps, r.result = .ok (.value (.list maps)) ∧ List.Forall₂ (RowMaps columns) rows maps := by
  obtain ⟨maps, made, all⟩ := mapM_rowMap fit
  refine ⟨maps, ?_, all⟩
  rw [result_read statement (Completed.rowColumns_some named column), fetched]
  show (rows.mapM (rowMap columns) >>= _) = _
  rw [made]
  rfl

end Responses

section

variable {options : Options} {text : String} {values : List Value} {hs rs : List Happening}
  {cs fs : List NetworkCall} {c : ConnectionId} {p : Phase} {o : Except Fault Outcome}
  {r : Responses}

theorem Way.quiet (way : Way options (.statement text values) hs cs) :
    (∀ a, .executed a ∉ hs) ∧ (∀ a, .fetched a ∉ hs) ∧ ∀ a, .cursorClosed a ∉ hs := by
  cases way <;> simp [Need.start]

theorem Ran.quiet (ran : Ran c rs fs o) (a : Except Fault Unit) : .cursorClosed a ∉ rs := by
  cases ran <;> simp

/-- What a statement comes to is what it was told. -/
theorem Ran.result (ran : Ran c rs fs o) (executed : .executed r.statement ∈ rs)
    (fetched : ∀ done columns, r.statement = .ok done → done.rowColumns = some columns →
      .fetched r.rows ∈ rs) : o = r.result := by
  cases ran with
  | failed =>
    injection List.mem_singleton.mp executed with statement
    rw [Responses.result_failed statement]
  | wrote rows =>
    injection List.mem_singleton.mp executed with statement
    rw [Responses.result_written statement rows]
  | @read done columns rows answer =>
    have statement : r.statement = .ok done := by simpa using executed
    have answered : r.rows = answer := by simpa using fetched done columns statement rows
    rw [Responses.result_read statement rows, answered]

theorem Along.result (along : Along options (.need (.statement text values)) hs cs p)
    (executed : .executed r.statement ∈ hs)
    (fetched : ∀ done columns, r.statement = .ok done → done.rowColumns = some columns →
      .fetched r.rows ∈ hs)
    (closed : .cursorClosed (.ok ()) ∈ hs) : p = .finished r.result := by
  cases along with
  | turn | gate | connecting | unnamed | unconnected => simp [Need.start] at closed
  | opening way => exact (way.quiet.2.2 _ closed).elim
  | cursorRefused way | executing way | fetching way => simp [way.quiet.2.2] at closed
  | closing way ran => simp [way.quiet.2.2, ran.quiet] at closed
  | @ran hs rs cs fs c _ _ o way ran answer =>
    obtain ⟨unexecuted, unfetched, unclosed⟩ := way.quiet
    have answered : answer = .ok () := by simpa [unclosed, ran.quiet, eq_comm] using closed
    have same : o = r.result := by
      refine ran.result (by simpa [unexecuted] using executed) fun done columns statement rows => ?_
      simpa [unfetched] using fetched done columns statement rows
    rw [answered, same]
    rfl

end

namespace History

/-! ### Every history -/

/-- In every history a statement that was told that it returns columns, of whatever names, what its
rows are and that its cursor is closed has ended with one map for each row, in order, if every row
has one value for each column. A statement that was told of an empty list of columns counts as a
write. A statement that comes in when both locks are free and to which nothing fails ends so. -/
theorem run_maps_rows (options : Options) (as : List Action) :
    let start : History := { machine := { options } }
    let s := start.run as
    let log := start.record as
    (∀ (t : Nat) sql params done, (issued as)[t]? = some (.execute sql params) →
      .executed (.ok done) ∈ told log t → .cursorClosed (.ok ()) ∈ told log t →
      (∀ columns rows, done.columns = some columns → columns ≠ [] →
        .fetched (.ok rows) ∈ told log t → (∀ row ∈ rows, Fits columns row) →
        ∃ maps, s.machine.tasks[t]? = some (.finished (.ok (.value (.list maps)))) ∧
          List.Forall₂ (RowMaps columns) rows maps) ∧
      (done.columns = some [] →
        s.machine.tasks[t]? = some (.finished (.ok (.value done.outcome))))) ∧
    (s.machine.turn = {} → s.machine.gate = {} → options.namesAreTexts = true →
      ∀ sql params job, (Request.execute sql params).job = .ok job →
      ∀ done columns rows, done.columns = some columns → columns ≠ [] →
        (∀ row ∈ rows, Fits columns row) →
        let s' := s.call (.execute sql params) (.returned done rows)
        ∃ maps, s'.machine.tasks[s.machine.tasks.length]? =
            some (.finished (.ok (.value (.list maps)))) ∧
          List.Forall₂ (RowMaps columns) rows maps) := by
  intro start s log
  have accounted : Accounted options s log (issued as) := along_run options as
  refine ⟨fun t sql params done asked executed closed => ?_,
    fun turn gate texts sql params job read done columns rows named column fit => ?_⟩
  · obtain ⟨job, p, read, stands, along⟩ := accounted.along t _ asked
    obtain ⟨text, values, rfl, -⟩ := Request.job_execute read
    refine ⟨fun columns rows named column fetched fit => ?_, fun named => ?_⟩
    · obtain ⟨maps, result, all⟩ :=
        (Responses.returned done rows).result_maps rfl named column rfl fit
      have ended := along.result (r := .returned done rows) executed (fun _ _ _ _ => fetched) closed
      exact ⟨maps, by rw [stands, ended, result], all⟩
    · have none := Completed.rowColumns_nil named
      have ended := along.result (r := .returned done []) executed (fun _ columns statement rows => ?_)
        closed
      · rw [stands, ended, Responses.result_written rfl none]
      · cases statement
        rw [none] at rows
        cases rows
  · obtain ⟨maps, result, all⟩ :=
      (Responses.returned done rows).result_maps rfl named column rfl fit
    have ended := call_statement turn gate read (.returned done rows)
    rw [Responses.returned_outcome (accounted.fixed ▸ texts), result] at ended
    exact ⟨maps, ended.1, all⟩

/-- Two users are selected. -/
theorem run_maps_rows_users :
    let options : Options :=
      [(.text "host", .text "localhost"), (.text "port", .int 3306), (.text "user", .text "app"),
        (.text "password", .text "secret"), (.text "database", .text "shop")]
    let columns := ["id", "name"]
    let rows : List Value := [.tuple [.int 4, .text "Julia"], .tuple [.int 5, .text "Irene"]]
    let r : Responses := .returned { columns := some columns } rows
    let q : Request := .execute "SELECT ?" (.tuple [.int 7])
    let as : List Action := .request q :: r.happenings.map (.happens 0)
    let start : History := { machine := { options } }
    (∀ row ∈ rows, Fits columns row) ∧
      (∃ maps, (start.run as).machine.tasks[0]? = some (.finished (.ok (.value (.list maps)))) ∧
        List.Forall₂ (RowMaps columns) rows maps) ∧
      ∃ maps, (start.call q r).machine.tasks[0]? = some (.finished (.ok (.value (.list maps)))) ∧
        List.Forall₂ (RowMaps columns) rows maps := by
  intro options columns rows r q as start
  have fit : ∀ row ∈ rows, Fits columns row := by
    intro row member
    rcases List.mem_cons.mp member with rfl | member
    · exact ⟨_, rfl, rfl⟩
    · cases List.mem_singleton.mp member
      exact ⟨_, rfl, rfl⟩
  have column : columns ≠ [] := List.cons_ne_nil _ _
  have begun : run { machine := { options } } [] = start := rfl
  have empty : start.machine.tasks.length = 0 := rfl
  have same : start.call q r = start.call (.execute "SELECT ?" (.tuple [.int 7]))
      (.returned { columns := some columns } rows) := rfl
  have job : q.job = .ok (.need (.statement "SELECT %s" [.int 7])) := rfl
  have asked : (issued as)[0]? = some q := rfl
  have happened : as.flatMap (Action.happenings 0) = r.happenings := rfl
  have count : (told (start.record as) 0).length = r.happenings.length := by decide +kernel
  -- What these actions come to has been computed and is not computed again.
  clear_value as
  have heard : told (start.record as) 0 = r.happenings := by
    rw [← happened] at count ⊢
    exact (told_sublist start as 0).eq_of_length count
  have executed : .executed r.statement ∈ told (start.record as) 0 := by
    simp [heard, Responses.happenings]
  have fetched : .fetched r.rows ∈ told (start.record as) 0 := by
    simp [heard, Responses.happenings]
  have closed : .cursorClosed r.close ∈ told (start.record as) 0 := by
    simp [heard, Responses.happenings]
  obtain ⟨own, -⟩ := run_maps_rows options as
  obtain ⟨-, call⟩ := run_maps_rows options []
  obtain ⟨returns, -⟩ :=
    own 0 "SELECT ?" (.tuple [.int 7]) { columns := some columns } asked executed closed
  obtain ⟨maps, called, all⟩ :=
    call rfl rfl rfl "SELECT ?" _ _ job { columns := some columns } columns rows rfl column fit
  rw [begun, empty, ← same] at called
  exact ⟨fit, returns columns rows rfl column fetched fit, maps, called, all⟩

/-- In a join of users and orders two columns have the same name, and the first of them is lost. An
empty list of columns gives no maps at all. -/
theorem call_loses_column :
    let options : Options :=
      [(.text "host", .text "localhost"), (.text "port", .int 3306), (.text "user", .text "app"),
        (.text "password", .text "secret"), (.text "database", .text "shop")]
    let columns := ["id", "name", "id"]
    let row : Value := .tuple [.int 1, .text "Ann", .int 7]
    let entries : List (Value × Value) := [(.text "id", .int 7), (.text "name", .text "Ann")]
    let sql := "SELECT * FROM users INNER JOIN orders ON users.id = orders.user_id WHERE 1"
    let start : History := { machine := { options } }
    (Fits columns row ∧
        (start.call (.execute sql (.tuple []))
            (.returned { columns := some columns } [row])).machine.tasks[0]? =
          some (.finished (.ok (.value (.list [.map entries])))) ∧
        entries.length ≠ columns.length ∧ ∀ e ∈ entries, e.2 ≠ .int 1) ∧
      Fits [] (.tuple []) ∧
        (start.call (.execute sql (.tuple []))
            (.returned { columns := some [] } [.tuple []])).machine.tasks[0]? =
          some (.finished (.ok (.value (.written (.int 0) .none)))) := by
  intro options columns row entries sql start
  have ready : (Request.execute sql (.tuple [])).job.toBool = true := by decide +kernel
  cases read : (Request.execute sql (.tuple [])).job with
  | error f =>
    rw [read] at ready
    cases ready
  | ok job =>
    have empty : start.machine.tasks.length = 0 := rfl
    have joins : ((Responses.returned { columns := some columns } [row]).on start.machine).outcome =
        .ok (.value (.list [.map entries])) := rfl
    have writes : ((Responses.returned { columns := some [] } [.tuple []]).on start.machine).outcome =
        .ok (.value (.written (.int 0) .none)) := rfl
    obtain ⟨joined, -⟩ := call_statement (s := start) rfl rfl read
      (.returned { columns := some columns } [row])
    obtain ⟨bare, -⟩ := call_statement (s := start) rfl rfl read
      (.returned { columns := some [] } [.tuple []])
    rw [empty, joins] at joined
    rw [empty, writes] at bare
    refine ⟨⟨⟨_, rfl, rfl⟩, joined, by decide, ?_⟩, ⟨_, rfl, rfl⟩, bare⟩
    simp [entries]

end History

end TableQuery

import Mathlib.Data.List.Nodup
import TableQuery.Proofs.Connection.Account
import TableQuery.Proofs.Placeholder.Conversions

/-!
# Statements that reach a cursor

A statement is checked when it is asked for, so whatever a cursor is given has as many conversions as
values, and comes from one request. A request that is refused leaves no trace.
-/

namespace TableQuery

/-- The statement and the values that a call hands to a cursor. -/
def NetworkCall.handed? : NetworkCall → Option (String × List Value)
  | .execute _ text values => some (text, values)
  | _ => none

variable {options : Options} {job : Job} {need : Need} {hs : List Happening}
  {cs : List NetworkCall} {c : ConnectionId} {p : Phase}

/-! ### One task hands over one statement -/

theorem Way.hands_nothing (way : Way options need hs cs) :
    cs.filterMap NetworkCall.handed? = [] := by
  cases way <;> rfl

theorem Ran.hands_nothing {outcome : Except Fault Outcome} (ran : Ran c hs cs outcome) :
    cs.filterMap NetworkCall.handed? = [] := by
  cases ran <;> rfl

/-- A task hands over the statement that is its job, once, or nothing. -/
theorem Along.handed (along : Along options job hs cs p) :
    cs.filterMap NetworkCall.handed? = [] ∨
      ∃ text values, job = .need (.statement text values) ∧
        cs.filterMap NetworkCall.handed? = [(text, values)] := by
  cases along with
  | given way => exact .inl way.hands_nothing
  | opening way | cursorRefused way =>
    refine .inl ?_
    rw [List.filterMap_append, way.hands_nothing]
    rfl
  | executing way =>
    refine .inr ⟨_, _, rfl, ?_⟩
    simp only [List.filterMap_append, way.hands_nothing]
    rfl
  | fetching way rows =>
    refine .inr ⟨_, _, rfl, ?_⟩
    simp only [List.filterMap_append, way.hands_nothing]
    rfl
  | closing way ran | ran way ran =>
    refine .inr ⟨_, _, rfl, ?_⟩
    simp only [List.filterMap_append, way.hands_nothing, ran.hands_nothing]
    rfl
  | _ => exact .inl rfl

namespace History

/-- The statements that were handed to a cursor, with their tasks and values, one after another. -/
def handed (log : List Entry) : List (TaskId × String × List Value) :=
  log.flatMap fun e => (e.calls.filterMap NetworkCall.handed?).map (e.task, ·)

theorem handed_calls (log : List Entry) :
    (handed log).map Prod.snd = (log.flatMap Entry.calls).filterMap NetworkCall.handed? := by
  induction log with
  | nil => rfl
  | cons e log ih =>
    have own : ((e.calls.filterMap NetworkCall.handed?).map (e.task, ·)).map Prod.snd =
        e.calls.filterMap NetworkCall.handed? := by
      rw [List.map_map]
      exact List.map_id _
    rw [handed, List.flatMap_cons, List.map_append, own, List.flatMap_cons, List.filterMap_append]
    exact congrArg _ ih

/-- What one task handed over is what its calls hand over. -/
theorem handed_task (log : List Entry) (t : TaskId) :
    ((handed log).filter (·.1 == t)).map Prod.snd =
      (made log t).filterMap NetworkCall.handed? := by
  rw [made, ← handed_calls]
  congr 1
  induction log with
  | nil => rfl
  | cons e log ih =>
    rw [handed, List.flatMap_cons, List.filter_append, List.filter_cons]
    by_cases own : e.task = t
    · have all : ((e.calls.filterMap NetworkCall.handed?).map (e.task, ·)).filter (·.1 == t) =
          (e.calls.filterMap NetworkCall.handed?).map (e.task, ·) := by
        refine List.filter_eq_self.mpr fun x there => ?_
        obtain ⟨y, -, rfl⟩ := List.mem_map.mp there
        exact beq_iff_eq.mpr own
      rw [all, if_pos (beq_iff_eq.mpr own), handed, List.flatMap_cons]
      exact congrArg _ ih
    · have none :
          ((e.calls.filterMap NetworkCall.handed?).map (e.task, ·)).filter (·.1 == t) = [] := by
        refine List.filter_eq_nil_iff.mpr fun x there => ?_
        obtain ⟨y, -, rfl⟩ := List.mem_map.mp there
        simpa using own
      rw [none, if_neg (by simpa using own), List.nil_append]
      exact ih

variable {s : History} {log : List Entry} {requests : List Request}

/-- What stands on record for a task comes from its request. -/
theorem Accounted.handed_once (accounted : Accounted options s log requests) (t : TaskId) :
    ((handed log).filter (·.1 == t)).map Prod.snd = [] ∨
      ∃ sql params text values, requests[t]? = some (.execute sql params) ∧
        (Request.execute sql params).job = .ok (.need (.statement text values)) ∧
        ((handed log).filter (·.1 == t)).map Prod.snd = [(text, values)] := by
  rw [handed_task]
  cases asked : requests[t]? with
  | none =>
    have size := accounted.tasks
    have absent : ∀ e ∈ log, e.task ≠ t := by
      rintro e there rfl
      have known : e.task < requests.length := size ▸ accounted.known e there
      exact Nat.not_lt.mpr (List.getElem?_eq_none_iff.mp asked) known
    rw [(told_absent absent).2]
    exact .inl rfl
  | some r =>
    obtain ⟨job, p, read, -, along⟩ := accounted.along t r asked
    rcases along.handed with none | ⟨text, values, rfl, one⟩
    · exact .inl none
    · cases r with
      | execute sql params => exact .inr ⟨sql, params, text, values, rfl, read, one⟩
      | connection | close => cases read

theorem Accounted.handed_nodup (accounted : Accounted options s log requests) :
    ((handed log).map Prod.fst).Nodup := by
  refine List.nodup_iff_count_le_one.mpr fun t => ?_
  have size : ((handed log).map Prod.fst).count t =
      (((handed log).filter (·.1 == t)).map Prod.snd).length := by
    rw [List.count, List.countP_map, List.countP_eq_length_filter, List.length_map]
    rfl
  rw [size]
  rcases accounted.handed_once t with none | ⟨sql, params, text, values, -, -, one⟩
  · rw [none]
    exact Nat.zero_le 1
  · rw [one]
    exact Nat.le_refl 1

/-- A statement that reached a cursor lines up with its values. -/
theorem Accounted.handed_aligned (accounted : Accounted options s log requests) {t : TaskId}
    {text : String} {values : List Value} (there : (t, text, values) ∈ handed log) :
    ∃ sql params, requests[t]? = some (.execute sql params) ∧ Placeholder.toPercent sql = .ok text ∧
      params.items? = .ok values ∧ Placeholder.conversions text.toList = values.length ∧
      ∀ texts, (∃ out, Placeholder.format text.toList texts = some out) ↔
        texts.length = values.length := by
  have own : (text, values) ∈ ((handed log).filter (·.1 == t)).map Prod.snd :=
    List.mem_map.mpr ⟨_, List.mem_filter.mpr ⟨there, beq_iff_eq.mpr rfl⟩, rfl⟩
  rcases accounted.handed_once t with none | ⟨sql, params, text', values', asked, read, one⟩
  · rw [none] at own
    cases own
  · rw [one] at own
    cases List.mem_singleton.mp own
    obtain ⟨text, values, same, items, ⟨n, aligned⟩, converted⟩ := Request.job_execute read
    cases same
    obtain ⟨sp, spans, count, formats⟩ := Placeholder.toPercent_conversions Sql.tokens_lawful converted
    rw [Placeholder.align_tuple spans] at aligned
    have lined : sp.length = values.length := by
      by_cases same : sp.length = values.length
      · exact same
      · rw [if_neg same] at aligned
        cases aligned
    rw [lined] at count formats
    exact ⟨sql, params, asked, converted, items, count, formats⟩

/-! ### Refused requests -/

theorem job_refused {sql : String} {params : Value} {values : List Value}
    (items : params.items? = .ok values)
    (unfit : ∀ sp, Placeholder.spans sql = .ok sp → sp.length ≠ values.length) :
    ∃ f, (Request.execute sql params).job = .error (.placeholders f sql) := by
  obtain ⟨f, refused⟩ := Placeholder.align_refused unfit
  refine ⟨f, ?_⟩
  simp only [Request.job, items, refused, ok_bind, error_bind]

theorem perform_refused (l : Link) {r : Request} {f : Fault} (refused : r.job = .error f) :
    l.perform r = (.error f, l, []) := by
  simp only [Link.perform, Machine.take, refused, map_error]

/-! ### Every history -/

/-- In every history the statements that reach a cursor are on record with their tasks, each task has
one at most, and it comes from the request that made the task: its text is the percent form, its
values are those of the request, it has a conversion for each value, and formatting takes as many
texts as that and no other number. A request whose statement cannot be read, or does not line up with
its values, fails with the text of the statement; it leaves the machine and the network as they are,
and so does a link that is asked for it. -/
theorem run_well_formed (options : Options) (as : List Action) :
    let start : History := { machine := { options } }
    let s := start.run as
    let log := start.record as
    s.calls.filterMap NetworkCall.handed? = (handed log).map Prod.snd ∧
    ((handed log).map Prod.fst).Nodup ∧
    (∀ t text values, (t, text, values) ∈ handed log →
      ∃ sql params, (issued as)[t]? = some (.execute sql params) ∧
        Placeholder.toPercent sql = .ok text ∧ params.items? = .ok values ∧
        Placeholder.conversions text.toList = values.length ∧
        ∀ texts, (∃ out, Placeholder.format text.toList texts = some out) ↔
          texts.length = values.length) ∧
    ∀ sql params values, params.items? = .ok values →
      (∀ sp, Placeholder.spans sql = .ok sp → sp.length ≠ values.length) →
      ∃ f, s.machine.take (.execute sql params) = .error (.placeholders f sql) ∧
        s.act (.request (.execute sql params)) = s ∧
        ∀ replies trace,
          let l : Link := { machine := s.machine, replies, trace }
          l.perform (.execute sql params) = (.error (.placeholders f sql), l, []) := by
  intro start s log
  have accounted := along_run options as
  refine ⟨?_, accounted.handed_nodup, fun t text values => accounted.handed_aligned, ?_⟩
  · rw [handed_calls]
    exact congrArg _ accounted.calls
  · intro sql params values items unfit
    obtain ⟨f, refused⟩ := job_refused items unfit
    refine ⟨f, ?_, s.act_refused refused, fun replies trace => perform_refused _ refused⟩
    rw [Machine.take, refused, map_error]

/-- A statement reaches its cursor while one with a value too many is refused. -/
theorem run_well_formed_value_too_many :
    let options : Options :=
      [(.text "host", .text "localhost"), (.text "port", .int 3306), (.text "user", .text "app"),
        (.text "password", .text "secret"), (.text "database", .text "shop")]
    let as : List Action :=
      [.request (.execute "DO SLEEP(?)" (.list [.int 7])), .happens 0 .granted, .happens 0 .granted,
        .happens 0 (.connected (.ok ())), .happens 0 (.cursorOpened (.ok ()))]
    let start : History := { machine := { options } }
    let s := start.run as
    ((handed (start.record as)).map Prod.fst) = [0] ∧
      (∃ text values, (0, text, values) ∈ handed (start.record as) ∧
        Placeholder.toPercent "DO SLEEP(?)" = .ok text ∧
        Placeholder.conversions text.toList = values.length) ∧
      s.act (.request (.execute "DO ?" (.list [.int 1, .int 2]))) = s := by
  intro options as start s
  have first : (handed (start.record as)).map Prod.fst = [0] := by decide +kernel
  have asked : (issued as)[0]? = some (.execute "DO SLEEP(?)" (.list [.int 7])) := rfl
  have formed := run_well_formed options as
  -- What these actions come to has been computed and is not computed again.
  clear_value as
  obtain ⟨-, -, reached, refused⟩ := formed
  have spans : Placeholder.spans "DO ?" = .ok [(3, 4)] := rfl
  obtain ⟨f, -, same, -⟩ := refused "DO ?" (.list [.int 1, .int 2]) [.int 1, .int 2] rfl
    fun sp found => by
      rw [spans] at found
      cases found
      decide
  have one : 0 ∈ (handed (start.record as)).map Prod.fst := by
    rw [first]
    exact List.mem_singleton.mpr rfl
  obtain ⟨⟨t, text, values⟩, there, task⟩ := List.mem_map.mp one
  cases task
  obtain ⟨sql, params, asked', converted, -, count, -⟩ := reached 0 text values there
  rw [asked] at asked'
  cases asked'
  exact ⟨first, ⟨text, values, there, converted, count⟩, same⟩

end History

end TableQuery

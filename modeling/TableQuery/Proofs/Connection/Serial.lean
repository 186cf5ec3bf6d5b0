import TableQuery.Proofs.Connection.Account
import TableQuery.Proofs.Connection.Ownership
import TableQuery.Proofs.Connection.Progress
import TableQuery.Proofs.Connection.Turns

/-!
# Serialized statements

The statements of a history run one after another, in the order in which they were asked for, each on
the connection there is, and each comes to its own outcome. Nothing ever keeps all tasks from going
on.
-/

namespace TableQuery.History

/-- In every history at most one statement or closing is in progress. The line of the turn lock and
the starts of statements and closings are in the order in which their requests came in. A statement
in progress is on the current connection, which was not asked to close. Every request for a statement
is a task, which stands where what it was told and what it called for itself have led it, and keeps
the outcome to which it comes. While a task has not ended, some task can go on, whatever comes of
what it waits for, and every step leaves fewer moves to make. -/
theorem run_serialized (options : Options) (as : List Action) :
    let start : History := { machine := { options } }
    let s := start.run as
    let log := start.record as
    (∀ (t u : TaskId) p q, s.machine.tasks[t]? = some p → s.machine.tasks[u]? = some q →
      p.inProgress = true → q.inProgress = true → t = u) ∧
    (s.machine.turn.line.Pairwise (· < ·) ∧ (starts log).Pairwise (· < ·)) ∧
    (∀ (t : TaskId) p c, s.machine.tasks[t]? = some p → p.cursorOn? = some c →
      s.machine.handle = some c ∧ c ∉ s.closing) ∧
    (∀ (t : Nat) sql params, (issued as)[t]? = some (.execute sql params) →
      ∃ text values p, (Request.execute sql params).job = .ok (.need (.statement text values)) ∧
        s.machine.tasks[t]? = some p ∧
        Along options (.need (.statement text values)) (told log t) (made log t) p ∧
        ∀ r, p = .finished r → ∀ later, (s.run later).machine.tasks[t]? = some (.finished r)) ∧
    (∀ (t : TaskId) p, s.machine.tasks[t]? = some p → p.Unfinished → ∃ u, s.machine.Ready u) ∧
    ∀ (t : TaskId) h moved, s.machine.step t h = some moved →
      moved.machine.remaining < s.machine.remaining := by
  intro start s log
  obtain ⟨sound, owned⟩ := owned_run options as
  have ordered := ordered_run options as
  refine ⟨fun t u p q => sound.exclusive, ⟨ordered.line, ordered.sorted⟩, fun t p c there cursor => ?_,
    fun t sql params asked => ?_, fun t p => sound.progress, fun t h moved => Machine.step_remaining⟩
  · have current := served_run options as t p c there cursor
    exact ⟨current, (owned.current c current).2.2⟩
  · obtain ⟨job, p, read, there, along⟩ := (along_run options as).along t _ asked
    obtain ⟨text, values, rfl, -⟩ := Request.job_execute read
    refine ⟨text, values, p, read, there, along, ?_⟩
    rintro r rfl later
    exact run_finished there later

/-- A statement runs while a closing and another statement wait for their turns behind it. -/
theorem run_serialized_closing_waits :
    let options : Options :=
      [(.text "host", .text "localhost"), (.text "port", .int 3306), (.text "user", .text "app"),
        (.text "password", .text "secret"), (.text "database", .text "shop")]
    let as : List Action :=
      [.request (.execute "DO SLEEP(?)" (.tuple [.int 7])), .request .close,
        .request (.execute "DO 1" (.tuple [])), .happens 0 .granted, .happens 0 .granted,
        .happens 0 (.connected (.ok ())), .happens 1 .granted, .happens 0 (.cursorOpened (.ok ()))]
    let start : History := { machine := { options } }
    let s := start.run as
    s.machine.tasks[0]?.bind Phase.cursorOn? = some 1 ∧ s.machine.turn.line = [0, 1, 2] ∧
      starts (start.record as) = [0] ∧ s.machine.handle = some 1 ∧ 1 ∉ s.closing ∧
      (∃ u, s.machine.Ready u) ∧
      ∃ p, s.machine.tasks[0]? = some p ∧
        Along options (.need (.statement "DO SLEEP(%s)" [.int 7])) (told (start.record as) 0)
          (made (start.record as) 0) p := by
  intro options as start s
  have running : s.machine.tasks[0]?.bind Phase.cursorOn? = some 1 := by decide +kernel
  have line : s.machine.turn.line = [0, 1, 2] := by decide +kernel
  have begun : starts (start.record as) = [0] := by decide +kernel
  have asked : (issued as)[0]? = some (.execute "DO SLEEP(?)" (.tuple [.int 7])) := rfl
  have job : (Request.execute "DO SLEEP(?)" (.tuple [.int 7])).job =
      .ok (.need (.statement "DO SLEEP(%s)" [.int 7])) := rfl
  have serialized := run_serialized options as
  -- What these actions come to has been computed and is not computed again.
  clear_value as
  obtain ⟨-, -, current, own, progress, -⟩ := serialized
  obtain ⟨text, values, p, read, stands, along, -⟩ := own 0 _ _ asked
  rw [job] at read
  cases read
  obtain ⟨p', there, cursor⟩ := Option.bind_eq_some_iff.mp running
  obtain ⟨handle, notClosing⟩ := current 0 p' 1 there cursor
  refine ⟨running, line, begun, handle, notClosing, progress 0 p' there ?_, p, stands, along⟩
  rintro r rfl
  cases cursor

end TableQuery.History

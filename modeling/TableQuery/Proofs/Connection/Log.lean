import TableQuery.Connection.Link
import TableQuery.Proofs.Builder.Journal

/-!
# What a connection tells the log

A connection machine tells the log that its connection was opened or closed. Executions and rejected
clauses it leaves to the builders, whatever is asked of it and whatever the network replies:
`Link.quiet` says so of the channel that a link is.
-/

namespace TableQuery

/-- A move that tells the log nothing that builders tell it. -/
def Moved.Quiet (moved : Moved) : Prop :=
  ∀ e ∈ moved.notes.filterMap Note.event?, e.ofBuilder = false

namespace Machine

variable {m : Machine} {t : TaskId} {moved : Moved}

theorem quiet_called (calls : List NetworkCall) : Moved.Quiet ⟨m, calls.map .called⟩ := by
  intro e told
  obtain ⟨note, called, tells⟩ := List.mem_filterMap.mp told
  obtain ⟨call, -, rfl⟩ := List.mem_map.mp called
  cases tells

theorem quiet_logged (quiet : moved.Quiet) {e : Event} (other : e.ofBuilder = false) :
    Moved.Quiet ⟨m, .logged e :: moved.notes⟩ := by
  intro e' told
  rcases List.mem_cons.mp told with rfl | told
  · exact other
  · exact quiet e' told

theorem quiet_proceed (c : ConnectionId) (need : Need) : (m.proceed t c need).Quiet := by
  cases need with
  | statement text values => exact quiet_called [_]
  | connection => exact quiet_called []

theorem quiet_abandon (f : Fault) (need : Need) : (m.abandon t f need).Quiet := by
  cases need <;> exact quiet_called []

theorem quiet_reach (need : Need) : (m.reach t need).Quiet := by
  unfold reach
  split
  · exact quiet_proceed _ need
  · exact quiet_called []

theorem quiet_pass (need : Need) : (m.pass t need).Quiet := by
  unfold pass
  split
  · exact quiet_proceed _ need
  · split
    · exact quiet_called [_]
    · exact quiet_abandon _ need

theorem quiet_shut : (m.shut t).Quiet := by
  unfold shut
  split
  · exact quiet_called [_]
  · exact quiet_called []

theorem quiet_take {r : Request} (taken : m.take r = .ok moved) : moved.Quiet := by
  unfold take at taken
  obtain ⟨job, -, rfl⟩ := map_eq_ok.mp taken
  cases job with
  | need need =>
    cases need with
    | statement text values => exact quiet_called []
    | connection => exact quiet_reach _
  | close => exact quiet_called []

theorem quiet_step {h : Happening} (stepped : m.step t h = some moved) : moved.Quiet := by
  unfold step at stepped
  split at stepped
  · unfold advance at stepped
    split at stepped
    · obtain ⟨-, same⟩ := Option.ite_none_right_eq_some.mp stepped
      cases same
      exact quiet_reach _
    · obtain ⟨-, same⟩ := Option.ite_none_right_eq_some.mp stepped
      cases same
      exact quiet_pass _
    · split at stepped
      · cases stepped
        exact quiet_logged (quiet_proceed _ _) rfl
      · cases stepped
        exact quiet_abandon _ _
    · split at stepped
      · cases stepped
        exact quiet_called [_]
      · cases stepped
        exact quiet_called []
    · split at stepped
      · split at stepped
        · cases stepped
          exact quiet_called [_]
        · cases stepped
          exact quiet_called [_]
      · cases stepped
        exact quiet_called [_]
    · cases stepped
      exact quiet_called [_]
    · cases stepped
      exact quiet_called []
    · obtain ⟨-, same⟩ := Option.ite_none_right_eq_some.mp stepped
      cases same
      exact quiet_called []
    · obtain ⟨-, same⟩ := Option.ite_none_right_eq_some.mp stepped
      cases same
      exact quiet_shut
    · cases stepped
      exact quiet_logged (quiet_called []) rfl
    · cases stepped
  · cases stepped

end Machine

namespace Link

theorem quiet_settle (l : Link) (t : TaskId) (moves : Nat) :
    ∀ e ∈ (l.settle t moves).2.2, e.ofBuilder = false := by
  induction moves generalizing l with
  | zero =>
    unfold settle
    split <;> exact fun e told => by cases told
  | succ moves ih =>
    unfold settle
    split
    · exact fun e told => by cases told
    · exact fun e told => by cases told
    · dsimp only
      split
      · exact fun e told => by cases told
      · rename_i moved stepped
        intro e told
        rcases List.mem_append.mp told with first | rest
        · exact Machine.quiet_step stepped e first
        · exact ih _ e rest

theorem quiet_perform (l : Link) (r : Request) : ∀ e ∈ (l.perform r).2.2, e.ofBuilder = false := by
  unfold perform
  split
  · exact fun e told => by cases told
  · rename_i moved taken
    intro e told
    rcases List.mem_append.mp told with first | rest
    · exact Machine.quiet_take taken e first
    · exact quiet_settle _ _ _ e rest

/-- A link runs statements and leaves it to the builders to tell the log of them. -/
theorem quiet : Channel.Quiet channel := fun l sql values =>
  l.quiet_perform (.execute sql (.tuple values))

end Link

end TableQuery

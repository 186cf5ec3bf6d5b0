import TableQuery.Connection.Lock

/-!
# Locks and the places of tasks

The place of a task says whether the task stands in the line of a lock and whether it must be the
holder. A lock that is kept agrees with the places of all tasks. A task that joins the line or leaves
it moves the lock on with it (`Lock.shift`), and `Kept.shift` shows that the lock stays kept.
-/

namespace TableQuery.Lock

/-! ### The line -/

theorem mem_line_of_holder {l : Lock} {t : TaskId} (holder : l.holder = some t) : t ∈ l.line := by
  unfold line
  rw [holder]
  exact List.mem_append_left _ (List.mem_singleton.mpr rfl)

/-- A lock that nobody waits for when it is free lets a task in at the end. -/
theorem line_request {l : Lock} (idle : l.holder = none → l.waiting = []) (t : TaskId) :
    (l.request t).line = l.line ++ [t] := by
  unfold request line
  cases holder : l.holder with
  | none =>
    rw [idle holder]
    rfl
  | some u => exact (List.append_assoc _ _ _).symm

theorem line_eq_cons {l : Lock} {t : TaskId} (holder : l.holder = some t) :
    l.line = t :: l.waiting := by
  unfold line
  rw [holder]
  rfl

/-- Moves a lock on with a task that stood in its line or did not, and does so now or does not. -/
def shift (l : Lock) (t : TaskId) (before after : Bool) : Lock :=
  match before, after with
  | false, true => l.request t
  | true, false => l.release
  | _, _ => l

/-! ### Agreement with the tasks -/

variable {α : Type}

/-- The tasks in the line of a lock are those whose place is in it, each once. Nobody waits for a
lock that is free, and a task whose place is that of the holder is the holder. -/
structure Kept (l : Lock) (tasks : List α) (inLine holds : α → Bool) : Prop where
  nodup : l.line.Nodup
  idle : l.holder = none → l.waiting = []
  member : ∀ t, t ∈ l.line ↔ ∃ p, tasks[t]? = some p ∧ inLine p = true
  held : ∀ t p, tasks[t]? = some p → holds p = true → l.holder = some t

variable {l : Lock} {tasks tasks' : List α} {inLine holds : α → Bool} {t : TaskId}

theorem kept_nil : Kept {} ([] : List α) inLine holds where
  nodup := List.nodup_nil
  idle _ := rfl
  member t := ⟨fun there => (List.not_mem_nil there).elim, fun ⟨_, there, _⟩ => by cases there⟩
  held t p there := by cases there

/-- Where somebody stands in the line, somebody holds the lock. -/
theorem Kept.head (kept : Kept l tasks inLine holds) (stands : t ∈ l.line) :
    ∃ u p, l.holder = some u ∧ tasks[u]? = some p ∧ inLine p = true := by
  cases holder : l.holder with
  | none =>
    unfold line at stands
    rw [holder, kept.idle holder] at stands
    cases stands
  | some u =>
    obtain ⟨p, there, inside⟩ := (kept.member u).mp (mem_line_of_holder holder)
    exact ⟨u, p, rfl, there, inside⟩

theorem Kept.joins (kept : Kept l tasks inLine holds) {p' : α}
    (others : ∀ u, u ≠ t → tasks'[u]? = tasks[u]?) (now : tasks'[t]? = some p')
    (outside : t ∉ l.line) (joins : inLine p' = true) (waits : holds p' = false) :
    Kept (l.request t) tasks' inLine holds where
  nodup := by
    rw [line_request kept.idle]
    exact List.nodup_append.mpr ⟨kept.nodup, List.pairwise_singleton _ t, fun u there v same => by
      rintro rfl
      exact outside (List.mem_singleton.mp same ▸ there)⟩
  idle free := by
    unfold request at free ⊢
    split at free
    · cases free
    · rename_i holder
      rw [holder] at free
      cases free
  member u := by
    rw [line_request kept.idle, List.mem_append, List.mem_singleton]
    by_cases own : u = t
    · subst own
      exact ⟨fun _ => ⟨p', now, joins⟩, fun _ => .inr rfl⟩
    · rw [others u own, ← kept.member u]
      exact ⟨fun there => there.resolve_right own, .inl⟩
  held u p there must := by
    by_cases own : u = t
    · subst own
      rw [now] at there
      cases there
      rw [waits] at must
      cases must
    · rw [others u own] at there
      have holder := kept.held u p there must
      unfold request
      rw [holder]

theorem Kept.leaves (kept : Kept l tasks inLine holds) {p' : α}
    (others : ∀ u, u ≠ t → tasks'[u]? = tasks[u]?) (now : tasks'[t]? = some p')
    (holder : l.holder = some t) (leaves : inLine p' = false) (done : holds p' = false) :
    Kept l.release tasks' inLine holds where
  nodup := by
    rw [line_release]
    exact (line_eq_cons holder ▸ kept.nodup).of_cons
  idle free := by
    show l.waiting.tail = []
    rw [List.head?_eq_none_iff.mp free]
    rfl
  member u := by
    have once := kept.nodup
    have there := kept.member u
    rw [line_eq_cons holder] at once there
    rw [line_release]
    by_cases own : u = t
    · subst own
      refine ⟨fun waits => ((List.nodup_cons.mp once).1 waits).elim, fun ⟨p, found, stands⟩ => ?_⟩
      rw [now] at found
      cases found
      rw [leaves] at stands
      cases stands
    · rw [others u own, ← there, List.mem_cons]
      exact ⟨.inr, fun either => either.resolve_left own⟩
  held u p there must := by
    by_cases own : u = t
    · subst own
      rw [now] at there
      cases there
      rw [done] at must
      cases must
    · rw [others u own] at there
      have other := kept.held u p there must
      rw [holder] at other
      cases other
      exact (own rfl).elim

/-- A task that stays in the line, or out of it, leaves the lock as it is. -/
theorem Kept.stays (kept : Kept l tasks inLine holds) {p' : α}
    (others : ∀ u, u ≠ t → tasks'[u]? = tasks[u]?) (now : tasks'[t]? = some p')
    (same : t ∈ l.line ↔ inLine p' = true) (holder : holds p' = true → l.holder = some t) :
    Kept l tasks' inLine holds where
  nodup := kept.nodup
  idle := kept.idle
  member u := by
    by_cases own : u = t
    · subst own
      rw [same, now]
      exact ⟨fun stands => ⟨p', rfl, stands⟩, fun ⟨p, found, stands⟩ => by cases found; exact stands⟩
    · rw [others u own]
      exact kept.member u
  held u p there must := by
    by_cases own : u = t
    · subst own
      rw [now] at there
      cases there
      exact holder must
    · rw [others u own] at there
      exact kept.held u p there must

/-- A lock is kept by a task that takes another place, if the task holds the lock when it leaves and
when it comes to the place of the holder. -/
theorem Kept.shift (kept : Kept l tasks inLine holds) {p' : α} {before : Bool}
    (others : ∀ u, u ≠ t → tasks'[u]? = tasks[u]?) (now : tasks'[t]? = some p')
    (stood : t ∈ l.line ↔ before = true)
    (leaving : before = true → inLine p' = false → l.holder = some t)
    (coming : holds p' = true → inLine p' = true ∧ l.holder = some t) :
    Kept (l.shift t before (inLine p')) tasks' inLine holds := by
  have holder (must : holds p' = true) : l.holder = some t := (coming must).2
  cases place : inLine p' with
  | false =>
    have done : holds p' = false := by
      refine Bool.eq_false_iff.mpr fun must => ?_
      rw [place] at coming
      cases (coming must).1
    cases before with
    | false => exact kept.stays others now (by rw [place]; exact stood) holder
    | true => exact kept.leaves others now (leaving rfl place) place done
  | true =>
    cases before with
    | false =>
      have outside : t ∉ l.line := fun there => by cases stood.mp there
      refine kept.joins others now outside place (Bool.eq_false_iff.mpr fun must => ?_)
      exact outside (mem_line_of_holder (holder must))
    | true => exact kept.stays others now (by rw [place]; exact stood) holder

end TableQuery.Lock

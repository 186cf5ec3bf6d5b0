import TableQuery.Builder.Session

/-!
# Tasks that are done

`turns_eq` says what a task with a callback has done once it was given turns enough, which is what
the call does that is waited for, and `turns_reports` that its callback is not called twice however
many there are. `settle_eq` is the case of a task that has come to its end.
-/

namespace TableQuery

/-! ### Turns that are needed -/

theorem Leg.turns_le (l : Leg) : 0 < l.turns ∧ l.turns ≤ 2 := by
  cases l <;> simp [turns]

theorem Opening.turns_le (o : Opening) : 0 < o.turns ∧ o.turns ≤ 3 := by
  cases o with
  | leg l =>
    obtain ⟨some, most⟩ := l.turns_le
    exact ⟨some, Nat.le_succ_of_le most⟩
  | counting s size number => simp [turns]

theorem Progress.turns_eq_zero {progress : Progress} (none : progress.turns = 0) :
    ∃ answer, progress = .reported answer := by
  cases progress with
  | scheduled t => cases none
  | opened o => exact (Nat.ne_of_gt o.turns_le.1 none).elim
  | reported answer => exact ⟨answer, rfl⟩

namespace CallbackTask

variable {σ : Type} (send : Channel σ)

/-! ### What is left to do -/

/-- The rest of a call that was opened. -/
def resume (world : σ) (b : Builder) : Opening → Finished σ
  | .leg l => b.finishLeg send world l
  | .counting s size number =>
    let d := send world s.sql s.values
    let (b, es, l) := b.counted size number d.reply
    let r := b.finishLeg send d.state l
    { r with sent := s :: r.sent, events := d.events ++ es ++ r.events }

def left (k : CallbackTask σ) : Finished σ :=
  match k.progress with
  | .scheduled t => k.builder.run send k.channel t
  | .opened o => resume send k.channel k.builder o
  | .reported answer => { answer, builder := k.builder, channel := k.channel }

/-- What a task will have done in the end. -/
def outcome (k : CallbackTask σ) : Finished σ :=
  let r := k.left send
  { r with sent := k.sent ++ r.sent, events := k.events ++ r.events }

theorem run_eq_resume (world : σ) (b : Builder) (t : Terminal) :
    b.run send world t =
      { resume send world (b.start t).1 (b.start t).2.2 with
        events := (b.start t).2.1 ++ (resume send world (b.start t).1 (b.start t).2.2).events } := by
  unfold Builder.run resume
  rcases b.start t with ⟨b', es, l | ⟨s, size, number⟩⟩
  · rfl
  · simp only [List.append_assoc]

/-- A turn does a part of what is left. -/
theorem turn_outcome (k : CallbackTask σ) : (k.turn send).outcome send = k.outcome send := by
  obtain ⟨progress, b, world, sent, es, reports⟩ := k
  cases progress with
  | scheduled t =>
    simp only [turn, outcome, left, run_eq_resume, List.append_assoc]
  | opened o =>
    cases o with
    | leg l =>
      cases l with
      | done answer => rfl
      | send s reading =>
        simp only [turn, outcome, left, resume, Builder.finishLeg, List.append_nil]
    | counting s size number =>
      simp only [turn, outcome, left, resume, List.append_assoc, List.singleton_append]
  | reported answer => rfl

/-- The callback was called if the task has reported, and else not. -/
def Sound (k : CallbackTask σ) : Prop :=
  k.reports = match k.progress with
    | .reported answer => [Answer.report answer]
    | _ => []

theorem turn_sound {k : CallbackTask σ} (sound : k.Sound) : (k.turn send).Sound := by
  obtain ⟨progress, b, world, sent, es, reports⟩ := k
  cases progress with
  | scheduled t => exact sound
  | opened o =>
    cases o with
    | leg l =>
      cases l with
      | done answer =>
        have none : reports = [] := sound
        subst none
        rfl
      | send s reading => exact sound
    | counting s size number => exact sound
  | reported answer => exact sound

/-! ### Turns -/

theorem turn_turns (k : CallbackTask σ) : (k.turn send).progress.turns ≤ k.progress.turns - 1 := by
  obtain ⟨progress, b, world, sent, es, reports⟩ := k
  cases progress with
  | scheduled t => exact (b.start t).2.2.turns_le.2
  | opened o =>
    cases o with
    | leg l => cases l <;> exact Nat.le_refl _
    | counting s size number =>
      let d := send world s.sql s.values
      exact (b.counted size number d.reply).2.2.turns_le.2
  | reported answer => exact Nat.le_refl _

theorem turns_succ (n : Nat) (k : CallbackTask σ) :
    k.turns send (n + 1) = (k.turns send n).turn send := by
  induction n generalizing k with
  | zero => rfl
  | succ n ih => exact ih (k.turn send)

theorem turns_turns (n : Nat) (k : CallbackTask σ) :
    (k.turns send n).progress.turns ≤ k.progress.turns - n := by
  induction n with
  | zero => exact Nat.le_refl _
  | succ n ih =>
    have one := turn_turns send (k.turns send n)
    rw [turns_succ]
    omega

theorem turns_outcome (n : Nat) (k : CallbackTask σ) :
    (k.turns send n).outcome send = k.outcome send := by
  induction n with
  | zero => rfl
  | succ n ih => rw [turns_succ, turn_outcome, ih]

theorem turns_sound (n : Nat) {k : CallbackTask σ} (sound : k.Sound) : (k.turns send n).Sound := by
  induction n with
  | zero => exact sound
  | succ n ih =>
    rw [turns_succ]
    exact turn_sound send ih

theorem schedule_outcome (world : σ) (b : Builder) (t : Terminal) :
    (schedule world b t).outcome send = b.run send world t := rfl

/-- A task that has reported has done all that there was to do. -/
theorem eq_of_reported {k : CallbackTask σ} {answer : Except Fault Answer} (sound : k.Sound)
    (reported : k.progress = .reported answer) :
    let r := k.outcome send
    k = { progress := .reported r.answer, builder := r.builder, channel := r.channel, sent := r.sent
          events := r.events, reports := [Answer.report r.answer] } := by
  obtain ⟨progress, b, world, sent, es, reports⟩ := k
  subst reported
  have called : reports = [Answer.report answer] := sound
  subst called
  simp only [outcome, left, List.append_nil]

/-- With four turns a task has done what the call does that is waited for, and has called its
callback once. -/
theorem turns_eq {n : Nat} (enough : 4 ≤ n) (world : σ) (b : Builder) (t : Terminal) :
    let r := b.run send world t
    (schedule world b t).turns send n =
      { progress := .reported r.answer, builder := r.builder, channel := r.channel, sent := r.sent
        events := r.events, reports := [Answer.report r.answer] } := by
  have most := turns_turns send n (schedule world b t)
  have four : (schedule world b t).progress.turns = 4 := rfl
  have none : ((schedule world b t).turns send n).progress.turns = 0 := by omega
  obtain ⟨answer, reported⟩ := Progress.turns_eq_zero none
  have final := eq_of_reported send (turns_sound send n (k := schedule world b t) rfl) reported
  rw [turns_outcome, schedule_outcome] at final
  exact final

theorem settle_eq (world : σ) (b : Builder) (t : Terminal) :
    let r := b.run send world t
    (schedule world b t).settle send =
      { progress := .reported r.answer, builder := r.builder, channel := r.channel, sent := r.sent
        events := r.events, reports := [Answer.report r.answer] } :=
  turns_eq send (Nat.le_refl 4) world b t

/-- However many turns there are, the callback is not called twice. -/
theorem turns_reports (n : Nat) (world : σ) (b : Builder) (t : Terminal) :
    ((schedule world b t).turns send n).reports <+: [Answer.report (b.run send world t).answer] := by
  have sound := turns_sound send n (k := schedule world b t) rfl
  have outcome := turns_outcome send n (schedule world b t)
  generalize (schedule world b t).turns send n = k at sound outcome
  rw [← schedule_outcome, ← outcome]
  unfold Sound at sound
  split at sound
  · rename_i answer reported
    have once : k.reports = [Answer.report (k.outcome send).answer] := by
      rw [sound, CallbackTask.outcome, left, reported]
    exact once ▸ List.prefix_refl _
  · rw [sound]
    exact List.nil_prefix

end CallbackTask

end TableQuery

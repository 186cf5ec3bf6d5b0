import TableQuery.Proofs.Builder.Gate
import TableQuery.Proofs.Builder.PageRequest
import TableQuery.Proofs.Session.Overlap
import TableQuery.Proofs.Session.Settled

/-!
# Pages that are asked for again

A count that fails ends a paginated call with the fault of the count, and the session is as it was.
So the call can be made again, any number of times, until the count succeeds. `run_retried` shows that
the last attempt is then a first one. A count that cannot be written is not even sent.
-/

namespace TableQuery

/-! ### Counts that fail -/

/-- What a row has under `count`, or else in the first place. -/
def Value.carried? : Value → Except Fault Value
  | .map es =>
    match Value.lookup? (.text "count") es with
    | some v => .ok v
    | Option.none => .error (.missingKey (.text "count"))
  | row => row.first?

/-- A reply to a count that gives no number, with the fault that it leads to: the channel raises it,
or there is no row, or no count in the row, or the count is no integer. -/
inductive CountFails : Except Fault Value → Fault → Prop
  | raised (f : Fault) : CountFails (.error f) f
  | noRow {reply : Value} {f : Fault} (rowless : reply.first? = .error f) : CountFails (.ok reply) f
  | noCount {reply row : Value} {f : Fault} (first : reply.first? = .ok row)
      (missing : row.carried? = .error f) : CountFails (.ok reply) f
  | notInteger {reply row v : Value} {f : Fault} (first : reply.first? = .ok row)
      (carried : row.carried? = .ok v) (rejected : v.integer? = .error f) : CountFails (.ok reply) f

theorem countIn_eq (reply : Value) :
    countIn reply = reply.first? >>= fun row => row.carried? >>= Value.integer? := by
  unfold countIn
  cases reply.first? with
  | error f => rfl
  | ok row =>
    rw [ok_bind, ok_bind]
    cases row with
    | map es =>
      unfold Value.carried?
      dsimp only
      cases Value.lookup? (.text "count") es <;> rfl
    | _ => rfl

theorem countFails_iff {reply : Except Fault Value} {f : Fault} :
    CountFails reply f ↔ reply.bind countIn = .error f := by
  constructor
  · intro fails
    cases fails with
    | raised f => rfl
    | noRow rowless =>
      show countIn _ = _
      rw [countIn_eq, rowless]
      rfl
    | noCount first missing =>
      show countIn _ = _
      rw [countIn_eq, first, ok_bind, missing]
      rfl
    | notInteger first carried rejected =>
      show countIn _ = _
      rw [countIn_eq, first, ok_bind, carried, ok_bind, rejected]
  · intro failed
    cases reply with
    | error g =>
      cases failed
      exact .raised f
    | ok v =>
      replace failed : countIn v = .error f := failed
      rw [countIn_eq] at failed
      cases first : v.first? with
      | error g =>
        rw [first] at failed
        cases failed
        exact .noRow first
      | ok row =>
        rw [first, ok_bind] at failed
        cases carried : row.carried? with
        | error g =>
          rw [carried] at failed
          cases failed
          exact .noCount first carried
        | ok n =>
          rw [carried, ok_bind] at failed
          exact .notInteger first carried failed

/-! ### Calls and replies -/

namespace Builder

variable {σ τ : Type} (send : Channel σ) (world : σ) (send' : Channel τ) (world' : τ)

/-- Calls that agree in all but their channels and what was logged. -/
def Alike (r : Finished σ) (r' : Finished τ) : Prop :=
  r'.answer = r.answer ∧ r'.builder = r.builder ∧ r'.sent = r.sent

theorem finishLeg_alike {b : Builder} {l : Leg}
    (same : Channel.replies send' world' (b.finishLeg send world l).sent =
      Channel.replies send world (b.finishLeg send world l).sent) :
    Alike (b.finishLeg send world l) (b.finishLeg send' world' l) := by
  cases l with
  | done answer => exact ⟨rfl, rfl, rfl⟩
  | send s reading =>
    have reply := (List.cons.inj same).1
    refine ⟨?_, rfl, rfl⟩
    show reading.finish _ = reading.finish _
    rw [reply]

/-- A call sees nothing of a channel but the replies to what it sends. -/
theorem run_alike {b : Builder} {t : Terminal}
    (same : Channel.replies send' world' (b.run send world t).sent =
      Channel.replies send world (b.run send world t).sent) :
    Alike (b.run send world t) (b.run send' world' t) := by
  unfold run at same ⊢
  generalize b.start t = opened at same ⊢
  obtain ⟨b', es, l | ⟨s, size, number⟩⟩ := opened
  · exact finishLeg_alike send world send' world' same
  · -- The reply to the count decides what is sent next.
    obtain ⟨reply, rest⟩ := List.cons.inj same
    dsimp only
    rw [reply]
    obtain ⟨answer, builder, sent⟩ := finishLeg_alike send _ send' _ rest
    exact ⟨answer, builder, congrArg (s :: ·) sent⟩

end Builder

namespace Session

/-! ### Attempts -/

/-- A paginated call whose count fails. -/
structure Attempt where
  size : Value
  number : Value
  fault : Fault

def Attempt.step (h : Handle) (a : Attempt) : Step :=
  ⟨h, .terminal (.getPaginated a.size a.number), ""⟩

variable {σ : Type} (send : Channel σ) (world : σ) {s : Session} {h : Handle} {b : Builder}

/-- A channel lets the count fail in one attempt after the other, and is left in some state. -/
inductive Failing (count : Statement) : σ → List Attempt → σ → Prop
  | none (world : σ) : Failing count world [] world
  | next {world world' : σ} {a : Attempt} {rest : List Attempt} (sized : a.size.Positive)
      (numbered : a.number.Positive)
      (fails : CountFails (send world count.sql count.values).reply a.fault)
      (later : Failing count (send world count.sql count.values).state rest world') :
      Failing count world (a :: rest) world'

theorem take_terminal_eq (present : s.builder? h = some b) (t : Terminal) (name : String) :
    let r := b.run send world t
    s.take send world ⟨h, .terminal t, name⟩ =
      { response := h.respond r.answer, session := s.update h r.builder, channel := r.channel,
        sent := r.sent, events := r.events } := by
  rw [take_present send world present]
  exact perform_terminal send world s h b name t

/-- A call whose count failed leaves the session as it was. -/
theorem take_failed (present : s.builder? h = some b) (valid : b.misuse = none)
    (fresh : b.executed = false) (unlimited : b.limit = none) (unshifted : b.offset = none)
    (fits : b.ScopeFits) {a : Attempt} (sized : a.size.Positive) (numbered : a.number.Positive)
    (fails : CountFails (send world b.countStatement.sql b.countStatement.values).reply a.fault) :
    let p := s.take send world (a.step h)
    p.response = h.respond (.error a.fault) ∧ p.sent = [b.countStatement] ∧ p.session = s ∧
      p.channel = (send world b.countStatement.sql b.countStatement.values).state := by
  obtain ⟨_, number, fault⟩ := a
  obtain ⟨n, positive, rfl⟩ := sized
  obtain ⟨k, positive', rfl⟩ := numbered
  have bounds := Builder.pageBounds_eq_ok valid fresh unlimited unshifted positive positive'
  obtain ⟨sent, channel, answer, left⟩ := Builder.run_counting send world valid fits bounds
  have ends : b.counted n k (send world b.countStatement.sql b.countStatement.values).reply =
      (b, [], .done (.error fault)) := by
    unfold Builder.counted
    rw [countFails_iff.mp fails]
  rw [ends] at sent channel answer left
  intro p
  have taken : p = _ := take_terminal_eq send world present _ ""
  rw [taken]
  refine ⟨congrArg h.respond answer, sent, ?_, channel⟩
  show s.update h _ = s
  rw [left]
  exact update_same present

/-- A call whose count cannot be written leaves everything as it was. -/
theorem take_unwritable (present : s.builder? h = some b) (valid : b.misuse = none)
    (fresh : b.executed = false) (unlimited : b.limit = none) (unshifted : b.offset = none)
    (unfit : ¬b.ScopeFits) {a : Attempt} (sized : a.size.Positive) (numbered : a.number.Positive) :
    s.take send world (a.step h) =
      { response := h.respond (.error (.number .unwritable)), session := s, channel := world } := by
  obtain ⟨_, number, fault⟩ := a
  obtain ⟨n, positive, rfl⟩ := sized
  obtain ⟨k, positive', rfl⟩ := numbered
  have bounds := Builder.pageBounds_eq_ok valid fresh unlimited unshifted positive positive'
  have taken := take_terminal_eq send world present (.getPaginated (.int n) (.int k)) ""
  rw [Builder.run_uncounted send world valid unfit bounds] at taken
  refine taken.trans ?_
  show Performed.mk _ (s.update h b) _ _ _ = _
  rw [update_same present]
  rfl

/-- A call that ended with a fault, after it sent so much, and left the session as it was. -/
structure Failed (s : Session) (h : Handle) (f : Fault) (sent : List Statement) (p : Performed σ) :
    Prop where
  response : p.response = h.respond (.error f)
  sent : p.sent = sent
  session : p.session = s

/-- After attempts whose count fails a run goes on as if it began there. The induction is on the
attempts; each finds the session of the first. -/
theorem run_failing (present : s.builder? h = some b) (valid : b.misuse = none)
    (fresh : b.executed = false) (unlimited : b.limit = none) (unshifted : b.offset = none)
    (fits : b.ScopeFits) {attempts : List Attempt} {world' : σ}
    (failing : Failing send b.countStatement world attempts world') (later : List Step) :
    ∃ failures, s.run send world (attempts.map (·.step h) ++ later) =
        failures ++ s.run send world' later ∧
      List.Forall₂ (fun a => Failed s h a.fault [b.countStatement]) attempts failures := by
  induction failing with
  | none world => exact ⟨[], rfl, .nil⟩
  | @next world world' a rest sized numbered fails _ ih =>
    obtain ⟨failures, went, failed⟩ := ih
    obtain ⟨response, sent, session, channel⟩ :=
      take_failed send world present valid fresh unlimited unshifted fits sized numbered fails
    refine ⟨s.take send world (a.step h) :: failures, ?_, .cons ⟨response, sent, session⟩ failed⟩
    show _ :: run send _ _ (rest.map (·.step h) ++ later) = _ :: (failures ++ _)
    rw [session, channel, went]

/-- Attempts whose count cannot be written are the same, but the channel stays out of it. -/
theorem run_unwritable (present : s.builder? h = some b) (valid : b.misuse = none)
    (fresh : b.executed = false) (unlimited : b.limit = none) (unshifted : b.offset = none)
    (unfit : ¬b.ScopeFits) {attempts : List Attempt}
    (positive : ∀ a ∈ attempts, a.size.Positive ∧ a.number.Positive) (later : List Step) :
    ∃ failures, s.run send world (attempts.map (·.step h) ++ later) =
        failures ++ s.run send world later ∧
      List.Forall₂ (fun _ => Failed s h (.number .unwritable) []) attempts failures := by
  induction attempts with
  | nil => exact ⟨[], rfl, .nil⟩
  | cons a rest ih =>
    obtain ⟨sized, numbered⟩ := positive a List.mem_cons_self
    obtain ⟨failures, went, failed⟩ := ih fun a' member => positive a' (List.mem_cons_of_mem a member)
    have taken :=
      take_unwritable send world present valid fresh unlimited unshifted unfit sized numbered
    refine ⟨s.take send world (a.step h) :: failures, ?_, .cons ?_ failed⟩
    · show _ :: run send _ _ (rest.map (·.step h) ++ later) = _ :: (failures ++ _)
      rw [taken, went]
    · rw [taken]
      exact ⟨rfl, rfl, rfl⟩

theorem Failing.positive {count : Statement} {world world' : σ} {attempts : List Attempt}
    (failing : Failing send count world attempts world') :
    ∀ a ∈ attempts, a.size.Positive ∧ a.number.Positive := by
  induction failing with
  | none => exact fun a member => (List.not_mem_nil member).elim
  | next sized numbered _ _ ih => exact List.forall_mem_cons.mpr ⟨⟨sized, numbered⟩, ih⟩

/-- A call sees nothing of what was before it but the session. -/
theorem take_alike (present : s.builder? h = some b) (t : Terminal) (name : String) {τ : Type}
    (send' : Channel τ) (first : τ)
    (same : Channel.replies send' first (s.take send world ⟨h, .terminal t, name⟩).sent =
      Channel.replies send world (s.take send world ⟨h, .terminal t, name⟩).sent) :
    let p := s.take send world ⟨h, .terminal t, name⟩
    let p' := s.take send' first ⟨h, .terminal t, name⟩
    p'.sent = p.sent ∧ p'.response = p.response ∧ p'.session = p.session := by
  rw [take_terminal_eq send world present t name] at same ⊢
  rw [take_terminal_eq send' first present t name]
  obtain ⟨answer, builder, sent⟩ := Builder.run_alike send world send' first same
  dsimp only
  rw [answer, builder, sent]
  exact ⟨rfl, rfl, rfl⟩

/-- On a builder that is valid, was not executed and has no bounds, every attempt whose count fails
sends the count and nothing else, ends with the fault of the count and leaves the session as it was.
If the count cannot be written, then nothing is sent and the fault says so. After any number of such
attempts a call is carried out as if it was the first one: on any channel that gives it the same
replies, a first call sends the same, answers the same and leaves the same. -/
theorem run_retried (present : s.builder? h = some b) (valid : b.misuse = none)
    (fresh : b.executed = false) (unlimited : b.limit = none) (unshifted : b.offset = none)
    {attempts : List Attempt} {world' : σ}
    (failing : Failing send b.countStatement world attempts world') (t : Terminal) (name : String) :
    let last : Step := ⟨h, .terminal t, name⟩
    ∃ failures now, s.run send world (attempts.map (·.step h) ++ [last]) =
        failures ++ [s.take send now last] ∧
      (b.ScopeFits → now = world' ∧
        List.Forall₂ (fun a => Failed s h a.fault [b.countStatement]) attempts failures) ∧
      (¬b.ScopeFits → now = world ∧
        List.Forall₂ (fun _ => Failed s h (.number .unwritable) []) attempts failures) ∧
      let p := s.take send now last
      ∀ {τ : Type} (send' : Channel τ) (first : τ),
        Channel.replies send' first p.sent = Channel.replies send now p.sent →
        let p' := s.take send' first last
        p'.sent = p.sent ∧ p'.response = p.response ∧ p'.session = p.session := by
  intro last
  by_cases fits : b.ScopeFits
  · obtain ⟨failures, went, failed⟩ :=
      run_failing send world present valid fresh unlimited unshifted fits failing [last]
    exact ⟨failures, world', went, fun _ => ⟨rfl, failed⟩, fun unfit => (unfit fits).elim,
      take_alike send world' present t name⟩
  · obtain ⟨failures, went, failed⟩ :=
      run_unwritable send world present valid fresh unlimited unshifted fits failing.positive [last]
    exact ⟨failures, world, went, fun fit => (fits fit).elim, fun _ => ⟨rfl, failed⟩,
      take_alike send world present t name⟩

/-- The connection is lost during the first count, the second one gives no row, and the third
attempt gets its page. -/
theorem run_retried_twice :
    let orders : Builder := { table := .text "orders" }
    let s := ofBuilder orders
    let h : Handle := ⟨0, none⟩
    let lost : Fault := .raised (.library .builder "connection lost")
    let attempts : List Attempt :=
      [⟨.int 5, .int 2, lost⟩, ⟨.int 5, .int 2, .shape .outOfRange⟩]
    let third : Script := [.ok (.list [.list [.int 3]]), .ok (.list [])]
    let script : Script := .error lost :: .ok (.list []) :: third
    let last : Step := ⟨h, .terminal (.getPaginated (.int 5) (.int 2)), ""⟩
    s.builder? h = some orders ∧
      Failing Script.channel orders.countStatement script attempts third ∧
      ∃ failures, failures.map (·.response) = [.fault lost, .fault (.shape .outOfRange)] ∧
        s.run Script.channel script (attempts.map (·.step h) ++ [last]) =
          failures ++ [s.take Script.channel third last] ∧
        (s.take Script.channel third last).response =
          .answered (.page ⟨.int 3, .int 5, .int 2, []⟩) := by
  intro orders s h lost attempts third script last
  have five : (Value.int 5).Positive := ⟨5, by decide, rfl⟩
  have two : (Value.int 2).Positive := ⟨2, by decide, rfl⟩
  have failing : Failing Script.channel orders.countStatement script attempts third :=
    .next five two (.raised lost) (.next five two (.noRow rfl) (.none third))
  have fits : orders.ScopeFits := ⟨rfl, nofun⟩
  obtain ⟨failures, now, went, sent, -⟩ :=
    run_retried Script.channel script (s := s) (h := h) (b := orders) rfl rfl rfl rfl rfl failing
      (.getPaginated (.int 5) (.int 2)) ""
  obtain ⟨rfl, failed⟩ := sent fits
  refine ⟨rfl, failing, failures, ?_, went, ?_⟩
  · obtain _ | ⟨first, _ | ⟨second, ⟨⟩⟩⟩ : List.Forall₂ _ [_, _] failures := failed
    rw [List.map_cons, List.map_cons, first.response, second.response]
    rfl
  · have writable : Writable 5 (5 * (2 - 1)) := by decide +kernel
    have counts : (Except.ok (.list [.list [.int 3]]) : Except Fault Value).bind countIn = .ok 3 :=
      rfl
    obtain ⟨-, -, answer⟩ := Builder.run_writable Script.channel third (b := orders) rfl rfl rfl rfl
      (by decide) (by decide) fits
      (Builder.compileSelect_withBounds rfl rfl fits nofun writable) counts rfl
    have asked : last = ⟨h, .terminal (.getPaginated (.int (5 : Nat)) (.int (2 : Nat))), ""⟩ := rfl
    rw [asked, take_terminal_eq Script.channel third (b := orders) rfl]
    dsimp only
    rw [answer]
    rfl

end Session

end TableQuery

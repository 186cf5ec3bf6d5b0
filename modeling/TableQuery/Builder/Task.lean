import TableQuery.Builder.Terminal
import TableQuery.Callback
import TableQuery.Channel

/-!
# Tasks with a callback

A terminal call that reports is scheduled as a task. The loop gives it turns: it begins, it goes on
when a reply is there, it ends, and then its callback is called. `CallbackTask.settle` gives it as
many turns as it can need.
-/

namespace TableQuery

/-- Where a task stands. -/
inductive Progress where
  | scheduled (t : Terminal)
  | opened (o : Opening)
  | reported (answer : Except Fault Answer)

/-! ### Turns that are needed -/

def Leg.turns : Leg → Nat
  | .send .. => 2
  | .done _ => 1

def Opening.turns : Opening → Nat
  | .counting .. => 3
  | .leg l => l.turns

def Progress.turns : Progress → Nat
  | .scheduled _ => 4
  | .opened o => o.turns
  | .reported _ => 0

/-! ### Tasks -/

/-- A task on a builder, with the channel, what was sent and logged, and the calls that were made on
the callback. -/
structure CallbackTask (σ : Type) where
  progress : Progress
  builder : Builder
  channel : σ
  sent : List Statement := []
  events : List Event := []
  reports : List (Report Answer) := []

def Answer.report (answer : Except Fault Answer) : Report Answer :=
  (Completion.ofExcept answer).report

namespace CallbackTask

variable {σ : Type} (send : Channel σ)

def schedule (world : σ) (b : Builder) (t : Terminal) : CallbackTask σ :=
  { progress := .scheduled t, builder := b, channel := world }

/-- One turn: the task begins, goes on after the reply that it waited for, or is done and has its
callback called. -/
def turn (k : CallbackTask σ) : CallbackTask σ :=
  match k.progress with
  | .scheduled t =>
    let (b, es, o) := k.builder.start t
    { k with progress := .opened o, builder := b, events := k.events ++ es }
  | .opened (.counting s size number) =>
    let d := send k.channel s.sql s.values
    let (b, es, l) := k.builder.counted size number d.reply
    { k with
      progress := .opened (.leg l), builder := b, channel := d.state, sent := k.sent ++ [s]
      events := k.events ++ (d.events ++ es) }
  | .opened (.leg (.send s reading)) =>
    let d := send k.channel s.sql s.values
    { k with
      progress := .opened (.leg (.done (reading.finish d.reply))), channel := d.state
      sent := k.sent ++ [s], events := k.events ++ d.events }
  | .opened (.leg (.done answer)) =>
    { k with progress := .reported answer, reports := k.reports ++ [Answer.report answer] }
  | .reported _ => k

def turns : Nat → CallbackTask σ → CallbackTask σ
  | 0, k => k
  | n + 1, k => turns n (k.turn send)

def settle (k : CallbackTask σ) : CallbackTask σ := k.turns send k.progress.turns

end CallbackTask

end TableQuery

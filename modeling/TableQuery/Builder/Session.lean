import TableQuery.Builder.Call
import TableQuery.Builder.Task

/-!
# Sessions

A session holds named builders that share one channel. A name stands for a builder or for a wrapper
of one, and several names may stand for one builder. `Session.perform` carries out one call on a
name. A builder answers itself. A wrapper reads what the builder has under the same name and hands it
on: a value as it is, a terminal method as a task that reports to a callback, and any other method so
that the wrapper is returned in place of its builder.
-/

namespace TableQuery

/-- An object that is called: a builder, or a wrapper of one, which has a number of its own and keeps
to its builder. -/
structure Handle where
  builder : Nat
  wrapper : Option Nat := none
  deriving DecidableEq

/-- The builder that is called in the end. -/
def Handle.query (h : Handle) : Handle := { builder := h.builder }

/-- The builders of a session by number, the names given to them and to their wrappers, the latest
first, and the number of wrappers. -/
structure Session where
  builders : List Builder
  names : List (String × Handle)
  wrappers : Nat := 0

/-- What a call gives. An object comes with the misuse that is recorded in its builder. A coroutine
is a terminal call that was not awaited, and has done nothing. -/
inductive Response where
  | object (h : Handle) (misuse : Option Misuse)
  | compiled (s : Statement)
  | coroutine (t : Terminal)
  | answered (a : Answer)
  | reported (rs : List (Report Answer))
  | tableName (v : Value)
  | validity (valid : Bool)
  | misuse (m : Option Misuse)
  | fault (f : Fault)

def Response.ofCompiled : Except Fault Statement → Response
  | .ok s => .compiled s
  | .error f => .fault f

def Response.ofAnswer : Except Fault Answer → Response
  | .ok a => .answered a
  | .error f => .fault f

/-- A call carried out: the response, the builders, the channel, what was sent, and what was
logged. -/
structure Performed (σ : Type) where
  response : Response
  session : Session
  channel : σ
  sent : List Statement := []
  events : List Event := []

/-- A terminal call carried through: the builder, the channel, what was sent and logged, and the
answer. -/
structure Finished (σ : Type) where
  answer : Except Fault Answer
  builder : Builder
  channel : σ
  sent : List Statement := []
  events : List Event := []

namespace Builder

variable {σ : Type}

def finishLeg (send : Channel σ) (world : σ) (b : Builder) : Leg → Finished σ
  | .done answer => { answer, builder := b, channel := world }
  | .send s reading =>
    let d := send world s.sql s.values
    { answer := reading.finish d.reply, builder := b, channel := d.state, sent := [s],
      events := d.events }

/-- Carries a terminal call through, waiting for each reply in turn. -/
def run (send : Channel σ) (world : σ) (b : Builder) (t : Terminal) : Finished σ :=
  match b.start t with
  | (b, es, .leg leg) =>
    let r := finishLeg send world b leg
    { r with events := es ++ r.events }
  | (b, es, .counting s size number) =>
    let d := send world s.sql s.values
    let (b, es', leg) := b.counted size number d.reply
    let r := finishLeg send d.state b leg
    { r with sent := s :: r.sent, events := es ++ d.events ++ es' ++ r.events }

end Builder

/-- The terminal methods, which a wrapper knows by their names. -/
def terminalMethods : List String :=
  ["create", "delete", "find", "get", "get_count", "get_first", "get_paginated", "update"]

/-- How a wrapper hands on what its builder has under a name. -/
inductive Relay where
  | value
  | report
  | chain

def Relay.of (c : Call) : Relay :=
  if c.isValue then .value
  else if terminalMethods.contains c.method then .report
  else .chain

namespace Session

variable {σ : Type}

def ofBuilder (b : Builder) : Session := { builders := [b], names := [("main", ⟨0, none⟩)] }

def handle? (s : Session) (name : String) : Option Handle :=
  (s.names.find? (·.1 == name)).map (·.2)

def builder? (s : Session) (h : Handle) : Option Builder := s.builders[h.builder]?

def update (s : Session) (h : Handle) (b : Builder) : Session :=
  { s with builders := s.builders.set h.builder b }

def add (s : Session) (name : String) (b : Builder) : Session :=
  { s with
    builders := s.builders ++ [b], names := (name, { builder := s.builders.length }) :: s.names }

/-- Gives a name to a new wrapper of a builder. -/
def wrap (s : Session) (h : Handle) (name : String) : Session :=
  { s with names := (name, ⟨h.builder, some s.wrappers⟩) :: s.names, wrappers := s.wrappers + 1 }

/-- Calls a method of a builder, or reads a value of it. Nothing is awaited. `name` is given to the
builder that `scope` makes. -/
def ask (world : σ) (s : Session) (h : Handle) (b : Builder) (name : String) (c : Call) :
    Performed σ :=
  let stay (r : Response) : Performed σ := { response := r, session := s, channel := world }
  match c with
  | .clause c =>
    match b.call c with
    | .ok (b, es) =>
      { response := .object h b.misuse, session := s.update h b, channel := world, events := es }
    | .error f => stay (.fault f)
  | .buildSelect fields => stay (.ofCompiled (b.compileSelect fields))
  | .buildInsert data upsert => stay (.ofCompiled (b.compileInsert data upsert))
  | .buildUpdate data => stay (.ofCompiled (b.compileUpdate data))
  | .buildDelete => stay (.ofCompiled b.compileDelete)
  | .scope =>
    { response := .object { builder := s.builders.length } b.scope.misuse,
      session := s.add name b.scope, channel := world }
  | .table => stay (.tableName b.table)
  | .isValid => stay (.validity b.isValid)
  | .error => stay (.misuse b.misuse)
  | .terminal t => stay (.coroutine t)

/-- Waits for the coroutine that a call gave, if it gave one. -/
def await (send : Channel σ) (h : Handle) (b : Builder) (p : Performed σ) : Performed σ :=
  match p.response with
  | .coroutine t =>
    let r := b.run send p.channel t
    { response := .ofAnswer r.answer, session := p.session.update h r.builder, channel := r.channel,
      sent := r.sent, events := p.events ++ r.events }
  | _ => p

/-- Makes a task with a callback of the coroutine that a call gave, and lets it come to its end. -/
def report (send : Channel σ) (h : Handle) (b : Builder) (p : Performed σ) : Performed σ :=
  match p.response with
  | .coroutine t =>
    let k := (CallbackTask.schedule p.channel b t).settle send
    { response := .reported k.reports, session := p.session.update h k.builder, channel := k.channel,
      sent := k.sent, events := p.events ++ k.events }
  | _ => p

/-- Puts a wrapper in the place of its builder, if that is what a call has returned. -/
def chain (h : Handle) (p : Performed σ) : Performed σ :=
  match p.response with
  | .object returned misuse =>
    { p with response := .object (if returned = h.query then h else returned) misuse }
  | _ => p

/-- Carries out a call on an object. -/
def perform (send : Channel σ) (world : σ) (s : Session) (h : Handle) (b : Builder) (name : String)
    (c : Call) : Performed σ :=
  let p := s.ask world h.query b name c
  if h.wrapper.isNone then await send h b p
  else
    match Relay.of c with
    | .value => p
    | .report => report send h b p
    | .chain => chain h p

/-- Carries out a call by name on a named builder. An unknown name of a builder is a missing
key. -/
def invoke (send : Channel σ) (world : σ) (s : Session) (target method : String) (a : Arguments)
    (newName : String) : Performed σ :=
  let fail (f : Fault) : Performed σ :=
    { response := .fault f, session := s, channel := world }
  match s.handle? target with
  | none => fail (.missingKey (.text target))
  | some h =>
    match s.builder? h with
    | none => fail (.missingKey (.text target))
    | some b =>
      match Call.read method a with
      | .error f => fail f
      | .ok c => s.perform send world h b newName c

end Session

end TableQuery

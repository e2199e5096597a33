import ConverterKit.Pool.Guard
import ConverterKit.Resolution.Resolver
import ConverterKit.Scratch.Routine

/-!
# Conversion contexts

A conversion context is what a conversion routine needs: a pool of scratch buffers and a resolver of
service ids. Contexts share the resolver and have pools of their own.

Running a routine in a context borrows a buffer, empties it, lends it to the routine, empties it
again and gives it back. The buffer is under a guard, so it is given back however the routine ends;
but a routine that panics skips the second emptying, and its buffer comes back as it was left. The
next borrower never notices, since borrowing empties the buffer first.

Routines can be under way inside one another. The buffers lent to them are kept in a list, the
innermost first.

## Main definitions

* `Scratch.Context`: a pool of buffers
* `Scratch.World`: the contexts, the buffers lent out, the resolver and its host
* `Scratch.World.withScratch`: run a routine with a buffer
* `Scratch.World.openContext`, `serviceId`, `growScratch`: the other operations
-/

namespace ConverterKit

namespace Scratch

/-- A pool of scratch buffers of one kind. -/
structure Context where
  /-- How the buffers come into being. -/
  supply : Supply
  /-- The pool of the buffers. -/
  pool : Pool Buffer

/-- A buffer lent to a routine that is under way. -/
structure Loan where
  /-- The context whose pool the buffer goes back to. -/
  context : Nat
  /-- The buffer, under its guard. -/
  guard : Pool.Guard Buffer

/-- Contexts with what they share. -/
structure World (κ H : Type) where
  /-- The contexts, by number. -/
  contexts : Array Context := #[]
  /-- The buffers lent out, to the innermost routine first. -/
  loans : List Loan := []
  /-- The resolver and its host. -/
  session : Resolution.Session κ H

/-- What is noted in the journal of a world. -/
inductive Deed (κ H : Type) where
  /-- Something happened to the pool of a context. -/
  | pool (context : Nat) (deed : Pool.Deed Empty Buffer)
  /-- Something happened to the resolver or its host. -/
  | resolution (deed : Resolution.Deed κ H)
  /-- A routine began, with this buffer; those under way are given with it, the innermost first. -/
  | lent (context : Nat) (buffer : Buffer) (others : List Loan)
  /-- The buffer of a routine was given back. -/
  | returned (context : Nat) (guard : Pool.Guard Buffer)
  /-- An event was reported. -/
  | reported (event : Log.Event)

/-- The event a deed reports, if it is a report. -/
def Deed.event? {κ H : Type} : Deed κ H → Option Log.Event
  | .pool _ d => d.event?
  | .resolution d => d.event?
  | .reported e => some e
  | _ => none

namespace Report

/-- A context is ready to be used. -/
def ready (kind : Pool.Kind) (available : Nat) : Log.Event where
  level := .debug
  message := "conversion context ready"
  fields := [("kind", .text kind.label), ("available", .number available)]

end Report

namespace World

variable {κ H β ρ ε α : Type}

/-- An act on a world. -/
abbrev Work (κ H ε α : Type) : Type := Act (World κ H) (Deed κ H) ε α

/-- A call of the factory of buffers; it never nests. -/
def depth : Nat := 1

/-- The statistics of the buffers of a context. -/
def stats (w : World κ H) (context : Nat) : Pool.Stats :=
  match w.contexts[context]? with
  | some c => c.pool.stats
  | none => {}

/-- The world with another pool in a context. -/
def setPool (context : Nat) (pool : Pool Buffer) (w : World κ H) : World κ H :=
  match w.contexts[context]? with
  | some c => { w with contexts := w.contexts.setIfInBounds context { c with pool } }
  | none => w

/-- Let the pool of a context do something with its factory. A context that does not exist
panics. -/
def onPool (context : Nat) (work : Pool.Factory Empty Buffer → Pool.Work Empty Buffer α) :
    Work κ H ε α := do
  match (← Act.state).contexts[context]? with
  | some c =>
    Act.within (fun _ => c.pool) (setPool context) (.pool context) Empty.elim
      (work c.supply.factory)
  | none => Act.panic "no such context"

/-- Let the resolver do something. -/
def onSession (work : Resolution.Session.Work κ H α) : Work κ H ε α :=
  Act.within session (fun session w => { w with session }) .resolution Empty.elim work

/-! ## Buffers on loan -/

/-- Borrow a buffer and empty it. -/
def borrow (context : Nat) : Work κ H ε Unit := do
  let g ← onPool context fun f => do
    let g ← f.checkout depth
    g.amend Buffer.clear
  let buffer ← g.read
  Act.note (.lent context buffer (← Act.state).loans)
  Act.modify fun w => { w with loans := ⟨context, g⟩ :: w.loans }

/-- The buffer lent to the innermost routine. -/
def buffer : Work κ H ε Buffer := do
  match (← Act.state).loans with
  | loan :: _ => loan.guard.read
  | [] => Act.panic "no buffer on loan"

/-- Change the buffer lent to the innermost routine. -/
def amend (f : Buffer → Buffer) : Work κ H ε Unit := do
  match (← Act.state).loans with
  | loan :: rest =>
    let guard ← loan.guard.amend f
    Act.modify fun w => { w with loans := { loan with guard } :: rest }
  | [] => Act.panic "no buffer on loan"

/-- Give the buffer lent to the innermost routine back. -/
def giveBack : Work κ H ε Unit := do
  match (← Act.state).loans with
  | loan :: rest =>
    Act.modify fun w => { w with loans := rest }
    onPool loan.context fun _ => loan.guard.drop
    Act.note (.returned loan.context loan.guard)
  | [] => Act.panic "no buffer on loan"

/-- Run a routine with a buffer of a context, given how to run its steps. -/
def lend (context : Nat) (steps : Work κ H ConversionError ρ) : Work κ H ConversionError ρ := do
  borrow context
  let ending ← Act.settle do
    let result ← Act.attempt steps
    amend Buffer.clear
    Act.ofExcept result
  giveBack
  Act.conclude ending

/-! ## Routines -/

/-- Run a routine that has been lent a buffer. -/
def play (callbacks : Resolution.Callbacks κ H) (nesting : Nat) :
    Routine κ H β ρ → Work κ H ConversionError ρ
  | .finish r => return r
  | .fail e => Act.fail e
  | .panic m => Act.panic m
  | .read next => do play callbacks nesting (next (← buffer))
  | .edit change next => do
    amend (Buffer.edit change)
    play callbacks nesting next
  | .serviceId name next => do
    let upshot ← Act.rescue (onSession (callbacks.resolve nesting name))
    play callbacks nesting (next upshot)
  | .nest context inner next => do
    let upshot ← Act.rescue (Act.attempt (lend context (play callbacks nesting inner)))
    play callbacks nesting (next upshot)
  | .grow context count next => do
    let upshot ← Act.rescue (onPool context fun f => f.grow depth count)
    play callbacks nesting (next upshot)
  | .stats context next => do
    play callbacks nesting (next ((← Act.state).stats context))
  | .consult program next => do
    let upshot ← Act.rescue (onSession (callbacks.run nesting program))
    play callbacks nesting (next upshot)

/-- Run a routine with a buffer of a context. -/
def withScratch (callbacks : Resolution.Callbacks κ H) (nesting : Nat) (context : Nat)
    (routine : Routine κ H β ρ) : Work κ H ConversionError ρ :=
  lend context (play callbacks nesting routine)

/-! ## Contexts -/

/-- Open a context: a new pool of buffers of the given kind, filled with its first buffers. Nothing
is left of a context whose pool could not be filled. -/
def openContext (kind : Pool.Kind) (supply : Supply) (initial : UInt64) : Work κ H ε Unit := do
  let context := (← Act.state).contexts.size
  let pool ← Act.within (fun _ => Pool.empty kind) (fun _ w => w) (.pool context) Empty.elim do
    supply.factory.fill depth initial
    Act.state
  Act.note (.reported (Report.ready pool.kind pool.available))
  Act.modify fun w => { w with contexts := w.contexts.push { supply, pool } }

/-- Resolve a service name in a context. -/
def serviceId (callbacks : Resolution.Callbacks κ H) (nesting : Nat) (name : String) :
    Work κ H ConversionError ServiceId := do
  Act.ofExcept (← onSession (callbacks.resolve nesting name))

/-- Grow the pool of buffers of a context. -/
def growScratch (context : Nat) (count : UInt64) : Work κ H ε Unit :=
  onPool context fun f => f.grow depth count

/-- A one-line description of a context. -/
def describe (w : World κ H) (context : Nat) : String :=
  let buffers := match w.contexts[context]? with
    | some c => c.pool.describe
    | none => ""
  Text.record "ConversionContext"
    [("buffers", buffers), ("resolver", w.session.resolver.status.describe)]

end World

end Scratch

end ConverterKit

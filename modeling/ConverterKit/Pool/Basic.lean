import ConverterKit.Pool.Factory
import ConverterKit.Pool.Report

/-!
# Pools of reusable instances

A pool hands out instances that were used before when it has some idle, and asks its factory for a
new one when it has none. Whoever holds an instance releases it into the pool when done; instances
that the pool never made are welcome too.

The factory is code of the caller's and may use the pool while the pool is waiting for it, so the
order of every single step matters. An instance leaves the idle ones before the hit is counted; a
miss and a growth are counted only after the factory has returned and, for a growth, the instance
has been added; a factory error is counted where it is returned. Whatever a factory call does, the
pool is never in the middle of changing its idle instances while the call runs.

Each operation takes the factory call to use as an argument. `Factory.call` ties the knot: at depth
`n + 1` the script of a call is played with calls of depth `n` inside.

## Main definitions

* `Pool`: idle instances, counters and the number of factory calls begun
* `Pool.get`, `Pool.release`, `Pool.grow`: the operations
* `Pool.Script.play`, `Pool.Factory.call`: factory calls, which may use the pool themselves
* `Pool.Factory.build`: a new pool with its initial instances
-/

namespace ConverterKit

/-- A pool of instances. -/
structure Pool (α : Type) where
  /-- The instances nobody holds. -/
  idle : Pool.Idle α
  /-- What has been counted. -/
  counters : Pool.Counters := {}
  /-- How many factory calls have begun. -/
  calls : Nat := 0

namespace Pool

variable {ε α β : Type}

/-- A pool without instances. -/
def empty (kind : Kind) : Pool α := { idle := .empty kind }

/-- The kind of the store behind a pool. -/
def kind (p : Pool α) : Kind := p.idle.kind

/-- How many instances are idle. -/
def available (p : Pool α) : Nat := p.idle.available

/-- A snapshot of the counters. -/
def stats (p : Pool α) : Stats := { p.counters with available := p.available }

/-- A one-line description of a pool. -/
def describe (p : Pool α) : String :=
  Text.record "ObjectPool" [("kind", p.kind.title), ("stats", p.stats.describe)]

/-- A one-line description of the store behind a pool. -/
def describeStore (p : Pool α) : String :=
  let name := match p.kind with
    | .stack => "LocalStore"
    | .queue => "SharedStore"
  Text.recordAndMore name
    [("available", toString p.available), ("stats", p.stats.describe)]

/-- An act on a pool. -/
abbrev Work (ε α β : Type) : Type := Act (Pool α) (Deed ε α) ε β

/-! ## Single steps -/

/-- Count a happening. -/
def count (tally : Tally) : Work ε α Unit := do
  Act.modify fun p => { p with counters := p.counters.count tally }
  Act.note (.counted tally)

/-- Report an event. -/
def report (event : Log.Event) : Work ε α Unit := Act.note (.reported event)

/-- Add an instance to the idle ones. -/
def add (a : α) : Work ε α Unit := do
  Act.modify fun p => { p with idle := p.idle.push a }
  Act.note (.added a)

/-- Take the idle instance that is next, if there is one. -/
def serve : Work ε α (Option α) := do
  match (← Act.state).idle.pop? with
  | none => return none
  | some (a, rest) =>
    Act.modify fun p => { p with idle := rest }
    Act.note (.served a)
    return some a

/-- The greatest number of bytes that may be reserved at once. -/
def reservable : Nat := UInt64.size / 2 - 1

/-- Make room for further instances. Only a stack reserves room in advance, and it panics, before
anything else has happened, when that would take too many bytes or more instances than a word can
count. The room that is asked for is taken to be exact: a stack that grows would rather double the
room it has, which takes too many bytes sooner, but only if it holds a quarter of the bytes of an
address space already. That there may not be as much memory is not considered either. -/
def reserve (instanceSize : Nat) (count : UInt64) : Work ε α Unit := do
  match (← Act.state).idle with
  | .stack items =>
    let height := items.length + count.toNat
    if UInt64.size ≤ height ∨ reservable < height * instanceSize then
      Act.panic "capacity overflow"
  | .queue _ _ => return ()

/-! ## Operations -/

/-- Have an instance made by a factory call; an error of the factory is counted and reported. -/
def manufacture (call : Work ε α α) : Work ε α α := do
  match ← Act.settle call with
  | .error e =>
    count .failure
    report (Report.factoryFailed (← Act.state).kind)
    Act.fail e
  | ending => Act.conclude ending

/-- Serve a get: the idle instance that is next, or a new one. -/
def getOne (call : Work ε α α) : Work ε α α := do
  match ← serve with
  | some a =>
    count .hit
    return a
  | none =>
    let a ← manufacture call
    count .miss
    report (Report.miss (← Act.state).kind)
    return a

/-- Get an instance. -/
def get (call : Work ε α α) : Work ε α α := do
  let ending ← Act.settle (getOne call)
  Act.note (.getEnded ending)
  Act.conclude ending

/-- Release an instance, whether or not this pool made it. -/
def release (a : α) : Work ε α Unit := do
  add a
  count .release
  Act.note (.released a)

/-- Make and add the given number of instances, one at a time. Those added before an error or a
panic stay. -/
def addNew (call : Work ε α α) : Nat → Work ε α Unit
  | 0 => return ()
  | n + 1 => do
    add (← manufacture call)
    count .growth
    addNew call n

/-- Grow by a positive number of instances. -/
def growBy (instanceSize : Nat) (call : Work ε α α) (count : UInt64) : Work ε α Unit := do
  reserve instanceSize count
  addNew call count.toNat
  let p ← Act.state
  report (Report.grown p.kind count p.available)

/-- Grow the pool by a number of new instances. Growing by none does nothing at all. -/
def grow (instanceSize : Nat) (call : Work ε α α) (count : UInt64) : Work ε α Unit := do
  if count = 0 then
    return ()
  else
    Act.note (.growBegan count)
    let ending ← Act.settle (growBy instanceSize call count)
    Act.note (.growEnded count ending)
    Act.conclude ending

/-! ## Factory calls -/

/-- Play a script, with the given factory call for what it asks of the pool. -/
def Script.play (instanceSize : Nat) (call : Work ε α α) : Script ε α → Work ε α α
  | .make a => return a
  | .fail e => Act.fail e
  | .panic m => Act.panic m
  | .release a next => do
    Pool.release a
    next.play instanceSize call
  | .grow count next => do
    let upshot ← Act.rescue (Act.attempt (Pool.grow instanceSize call count))
    (next upshot).play instanceSize call
  | .get next => do
    let upshot ← Act.rescue (Act.attempt (Pool.get call))
    (next upshot).play instanceSize call

namespace Factory

/-- A call of the factory, in which further calls may nest to the given depth. The call takes the
next number when it begins. -/
def call (f : Factory ε α) : Nat → Work ε α α
  | 0 => Act.unfinished
  | depth + 1 => do
    let p ← Act.state
    Act.put { p with calls := p.calls + 1 }
    Act.note (.callBegan p.idle)
    let ending ← Act.settle ((f.script p.calls).play f.instanceSize (f.call depth))
    Act.note (.callEnded ending)
    Act.conclude ending

/-- Get an instance from a pool with this factory. -/
def get (f : Factory ε α) (depth : Nat) : Work ε α α := Pool.get (f.call depth)

/-- Grow a pool with this factory. -/
def grow (f : Factory ε α) (depth : Nat) (count : UInt64) : Work ε α Unit :=
  Pool.grow f.instanceSize (f.call depth) count

/-- Fill a new pool with its initial instances. -/
def fill (f : Factory ε α) (depth : Nat) (initial : UInt64) : Work ε α Unit := do
  f.grow depth initial
  report (Report.ready (← Act.state).kind initial)

/-- Build a pool with its initial instances. Only if that succeeded is there a pool at all; the
scene also tells what happened when it did not. -/
def build (f : Factory ε α) (kind : Kind) (depth : Nat) (initial : UInt64) :
    Ending ε Unit × Scene (Pool α) (Deed ε α) :=
  f.fill depth initial (.fresh (.empty kind))

end Factory

end Pool

end ConverterKit

import ConverterKit.Pool.Plan
import ConverterKit.Trial.Message

/-!
# Workers that share a pool

Several workers share one concurrent pool, or one context. What is reported of their work does not
depend on who gets to go first, so here they take turns: in every round each worker has one go.

## Main definitions

* `Trial.PoolShift.run`: workers that check out instances of one pool
* `Trial.ContextShift.run`: workers that run routines in one context
-/

namespace ConverterKit

namespace Trial

open Scratch (World)

/-- A shift of workers at one pool. -/
structure PoolShift where
  /-- How many workers there are. -/
  workers : Nat
  /-- How often each of them checks out an instance. -/
  rounds : Nat
  /-- By how many instances each of them grows the pool before that. -/
  growth : UInt64
  /-- How many instances there are from the start. -/
  initial : UInt64

namespace PoolShift

/-- The factory of the pool: a new instance every time. -/
def factory (s : PoolShift) : Pool.Factory String Pool.Tagged :=
  Pool.Plan.factory { first := [], later := .make, fallible := true, opening := s.initial.toNat }

/-- One round: all workers check out an instance before any of them drops it. Tells whether no two
held the same one. -/
def round (s : PoolShift) : Pool.Work String Pool.Tagged Bool := do
  let guards ← (List.range s.workers).mapM fun _ => s.factory.checkout 1
  let out ← guards.mapM Pool.Guard.read
  guards.forM Pool.Guard.drop
  return decide (out.map Pool.Tagged.tag).Nodup

/-- The whole shift. Tells whether no instance was ever out twice at once. -/
def run (s : PoolShift) : Pool.Work String Pool.Tagged Bool := do
  s.factory.fill 1 s.initial
  (List.range s.workers).forM fun _ => s.factory.grow 1 s.growth
  let unique ← (List.range s.rounds).mapM fun _ => s.round
  return unique.all id

end PoolShift

/-- A shift of workers at one context, over a directory with one service. -/
structure ContextShift where
  /-- How many workers there are. -/
  workers : Nat
  /-- How many routines each of them runs. -/
  rounds : Nat
  /-- A routine whose number is a multiple of this asks for an unknown service. -/
  unknownEvery : Nat

namespace ContextShift

/-- The service in the directory. -/
def known : String × ServiceId := ("DIRECT_FEED", 5)

/-- The service that is not there. -/
def unknown : String := "UNKNOWN_FEED"

/-- The one context, with default settings. -/
def plan : ContextPlan := { kind := .queue, settings := {} }

/-- The routine with the given number. -/
def message (s : ContextShift) (number : Nat) : Message :=
  let name := if number % s.unknownEvery = 0 then unknown else known.1
  routine [plan] 0 [.serviceId name]

/-- One round: every worker runs the routine with the given number. Yields how many produced the
bytes of the known service. -/
def round (s : ContextShift) (number : Nat) : ContextWork Nat := do
  let results ← (List.range s.workers).mapM fun _ =>
    Act.attempt (World.withScratch callbacks 2 0 (s.message number) : ContextWork (List UInt8))
  return results.countP fun
    | .ok bytes => bytes == idBytes known.2
    | .error _ => false

/-- The whole shift. Yields how many routines produced the bytes of the known service. -/
def run (s : ContextShift) : ContextWork Nat := do
  openContexts [plan]
  World.onSession (Resolution.Session.register ⟨0, .shared⟩)
  let good ← (List.range s.rounds).mapM s.round
  return good.foldl (· + ·) 0

/-- The world before the shift. -/
def world : ContextTrial := openWorld (start true [.directory (.ofList [known])])

end ContextShift

end Trial

end ConverterKit

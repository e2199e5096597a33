import ConverterKit.Act
import ConverterKit.Binary64
import ConverterKit.Text.Record

/-!
# Counting what a pool does

A store counts five kinds of happening. A miss and a growth both add an instance to the world, so
each of them raises the number of created instances as well; the other three raise one counter.
Counters are 64-bit words and wrap around, which a long-lived pool may rely on. Sums of them do not:
the number of gets is the sum of two counters, and it panics if it does not fit into a word.

## Main definitions

* `Pool.Tally`: a happening that is counted
* `Pool.Counters.count`: count one
* `Pool.Stats`: the counters together with the number of idle instances
* `Pool.Stats.hitRate`: the share of gets that were served without the factory
-/

namespace ConverterKit

namespace Pool

/-- A happening that a store counts. -/
inductive Tally where
  /-- A get was served from the idle instances. -/
  | hit
  /-- A get was served by the factory. -/
  | miss
  /-- An instance was given back. -/
  | release
  /-- An instance was made and added to the idle ones. -/
  | growth
  /-- The factory returned an error. -/
  | failure
deriving DecidableEq

/-- The counters of a store. -/
structure Counters where
  created : UInt64 := 0
  hits : UInt64 := 0
  misses : UInt64 := 0
  released : UInt64 := 0
  grown : UInt64 := 0
  factoryErrors : UInt64 := 0
deriving DecidableEq

/-- Count one happening. -/
def Counters.count (c : Counters) : Tally → Counters
  | .hit => { c with hits := c.hits + 1 }
  | .miss => { c with misses := c.misses + 1, created := c.created + 1 }
  | .release => { c with released := c.released + 1 }
  | .growth => { c with grown := c.grown + 1, created := c.created + 1 }
  | .failure => { c with factoryErrors := c.factoryErrors + 1 }

/-- A snapshot of a store: how many instances are idle, and the counters. -/
structure Stats extends Counters where
  /-- The number of idle instances. -/
  available : Nat := 0
deriving DecidableEq

namespace Stats

/-- The number of gets that were served, from the idle instances or by the factory. Unlike the
counters themselves it does not wrap around: a number that does not fit into a word panics. -/
def gets (s : Stats) : Ending Empty UInt64 :=
  if s.hits.toNat + s.misses.toNat < UInt64.size then .ok (s.hits + s.misses)
  else .panicked "attempt to add with overflow"

/-- The share that so many hits have in so many gets, zero before the first get. Both counts are
rounded to binary64 before they are divided. -/
def share (hits total : UInt64) : Binary64 :=
  if total = 0 then .zero else (Binary64.ofNat hits.toNat).div (Binary64.ofNat total.toNat)

/-- The share of gets that were served from the idle instances, if there is a number of gets. -/
def hitRate (s : Stats) : Ending Empty Binary64 := s.gets.map (share s.hits)

/-- The statistics as seven numbers: idle instances, then the counters in the order of their
declaration. -/
def toList (s : Stats) : List Nat :=
  [s.available, s.created.toNat, s.hits.toNat, s.misses.toNat, s.released.toNat, s.grown.toNat,
    s.factoryErrors.toNat]

/-- A one-line description. -/
def describe (s : Stats) : String :=
  Text.record "PoolStats"
    [("available", toString s.available),
      ("created", toString s.created.toNat),
      ("hits", toString s.hits.toNat),
      ("misses", toString s.misses.toNat),
      ("released", toString s.released.toNat),
      ("grown", toString s.grown.toNat),
      ("factory_errors", toString s.factoryErrors.toNat)]

end Stats

end Pool

end ConverterKit

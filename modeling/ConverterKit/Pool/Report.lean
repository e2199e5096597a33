import ConverterKit.Log
import ConverterKit.Pool.Idle

/-!
# What stores report

The four events of a store, worded by its kind.
-/

namespace ConverterKit

namespace Pool

namespace Report

/-- A store was built and holds its initial instances. -/
def ready (kind : Kind) (initial : UInt64) : Log.Event where
  level := .debug
  message := kind.label ++ " backing store ready"
  fields := [("initial_size", .number initial.toNat)]

/-- The factory returned an error. -/
def factoryFailed (kind : Kind) : Log.Event where
  level := .debug
  message := kind.label ++ " store factory failed"

/-- A get was served by the factory. -/
def miss (kind : Kind) : Log.Event where
  level := .trace
  message := kind.label ++ " store miss, manufactured new instance"

/-- A store has grown. A local store also says how many instances are idle now; in a concurrent
one that number may have changed again by the time it is read. -/
def grown (kind : Kind) (count : UInt64) (available : Nat) : Log.Event where
  level := .trace
  message := kind.label ++ " store grown"
  fields :=
    match kind with
    | .stack => [("count", .number count.toNat), ("available", .number available)]
    | .queue => [("count", .number count.toNat)]

end Report

end Pool

end ConverterKit

import ConverterKit.Error

/-!
# The configuration of a converter

Two sections: how the pool of scratch buffers is set up, and how service ids are resolved.

## Main definitions

* `Config`: the configuration, with its default values
* `Config.validate`: refuses values that a converter cannot run with
-/

namespace ConverterKit

namespace Config

/-- How the pool of scratch buffers is set up. -/
structure PoolSection where
  /-- How many buffers there are from the start. -/
  initialSize : UInt64 := 16
  /-- The bytes a new buffer has room for. -/
  scratchCapacity : UInt64 := 1024
deriving DecidableEq

/-- How service ids are resolved. -/
structure ResolutionSection where
  /-- Whether ids are kept for the next time. -/
  cacheServiceIds : Bool := true
deriving DecidableEq

end Config

/-- The configuration of a converter. -/
structure Config where
  pool : Config.PoolSection := {}
  resolution : Config.ResolutionSection := {}
deriving DecidableEq

namespace Config

/-- The error for a scratch buffer without room. -/
def noScratchCapacity : ConversionError :=
  .invalidConfig "pool.scratch_capacity" "must be greater than zero"

/-- The configuration itself, unless a converter could not run with it. -/
def validate (c : Config) : Except ConversionError Config :=
  if c.pool.scratchCapacity = 0 then .error noScratchCapacity else .ok c

/-- A one-line description. -/
def describe (c : Config) : String :=
  Text.record "ConverterConfig"
    [("pool", Text.record "PoolConfig"
        [("initial_size", toString c.pool.initialSize.toNat),
          ("scratch_capacity", toString c.pool.scratchCapacity.toNat)]),
      ("resolution", Text.record "ResolutionConfig"
        [("cache_service_ids", Text.ofBool c.resolution.cacheServiceIds)])]

/-- A configuration is refused exactly when its scratch buffers have no room. -/
theorem validate_eq_ok_iff {c d : Config} :
    c.validate = .ok d ↔ c.pool.scratchCapacity ≠ 0 ∧ d = c := by
  unfold validate
  split <;> simp_all [eq_comm]

end Config

end ConverterKit

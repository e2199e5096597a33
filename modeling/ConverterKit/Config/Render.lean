import ConverterKit.Config.Load

/-!
# Writing a configuration

The document of a configuration, with a table for each section and every setting written out. TOML
integers have 64 bits with a sign, so a size that does not fit has no written form.

## Main definitions

* `Config.render?`: the document of a configuration
* `Config.readsBack`: whether the document is read as the same configuration
-/

namespace ConverterKit

namespace Config

/-- The document of a configuration, if its sizes can be written. -/
def render? (c : Config) : Option String :=
  if Toml.fits c.pool.initialSize.toNat && Toml.fits c.pool.scratchCapacity.toNat then
    some ("[pool]\n" ++
      "initial_size = " ++ toString c.pool.initialSize.toNat ++ "\n" ++
      "scratch_capacity = " ++ toString c.pool.scratchCapacity.toNat ++ "\n" ++
      "\n" ++
      "[resolution]\n" ++
      "cache_service_ids = " ++ Text.ofBool c.resolution.cacheServiceIds ++ "\n")
  else none

/-- Whether a text is read as this configuration; an error if it is not read as any. -/
def readsBack (c : Config) (text : String) : Except LoadError Bool :=
  (parse text).map (· == c)

end Config

end ConverterKit

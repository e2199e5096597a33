import ConverterKit.Named
import ConverterKit.Resolution.Event

/-!
# Remembered ids

A cache of service ids belongs to one generation of the callback that gave them. It serves an id
only to those who read that very generation. An id of a newer generation empties the cache first,
and one of an older generation, which a slow callback may still bring, is not kept.

## Main definitions

* `Resolution.IdCache`: the ids of one generation
* `Resolution.IdCache.file`: keep an id
-/

namespace ConverterKit

namespace Resolution

/-- The ids that were obtained under one generation. -/
structure IdCache where
  /-- The generation the ids belong to. -/
  generation : UInt64 := 0
  /-- The ids by name. -/
  ids : NameMap ServiceId := .empty

namespace IdCache

/-- The id of a name, for someone who read the given generation. -/
def lookup? (c : IdCache) (name : String) (generation : UInt64) : Option ServiceId :=
  if c.generation = generation then c.ids.find? name else none

/-- Keep an id that was obtained under the given generation. -/
def file (c : IdCache) (name : String) (id : ServiceId) (generation : UInt64) : IdCache :=
  if generation < c.generation then c
  else if c.generation < generation then { generation, ids := NameMap.empty.insert name id }
  else { c with ids := c.ids.insert name id }

/-- Forget the id of a name. -/
def forget (c : IdCache) (name : String) : IdCache := { c with ids := c.ids.erase name }

/-- Forget all ids; the cache goes on belonging to its generation. -/
def clear (c : IdCache) : IdCache := { c with ids := .empty }

/-- The number of ids in the cache. -/
def size (c : IdCache) : Nat := c.ids.size

@[simp] theorem lookup?_of_ne {c : IdCache} {name : String} {g : UInt64} (h : c.generation ≠ g) :
    c.lookup? name g = none := if_neg h

theorem lookup?_self (c : IdCache) (name : String) :
    c.lookup? name c.generation = c.ids.find? name := if_pos rfl

end IdCache

end Resolution

end ConverterKit

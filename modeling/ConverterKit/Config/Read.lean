import ConverterKit.Config.Basic
import ConverterKit.Toml.Document

/-!
# Reading a configuration

A configuration is a TOML document with a table for each section. A key that means nothing is
ignored and one that is missing has its default value, but a key that means something must have a
value of the right kind. A section may also be an array that gives its settings in their order; and
a date in the place of a section is a table whose keys mean nothing.

## Main definitions

* `Config.Fields`: the settings of a section as they stand in a document
* `Config.ofDocument?`: the configuration of a document
* `Config.ofText?`: the configuration of a text
-/

namespace ConverterKit

namespace Config

open Toml (Item Entries)

/-- How a section gives its settings. -/
inductive Fields where
  /-- By name. -/
  | named (entries : Entries)
  /-- In their order. -/
  | listed (items : List Item)

namespace Fields

/-- The settings in an item that stands in the place of a section. -/
def ofItem? : Item → Option Fields
  | .table _ entries => some (.named entries)
  | .array items => some (.listed items)
  | .tables members => some (.listed (members.map (.table .header)))
  | .scalar .moment => some (.named [])
  | .scalar _ => none

/-- The settings of the section with the given key. -/
def ofSection? (key : String) (document : Entries) : Option Fields :=
  match Named.find? key document with
  | none => some (.named [])
  | some item => ofItem? item

/-- The item of a setting, by its name or its place in the order. -/
def item? (fields : Fields) (name : String) (position : Nat) : Option Item :=
  match fields with
  | .named entries => Named.find? name entries
  | .listed items => items[position]?

/-- The value of a setting, or its default value; nothing if the item is of the wrong kind. -/
def value? {α : Type} (fields : Fields) (name : String) (position : Nat)
    (read? : Item → Option α) (default : α) : Option α :=
  match fields.item? name position with
  | none => some default
  | some item => read? item

end Fields

/-- The size in an item: an integer that is not negative. -/
def sizeOfItem? : Item → Option UInt64
  | .scalar (.integer n) => if 0 ≤ n then some (UInt64.ofNat n.toNat) else none
  | _ => none

/-- The truth value in an item. -/
def flagOfItem? : Item → Option Bool
  | .scalar (.boolean b) => some b
  | _ => none

/-- The configuration of a document, whether or not a converter can run with it. -/
def ofDocument? (document : Entries) : Option Config := do
  let poolFields ← Fields.ofSection? "pool" document
  let initialSize ← poolFields.value? "initial_size" 0 sizeOfItem? ({} : PoolSection).initialSize
  let scratchCapacity ←
    poolFields.value? "scratch_capacity" 1 sizeOfItem? ({} : PoolSection).scratchCapacity
  let resolutionFields ← Fields.ofSection? "resolution" document
  let cacheServiceIds ←
    resolutionFields.value? "cache_service_ids" 0 flagOfItem?
      ({} : ResolutionSection).cacheServiceIds
  return { pool := { initialSize, scratchCapacity }, resolution := { cacheServiceIds } }

/-- The configuration of a text, whether or not a converter can run with it. -/
def ofText? (text : String) : Option Config := do ofDocument? (← Toml.parse? text.toList)

end Config

end ConverterKit

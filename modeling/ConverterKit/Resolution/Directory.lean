import ConverterKit.Named
import ConverterKit.Resolution.Event

/-!
# Service directories

A directory is a table of service names and ids that a host keeps up to date. Its *generation*
counts the changes: it moves on whenever the id of some name has become another one, and only then,
so whoever remembers an id can tell from the generation whether it may still be used.

## Main definitions

* `Resolution.Directory`: names, ids and the generation
* `Resolution.Directory.insert`, `Resolution.Directory.remove`: changes, with the id that was there
* `Resolution.Directory.answer`: a directory as a callback
-/

namespace ConverterKit

namespace Resolution

/-- A table of service names and ids that knows how often it has changed. -/
structure Directory where
  /-- The ids by name. -/
  services : NameMap ServiceId := .empty
  /-- How often the table has changed. Like any word it wraps around. -/
  generation : UInt64 := 0

namespace Directory

/-- A directory without services. -/
def empty : Directory := {}

/-- A directory with these services from the start; a later id for a name replaces an earlier one.
Nothing has changed yet. -/
def ofList (services : List (String × ServiceId)) : Directory :=
  { services := NameMap.ofList services }

/-- The id of a service. -/
def get? (d : Directory) (name : String) : Option ServiceId := d.services.find? name

/-- The number of services. -/
def size (d : Directory) : Nat := d.services.size

/-- Give a service an id. Also yields the id it had before; if that is the same one, nothing has
changed. -/
def insert (d : Directory) (name : String) (id : ServiceId) : Option ServiceId × Directory :=
  let previous := d.get? name
  (previous,
    { services := d.services.insert name id
      generation := if previous = some id then d.generation else d.generation + 1 })

/-- Remove a service. Also yields the id it had; if it had none, nothing has changed. -/
def remove (d : Directory) (name : String) : Option ServiceId × Directory :=
  let removed := d.get? name
  (removed,
    { services := d.services.erase name
      generation := if removed.isSome then d.generation + 1 else d.generation })

/-- Answer an event from the directory. The slot of the event is left alone when the service is
unknown. -/
def answer (d : Directory) (e : Event) : Outcome × Event :=
  match d.get? e.name with
  | some id => (.success, e.assign id)
  | none => (.failure, e)

@[simp] theorem get?_empty (name : String) : empty.get? name = none := rfl

@[simp] theorem size_empty : empty.size = 0 := rfl

theorem get?_insert (d : Directory) (name other : String) (id : ServiceId) :
    (d.insert name id).2.get? other = if name = other then some id else d.get? other :=
  NameMap.find?_insert d.services name other id

theorem get?_remove (d : Directory) (name other : String) :
    (d.remove name).2.get? other = if name = other then none else d.get? other :=
  NameMap.find?_erase d.services name other

@[simp] theorem fst_insert (d : Directory) (name : String) (id : ServiceId) :
    (d.insert name id).1 = d.get? name := rfl

@[simp] theorem fst_remove (d : Directory) (name : String) :
    (d.remove name).1 = d.get? name := rfl

end Directory

end Resolution

end ConverterKit

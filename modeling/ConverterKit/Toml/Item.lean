import ConverterKit.Named

/-!
# Tables and what they hold

The items of a document, and the rules by which tables come into being. A table is written once: by
a header, by braces, or by the dotted keys of one place. The parents that a header or a dotted key
needs are made on the way, and whether such a table may still be added to, or be written properly
later, depends on how it was made. So every table remembers its origin.

## Main definitions

* `Toml.Item`: a scalar, an array, a table, or an array of tables
* `Toml.setDotted`: set a dotted key in a table
* `Toml.update`: change the table that a header speaks about
-/

namespace ConverterKit

namespace Toml

/-- A value without parts. -/
inductive Scalar where
  | string (value : String)
  | integer (value : Int)
  /-- A float, by its text. -/
  | float (written : String)
  | boolean (value : Bool)
  /-- A date, a time of day, or both. -/
  | moment
deriving DecidableEq

/-- How a table came into being. -/
inductive Origin where
  /-- It has a header of its own, or is the document. -/
  | header
  /-- It is a parent that a header needed. -/
  | implied
  /-- It is a parent that a dotted key needed. -/
  | dotted
  /-- It stands in braces. -/
  | braces
deriving DecidableEq

/-- What a key can stand for. -/
inductive Item where
  /-- A value without parts. -/
  | scalar (value : Scalar)
  /-- An array, written as one value. -/
  | array (items : List Item)
  /-- A table. -/
  | table (origin : Origin) (entries : List (String × Item))
  /-- An array of tables, written by headers, first one first. -/
  | tables (members : List (List (String × Item)))

/-- The keys of a table with their items, in the order in which they were written. -/
abbrev Entries : Type := List (String × Item)

namespace Origin

/-- Whether dotted keys may lead through the table. -/
def admitsDotted : Origin → Bool
  | .implied | .dotted => true
  | .header | .braces => false

end Origin

/-- Set the key `name` below the given path of dotted keys. Nothing may be set twice. The path may
lead through tables that were made on the way to others, but must end in one that dotted keys made;
the last member stands for an array of tables. -/
def setDotted (name : String) (item : Item) : List String → Entries → Option Entries
  | [], entries =>
    match Named.find? name entries with
    | some _ => none
    | none => some (Named.set name item entries)
  | k :: path, entries =>
    match Named.find? k entries with
    | none => do
      let sub ← setDotted name item path []
      return Named.set k (.table .dotted sub) entries
    | some (.table origin sub) =>
      if origin.admitsDotted && (origin = .dotted || !path.isEmpty) then do
        let sub ← setDotted name item path sub
        return Named.set k (.table origin sub) entries
      else none
    | some (.tables members) =>
      match members.getLast? with
      | some last =>
        if path.isEmpty then none
        else do
          let sub ← setDotted name item path last
          return Named.set k (.tables (members.dropLast ++ [sub])) entries
      | none => none
    | some _ => none

/-- Change the table at the given path. Tables that are missing on the way are made; the last member
stands for an array of tables. The path of a header may lead through any table but one in
braces. -/
def update {β : Type} (change : Entries → Option (Entries × β)) :
    List String → Entries → Option (Entries × β)
  | [], entries => change entries
  | k :: path, entries =>
    match Named.find? k entries with
    | none => do
      let (sub, b) ← update change path []
      return (Named.set k (.table .implied sub) entries, b)
    | some (.table origin sub) =>
      if origin = .braces then none
      else do
        let (sub, b) ← update change path sub
        return (Named.set k (.table origin sub) entries, b)
    | some (.tables members) =>
      match members.getLast? with
      | some last => do
        let (sub, b) ← update change path last
        return (Named.set k (.tables (members.dropLast ++ [sub])) entries, b)
      | none => none
    | some _ => none

end Toml

end ConverterKit

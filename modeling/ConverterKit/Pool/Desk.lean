import ConverterKit.Pool.Guard

/-!
# A desk: one user of a pool and what that user holds

Everything a user does with a pool goes over a desk. Each instance that is handed out, bare or under
a guard, gets the next slot of the desk; slots are numbered from zero and never used twice. Later
requests name the slot they are about, so a whole session is a list of requests.

## Main definitions

* `Pool.Holder`: what a slot holds
* `Pool.Request`, `Pool.Reply`: what can be asked for, and the answers
* `Pool.Desk.serve`: answer a request
-/

namespace ConverterKit

namespace Pool

/-- What a slot of a desk holds. -/
inductive Holder (α : Type) where
  /-- A bare instance. -/
  | bare (a : α)
  /-- An instance under a guard. -/
  | guarded (g : Guard α)
  /-- Nothing any more. -/
  | vacant
deriving DecidableEq

/-- What the user of a pool can ask for. -/
inductive Request (α : Type) where
  /-- Get an instance. -/
  | get
  /-- Get an instance under a guard. -/
  | checkout
  /-- Grow the pool. -/
  | grow (count : UInt64)
  /-- Release an instance that does not come from a slot. -/
  | bring (a : α)
  /-- Release the bare instance in a slot. -/
  | release (slot : Nat)
  /-- Release a copy of the bare instance in a slot. -/
  | releaseCopy (slot : Nat)
  /-- Drop what is in a slot: a guard gives its instance back, a bare instance is lost. -/
  | drop (slot : Nat)
  /-- Take the instance out of the guard in a slot. -/
  | detach (slot : Nat)
  /-- Change the instance in a slot. -/
  | amend (slot : Nat) (change : α → α)
  /-- Look at the instance in a slot. -/
  | look (slot : Nat)

/-- The answer to a request. -/
inductive Reply (α : Type) where
  /-- It was done. -/
  | done
  /-- An instance was handed out and is in this slot now. -/
  | handedOut (slot : Nat) (a : α)
  /-- The instance the request was about. -/
  | item (a : α)
  /-- There is nothing in the slot. -/
  | noSlot
  /-- The slot holds a guard where a bare instance is needed, or the other way round. -/
  | wrongHolder
deriving DecidableEq

variable {ε α : Type}

namespace Holder

/-- What a slot holds as text, given how to write an instance; nothing for an empty slot. -/
def describe? (write : α → String) : Holder α → Option String
  | .bare a => some (write a)
  | .guarded g => some (g.describe write)
  | .vacant => none

end Holder

/-- A pool and the slots of one user. -/
structure Desk (α : Type) where
  /-- The pool behind the desk. -/
  pool : Pool α
  /-- What was handed out so far, by slot number. -/
  slots : Array (Holder α) := #[]

namespace Desk

/-- An act on a desk. -/
abbrev Work (ε α β : Type) : Type := Act (Desk α) (Deed ε α) ε β

/-- What a slot holds; an unknown slot is as good as an empty one. -/
def holder (d : Desk α) (slot : Nat) : Holder α := d.slots.getD slot .vacant

/-- Let the pool behind the desk do something. -/
def onPool {β : Type} (w : Pool.Work ε α β) : Work ε α β :=
  Act.within pool (fun p d => { d with pool := p }) id id w

/-- Put something into a slot that was handed out before. -/
def fill (slot : Nat) (h : Holder α) : Work ε α Unit :=
  Act.modify fun d => { d with slots := d.slots.setIfInBounds slot h }

/-- Hand out an instance in the next slot. -/
def handOut (h : Holder α) (a : α) : Work ε α (Reply α) := do
  let slot := (← Act.state).slots.size
  Act.modify fun d => { d with slots := d.slots.push h }
  return .handedOut slot a

/-- Answer a request, with the factory `f` nested at most to the given depth. -/
def serve (f : Factory ε α) (depth : Nat) : Request α → Work ε α (Reply α)
  | .get => do
    let a ← onPool (f.get depth)
    handOut (.bare a) a
  | .checkout => do
    let g ← onPool (f.checkout depth)
    handOut (.guarded g) (← g.read)
  | .grow count => do
    onPool (f.grow depth count)
    return .done
  | .bring a => do
    onPool (Pool.release a)
    return .done
  | .release slot => do
    match (← Act.state).holder slot with
    | .bare a =>
      fill slot .vacant
      onPool (Pool.release a)
      return .done
    | .guarded _ => return .wrongHolder
    | .vacant => return .noSlot
  | .releaseCopy slot => do
    match (← Act.state).holder slot with
    | .bare a =>
      onPool (Pool.release a)
      return .done
    | .guarded _ => return .wrongHolder
    | .vacant => return .noSlot
  | .drop slot => do
    match (← Act.state).holder slot with
    | .bare _ =>
      fill slot .vacant
      return .done
    | .guarded g =>
      fill slot .vacant
      onPool g.drop
      return .done
    | .vacant => return .noSlot
  | .detach slot => do
    match (← Act.state).holder slot with
    | .bare _ => return .wrongHolder
    | .guarded g =>
      let a ← onPool g.detach
      fill slot (.bare a)
      return .item a
    | .vacant => return .noSlot
  | .amend slot change => do
    match (← Act.state).holder slot with
    | .bare a =>
      fill slot (.bare (change a))
      return .item (change a)
    | .guarded g =>
      let g ← g.amend change
      fill slot (.guarded g)
      return .item (← g.read)
    | .vacant => return .noSlot
  | .look slot => do
    match (← Act.state).holder slot with
    | .bare a => return .item a
    | .guarded g => return .item (← g.read)
    | .vacant => return .noSlot

end Desk

end Pool

end ConverterKit

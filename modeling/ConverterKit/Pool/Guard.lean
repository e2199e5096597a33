import ConverterKit.Pool.Basic

/-!
# Checkout guards

A guard holds an instance on behalf of whoever checked it out and gives it back to the pool when it
is dropped. Detaching takes the instance out of the guard, which then has nothing to give back.

A guard is used up by dropping or detaching it. One that has given up its instance must not be
looked into; doing so panics, and the desk in `ConverterKit.Pool.Desk` shows that it never happens.

## Main definitions

* `Pool.Guard`: a checked-out instance
* `Pool.checkout`, `Pool.Guard.drop`, `Pool.Guard.detach`: its life
* `Pool.Guard.read`, `Pool.Guard.amend`: access to the instance
-/

namespace ConverterKit

namespace Pool

/-- An instance that goes back to the pool when the guard is dropped. -/
structure Guard (α : Type) where
  /-- The instance, as long as the guard has it. -/
  item? : Option α
deriving DecidableEq

variable {σ δ ε α : Type}

/-- Get an instance and put it under a guard. -/
def checkout (call : Work ε α α) : Work ε α (Guard α) := do
  let a ← get call
  return ⟨some a⟩

/-- Check out an instance with this factory. -/
def Factory.checkout (f : Factory ε α) (depth : Nat) : Work ε α (Guard α) :=
  Pool.checkout (f.call depth)

namespace Guard

/-- The instance under a guard. -/
def read (g : Guard α) : Act σ δ ε α :=
  match g.item? with
  | some a => pure a
  | none => Act.panic "pooled instance present until drop"

/-- Change the instance under a guard. -/
def amend (f : α → α) (g : Guard α) : Act σ δ ε (Guard α) := do
  let a ← g.read
  return ⟨some (f a)⟩

/-- Give the instance, if the guard still has it, back to the pool. -/
def drop (g : Guard α) : Work ε α Unit :=
  match g.item? with
  | some a => release a
  | none => return ()

/-- Take the instance out of a guard for good. What is left of the guard is dropped, and has nothing
to give back any more. -/
def detach (g : Guard α) : Work ε α α := do
  let a ← g.read
  Guard.drop ⟨none⟩
  return a

/-- A guard as text, given how to write an instance. -/
def describe (write : α → String) (g : Guard α) : String :=
  Text.wrapped "Pooled" (Text.optional (g.item?.map write))

@[simp] theorem read_some (a : α) :
    (Guard.read ⟨some a⟩ : Act σ δ ε α) = pure a := rfl

@[simp] theorem amend_some (f : α → α) (a : α) :
    (Guard.amend f ⟨some a⟩ : Act σ δ ε (Guard α)) = pure ⟨some (f a)⟩ := rfl

@[simp] theorem drop_some (a : α) :
    (Guard.drop ⟨some a⟩ : Work ε α Unit) = release a := rfl

/-- Dropping what is left of a detached guard does nothing. -/
@[simp] theorem detach_some (a : α) :
    (Guard.detach ⟨some a⟩ : Work ε α α) = pure a := rfl

@[simp] theorem detach_none :
    (Guard.detach ⟨none⟩ : Work ε α α) = Act.panic "pooled instance present until drop" := rfl

end Guard

end Pool

end ConverterKit

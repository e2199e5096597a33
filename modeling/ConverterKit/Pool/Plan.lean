import ConverterKit.Pool.Desk

/-!
# Planned factories

A factory whose calls follow a written plan, for trying out a pool. The instances it makes are
*tagged*: a new instance carries the number of the call that made it, so one can follow where each
instance goes, and a text that its holders may add to.

## Main definitions

* `Pool.Tagged`: an instance one can follow
* `Pool.Action`, `Pool.Plan`: what the calls of a planned factory do
* `Pool.Plan.factory`: the factory that follows a plan
-/

namespace ConverterKit

namespace Pool

/-- An instance that can be told apart from others. -/
structure Tagged where
  /-- The number of the factory call that made it, or whatever a stranger put there. -/
  tag : Nat
  /-- What its holders wrote into it. -/
  data : String := ""
deriving DecidableEq

namespace Tagged

/-- The instance as text: a mark and the tag. -/
def describe (t : Tagged) : String := "#" ++ toString t.tag

/-- Add to what is written in an instance. -/
def append (text : String) (t : Tagged) : Tagged := { t with data := t.data ++ text }

end Tagged

/-- What one call of a planned factory does. -/
inductive Action where
  /-- Return a new instance. -/
  | make
  /-- Report an error. -/
  | fail (reason : String)
  /-- Panic. -/
  | panic (message : String)
  /-- Use the pool: release an instance, grow, and get an instance to return instead of a new one,
  each of them optional and in this order. -/
  | use (release? : Option Tagged) (grow? : Option UInt64) (get : Bool)

/-- The script of an action for the call with the given number. A growth that fails makes the call
fail the same way, and panics are not caught. -/
def Action.script (number : Nat) : Action → Script String Tagged
  | .make => .make { tag := number }
  | .fail e => .fail e
  | .panic m => .panic m
  | .use release? grow? get =>
    let last : Script String Tagged :=
      if get then
        .get (.orStop .make)
      else .make { tag := number }
    let middle : Script String Tagged :=
      match grow? with
      | some count =>
        .grow count (.orStop fun _ => last)
      | none => last
    match release? with
    | some a => .release a middle
    | none => middle

/-- What the calls of a planned factory do, in the order of their numbers. -/
structure Plan where
  /-- What the first calls do. -/
  first : List Action
  /-- What all later calls do. -/
  later : Action
  /-- Whether the factory can report errors; one that cannot panics instead. -/
  fallible : Bool
  /-- How many calls the pool makes before it is handed over. The pool cannot be used by calls that
  build it, so actions that would use it just make an instance. -/
  opening : Nat

namespace Plan

/-- What the call with the given number does. -/
def action (p : Plan) (number : Nat) : Action :=
  match p.first.getD number p.later with
  | .fail e => if p.fallible then .fail e else .panic e
  | .use release? grow? get =>
    if number < p.opening then .make else .use release? grow? get
  | a => a

/-- The bytes a tagged instance takes: its tag, and the pointer, length and capacity of its
text. -/
def taggedSize : Nat := 32

/-- The factory that follows a plan. -/
def factory (p : Plan) : Factory String Tagged where
  instanceSize := taggedSize
  script number := (p.action number).script number

/-- How deep the calls of a planned factory can nest. Every call on the way down but the last few
is one of the first calls, each of which is made once: a later call that leads to another later
call leads to one more in the same way, and never ends. -/
def nesting (p : Plan) : Nat := p.first.length + 4

end Plan

end Pool

end ConverterKit

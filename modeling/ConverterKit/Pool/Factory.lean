import ConverterKit.Act
import ConverterKit.Log
import ConverterKit.Pool.Idle
import ConverterKit.Pool.Stats

/-!
# Factories

A pool makes instances with a factory. A factory is code of the caller's: a call of it may return a
new instance, report an error or panic, and before that it may use the very pool it is making an
instance for. What one call does is written down as a `Script`, a tree that branches on what the
pool answers, and on the panics of the calls that this leads to, which a call may catch or let
through; a factory says which script each of its calls follows, the calls being numbered from
zero in the order in which they begin.

## Main definitions

* `Pool.Script`: what one call of a factory does
* `Pool.Script.orStop`: how a call goes on that catches nothing
* `Pool.Factory`: a script for every call, and the room an instance takes
* `Pool.Deed`: what is noted in the journal of a pool
-/

namespace ConverterKit

namespace Pool

/-- What a call of a factory does, step by step. -/
inductive Script (ε α : Type) where
  /-- Return an instance. -/
  | make (a : α)
  /-- Report an error. -/
  | fail (reason : ε)
  /-- Panic. -/
  | panic (message : String)
  /-- Release an instance into the pool, then go on. -/
  | release (a : α) (next : Script ε α)
  /-- Grow the pool and go on as the result demands. -/
  | grow (count : UInt64) (next : Upshot ε Unit → Script ε α)
  /-- Get an instance from the pool and go on as the result demands. -/
  | get (next : Upshot ε α → Script ε α)

/-- What is left of a call that catches neither errors nor panics. -/
def Script.orStop {ε α β : Type} (next : β → Script ε α) : Upshot ε β → Script ε α
  | .ok (.ok b) => next b
  | .ok (.error reason) => .fail reason
  | .error message => .panic message

/-- A factory of instances. -/
structure Factory (ε α : Type) where
  /-- The bytes an instance takes where a stack keeps it. -/
  instanceSize : Nat
  /-- What the call with the given number does. -/
  script : Nat → Script ε α

/-- What is noted in the journal of a pool. The reports are what a listener sees; the other deeds
say what happened in between. -/
inductive Deed (ε α : Type) where
  /-- A call of the factory began while these instances were idle. -/
  | callBegan (idle : Idle α)
  /-- A call of the factory ended. -/
  | callEnded (ending : Ending ε α)
  /-- A get ended. -/
  | getEnded (ending : Ending ε α)
  /-- A growth by a positive count began. -/
  | growBegan (count : UInt64)
  /-- A growth by a positive count ended. -/
  | growEnded (count : UInt64) (ending : Ending ε Unit)
  /-- An instance was released. -/
  | released (a : α)
  /-- An instance joined the idle ones. -/
  | added (a : α)
  /-- An instance left the idle ones to serve a get. -/
  | served (a : α)
  /-- A happening was counted. -/
  | counted (tally : Tally)
  /-- An event was reported. -/
  | reported (event : Log.Event)

/-- The event a deed reports, if it is a report. -/
def Deed.event? {ε α : Type} : Deed ε α → Option Log.Event
  | .reported e => some e
  | _ => none

end Pool

end ConverterKit

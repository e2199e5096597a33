import ConverterKit.Act
import ConverterKit.Error
import ConverterKit.Resolution.Event

/-!
# Callbacks of the host

The host of a converter registers a callback that knows the ids of services. A callback is code of
the host's: while it answers it may change the host, use the very resolver that is asking it, and
ask other callbacks. What it does is written down as a `Program`, a tree that branches on what it
learns, the panics of the callbacks it brings about included: it may catch them or let them through.
And `Callbacks` says which program each callback runs for an event, and which generation it reports.

Callbacks are known by handles of a type `κ` and the host has states of a type `H`. Nothing is
assumed about either.

## Main definitions

* `Resolution.Program`: code of the host's
* `Resolution.Program.orPanic`: how code goes on that catches no panics
* `Resolution.Callbacks`: the callbacks behind the handles
-/

namespace ConverterKit

namespace Resolution

/-- What can be seen of a resolver from outside. -/
structure Status where
  /-- Whether a callback is registered. -/
  hasCallback : Bool
  /-- Whether ids are kept. -/
  caching : Bool
  /-- How many ids are kept. -/
  cached : Nat
deriving DecidableEq

/-- A one-line description of a resolver. -/
def Status.describe (s : Status) : String :=
  Text.record "ServiceIdResolver"
    [("has_callback", Text.ofBool s.hasCallback), ("caching", Text.ofBool s.caching),
      ("cached", toString s.cached)]

/-- Code of the host's that runs while a resolver exists, and ends with a value. -/
inductive Program (κ H β : Type) where
  /-- End with a value. -/
  | finish (value : β)
  /-- Panic. -/
  | panic (message : String)
  /-- Look at the host. -/
  | readHost (next : H → Program κ H β)
  /-- Change the host. -/
  | writeHost (host : H) (next : Program κ H β)
  /-- Resolve a service name, and go on even if a callback panics. -/
  | resolve (name : String) (next : Upshot ConversionError ServiceId → Program κ H β)
  /-- Make the resolver forget the id of a name. -/
  | invalidate (name : String) (next : Option ServiceId → Program κ H β)
  /-- Make the resolver forget all ids. -/
  | clear (next : Program κ H β)
  /-- Look at the resolver. -/
  | status (next : Status → Program κ H β)
  /-- Ask a callback directly, with a fresh event, and go on even if it panics. -/
  | ask (callback : κ) (name : String)
    (next : Except String (Outcome × Option ServiceId) → Program κ H β)

namespace Program

variable {κ H β γ : Type}

/-- Run a program and go on with its value. -/
def andThen (p : Program κ H β) (f : β → Program κ H γ) : Program κ H γ :=
  match p with
  | .finish b => f b
  | .panic m => .panic m
  | .readHost next => .readHost fun h => (next h).andThen f
  | .writeHost h next => .writeHost h (next.andThen f)
  | .resolve name next => .resolve name fun u => (next u).andThen f
  | .invalidate name next => .invalidate name fun r => (next r).andThen f
  | .clear next => .clear (next.andThen f)
  | .status next => .status fun s => (next s).andThen f
  | .ask k name next => .ask k name fun u => (next u).andThen f

instance : Monad (Program κ H) where
  pure := .finish
  bind := andThen

/-- What is left of code that catches no panics. -/
def orPanic (next : β → Program κ H γ) : Except String β → Program κ H γ
  | .ok b => next b
  | .error message => .panic message

/-- Change the host by a function. -/
def changeHost (f : H → H) : Program κ H Unit :=
  .readHost fun h => .writeHost (f h) (.finish ())

end Program

/-- The callbacks behind the handles. -/
structure Callbacks (κ H : Type) where
  /-- The generation that a callback reports, if it keeps count of changes at all. -/
  generation : κ → H → Option UInt64
  /-- What a callback does with an event: it gives the event back with an outcome. -/
  answer : κ → Event → Program κ H (Outcome × Event)

end Resolution

end ConverterKit

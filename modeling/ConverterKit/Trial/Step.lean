import ConverterKit.Pool.Stats
import ConverterKit.Resolution.Directory
import ConverterKit.Resolution.Callback

/-!
# Steps of a trial

A trial drives a resolver, and the hosts around it, through a list of steps. A host is either a
service directory or follows a script that says, for every name and every time it is asked, what it
does before it answers; it may take steps of the trial itself. What happens inside the callbacks is
written to a trace.

## Main definitions

* `Trial.Step`, `Trial.Reply`: a step, and its answer
* `Trial.Effect`, `Trial.Response`: what a scripted host does when it is asked
* `Trial.Trace`: an entry of the trace
-/

namespace ConverterKit

namespace Trial

open Resolution (Outcome)

/-- In what form the callback of a host is registered. -/
inductive Form where
  /-- Shared with the trial. -/
  | shared
  /-- Given to the resolver. -/
  | owned
  /-- As a function around the callback, which reports no generation. -/
  | function
  /-- The directory itself, which leaves no trace. -/
  | directory
deriving DecidableEq

namespace Form

/-- Whether a callback registered in this form reports the generation of its host. -/
def reportsGeneration : Form → Bool
  | .function => false
  | _ => true

/-- Whether a callback registered in this form leaves a trace. -/
def isTraced : Form → Bool
  | .directory => false
  | _ => true

end Form

/-- A callback: that of a host, in some form. Hosts are known by their numbers. -/
structure Callback where
  host : Nat
  form : Form
deriving DecidableEq

/-- What can be done with a host, resolver or not. -/
inductive HostStep where
  /-- Tell the generation. -/
  | generation
  /-- Report another generation from now on; a directory counts for itself and takes no notice. -/
  | setGeneration (generation : Option UInt64)
  /-- Give a service an id. -/
  | insert (name : String) (id : ServiceId)
  /-- Remove a service. -/
  | remove (name : String)
  /-- Look up a service. -/
  | get (name : String)
deriving DecidableEq

/-- A step of a trial. -/
inductive Step where
  /-- Resolve a service name. -/
  | resolve (name : String)
  /-- Resolve a service name, never mind why if there is no id. -/
  | lookup (name : String)
  /-- Forget the id kept for a name. -/
  | invalidate (name : String)
  /-- Forget all ids. -/
  | clear
  /-- Whether a callback is registered. -/
  | hasCallback
  /-- Describe the resolver. -/
  | describe
  /-- Register a callback. -/
  | register (callback : Callback)
  /-- Start again with a new resolver. -/
  | renew (cacheServiceIds : Bool)
  /-- Do something with a host. -/
  | onHost (host : Nat) (step : HostStep)
  /-- Ask the callback of a host directly. -/
  | ask (host : Nat) (name : String)
deriving DecidableEq

/-- The answer to a step. -/
inductive Reply where
  /-- An id, or why there is none. -/
  | id (result : Except ConversionError ServiceId)
  /-- What a lookup found. -/
  | found (outcome : Outcome) (id? : Option ServiceId)
  /-- The id that is or was there. -/
  | slot (id? : Option ServiceId)
  /-- It was done. -/
  | done
  /-- Yes or no. -/
  | flag (value : Bool)
  /-- A description. -/
  | text (value : String)
  /-- The resolver is in use elsewhere and cannot be changed. -/
  | shared
  /-- A generation. -/
  | generation (value : Option UInt64)
  /-- What a callback said and left in the slot. -/
  | answered (outcome : Outcome) (id? : Option ServiceId)
  /-- The host is no directory. -/
  | notDirectory

/-- Something a scripted host does when it is asked. -/
inductive Effect where
  /-- Write an id into the slot. -/
  | assign (id : ServiceId)
  /-- Write the length of the name, in bytes, into the slot. -/
  | assignLength
  /-- Panic. -/
  | panic (message : String)
  /-- Take a step. -/
  | step (step : Step)
deriving DecidableEq

/-- What a scripted host does and says when it is asked. -/
structure Response where
  effects : List Effect := []
  outcome : Outcome := .failure
deriving DecidableEq

/-- How a buffer is known again: by its number, or by whether it has enough room. -/
inductive Mark where
  | number (n : Nat)
  | roomy (yes : Bool)
deriving DecidableEq

/-- An entry of the trace of a trial. -/
inductive Trace where
  /-- The callback of a host was asked for a name. -/
  | call (host : Nat) (name : String)
  /-- A step taken inside a callback was answered. -/
  | inner (reply : Reply)
  /-- A routine began with a buffer that held so many bytes. -/
  | began (length : Nat) (mark : Mark)
  /-- A routine resolved a name. -/
  | id (result : Except ConversionError ServiceId)
  /-- A routine looked at the statistics of a pool. -/
  | stats (stats : Pool.Stats)
  /-- A routine ran another one. -/
  | nested (result : Except ConversionError (List UInt8))
  /-- A routine took a step. -/
  | took (reply : Reply)

end Trial

end ConverterKit

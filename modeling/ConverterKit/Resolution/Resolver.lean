import ConverterKit.Act
import ConverterKit.Log
import ConverterKit.Resolution.Callback
import ConverterKit.Resolution.IdCache

/-!
# Resolving service ids

A resolver answers for service names by asking its callback, and keeps the ids it was told for the
next time. It reads the generation of the callback before it asks, so an id is filed under a
generation that is never newer than the answer; if the host changes meanwhile, the id is filed under
a generation that nobody will read again. Only successes are kept, and only those of callbacks that
report a generation. Registering a callback makes the resolver forget everything.

A callback may use the resolver while it is being asked. `Session.invoke` ties the knot: at depth
`n + 1` the program of a callback runs with callbacks of depth `n` inside.

## Main definitions

* `Resolution.Resolver`: the callback and the ids kept
* `Resolution.Session`: a resolver and its host
* `Resolution.Session.resolve`, `invalidate`, `clear`, `register`: the operations
* `Resolution.Program.play`, `Resolution.Session.invoke`: code of the host's
-/

namespace ConverterKit

namespace Resolution

/-- Answers for service names. -/
structure Resolver (κ : Type) where
  /-- The callback to ask. -/
  callback? : Option κ := none
  /-- The ids kept, if ids are kept at all. -/
  cache? : Option IdCache := none

namespace Resolver

variable {κ : Type}

/-- A resolver without a callback. -/
def new (cacheServiceIds : Bool) : Resolver κ :=
  { cache? := if cacheServiceIds then some {} else none }

/-- Ask this callback from now on, and forget what others said. -/
def register (r : Resolver κ) (callback : κ) : Resolver κ where
  callback? := some callback
  cache? := r.cache?.map fun _ => {}

/-- The id kept for a name, for someone who read the given generation. -/
def cached? (r : Resolver κ) (name : String) (generation : Option UInt64) : Option ServiceId := do
  (← r.cache?).lookup? name (← generation)

/-- Keep an id. -/
def file (r : Resolver κ) (name : String) (id : ServiceId) (generation : UInt64) : Resolver κ :=
  { r with cache? := r.cache?.map (·.file name id generation) }

/-- Forget the id kept for a name. -/
def forget (r : Resolver κ) (name : String) : Resolver κ :=
  { r with cache? := r.cache?.map (·.forget name) }

/-- Forget all ids. -/
def clear (r : Resolver κ) : Resolver κ := { r with cache? := r.cache?.map IdCache.clear }

/-- The id kept for a name, under whatever generation. -/
def kept? (r : Resolver κ) (name : String) : Option ServiceId := do (← r.cache?).ids.find? name

/-- How many ids are kept. -/
def cachedCount (r : Resolver κ) : Nat := (r.cache?.map IdCache.size).getD 0

/-- What can be seen from outside. -/
def status (r : Resolver κ) : Status where
  hasCallback := r.callback?.isSome
  caching := r.cache?.isSome
  cached := r.cachedCount

end Resolver

/-- What is noted in the journal of a session. The reports are what a listener sees; the other deeds
say what happened in between. -/
inductive Deed (κ H : Type) where
  /-- A name began to be resolved. -/
  | began (name : String)
  /-- The id kept for a name was used, since the generation read was the right one. -/
  | served (name : String) (generation : Option UInt64) (id : ServiceId)
  /-- The callback is about to be asked for a name, the generation having been read. -/
  | consulting (callback : κ) (name : String) (generation : Option UInt64)
  /-- The callback has answered, leaving the slot of its event like this. -/
  | consulted (callback : κ) (name : String) (generation : Option UInt64) (outcome : Outcome)
      (id? : Option ServiceId)
  /-- A name has been resolved, or turned out to have no id. -/
  | ended (name : String) (result : Except ConversionError ServiceId)
  /-- The id kept for a name was forgotten. -/
  | invalidated (name : String)
  /-- All ids were forgotten. -/
  | cleared
  /-- A callback was registered. -/
  | registered (callback : κ)
  /-- The host has changed and is like this now. -/
  | changed (host : H)
  /-- An event was reported. -/
  | reported (event : Log.Event)

/-- The event a deed reports, if it is a report. -/
def Deed.event? {κ H : Type} : Deed κ H → Option Log.Event
  | .reported e => some e
  | _ => none

namespace Report

/-- There is no callback to ask. -/
def noCallback (name : String) : Log.Event where
  level := .debug
  message := MissingCause.noCallback.message
  fields := [("service_name", .text name)]

/-- The callback told an id. -/
def resolved (name : String) (id : ServiceId) : Log.Event where
  level := .trace
  message := "service id resolved"
  fields := [("service_name", .text name), ("service_id", .number id.toNat)]

/-- The ids kept belong to a generation that is over. -/
def directoryChanged (generation : UInt64) (stale : Nat) : Log.Event where
  level := .trace
  message := "service directory changed"
  fields := [("generation", .number generation.toNat), ("stale", .number stale)]

/-- The callback said it succeeded but did not say the id. -/
def missingId (name : String) : Log.Event where
  level := .warn
  message := "callback reported success without a service id"
  fields := [("service_name", .text name)]

/-- The callback knows no such service. -/
def callbackFailure (name : String) : Log.Event where
  level := .debug
  message := "service name could not be resolved"
  fields := [("service_name", .text name)]

end Report

/-- A resolver and the host it works for. -/
structure Session (κ H : Type) where
  resolver : Resolver κ
  host : H

namespace Session

variable {κ H : Type}

/-- An act in a session. What can go wrong with a name is a value here, so an act ends well unless
some code of the host's panics. -/
abbrev Work (κ H α : Type) : Type := Act (Session κ H) (Deed κ H) Empty α

/-- Report an event. -/
def report (event : Log.Event) : Work κ H Unit := Act.note (.reported event)

/-- Change the resolver. -/
def onResolver (f : Resolver κ → Resolver κ) : Work κ H Unit :=
  Act.modify fun s => { s with resolver := f s.resolver }

/-- Keep an id that was obtained under the given generation. That the cache moves on to a newer
generation is reported. -/
def remember (name : String) (id : ServiceId) (generation : UInt64) : Work κ H Unit := do
  match (← Act.state).resolver.cache? with
  | none => return ()
  | some cache =>
    if cache.generation < generation then
      report (Report.directoryChanged generation cache.size)
    onResolver fun r => r.file name id generation

/-- Turn the answer of a callback into a result. -/
def conclude (name : String) (generation : Option UInt64) (outcome : Outcome)
    (id? : Option ServiceId) : Work κ H (Except ConversionError ServiceId) := do
  match outcome, id? with
  | .success, some id =>
    report (Report.resolved name id)
    match generation with
    | some g => remember name id g
    | none => pure ()
    return .ok id
  | .success, none =>
    report (Report.missingId name)
    return .error (.serviceNotFound name .missingId)
  | .failure, _ =>
    report (Report.callbackFailure name)
    return .error (.serviceNotFound name .callbackFailure)

/-- How callbacks are asked: with an event, which they give back with an outcome. -/
abbrev Invoke (κ H : Type) : Type := κ → Event → Work κ H (Outcome × Event)

/-- Ask the callback for a name, having read this generation. -/
def consult (invoke : Invoke κ H) (callback : κ) (name : String) (generation : Option UInt64) :
    Work κ H (Except ConversionError ServiceId) := do
  Act.note (.consulting callback name generation)
  let (outcome, event) ← invoke callback { name }
  Act.note (.consulted callback name generation outcome event.id?)
  conclude name generation outcome event.id?

/-- The id of a name: the one kept if there is one to use, or what the callback says. -/
def find (callbacks : Callbacks κ H) (invoke : Invoke κ H) (name : String) :
    Work κ H (Except ConversionError ServiceId) := do
  let s ← Act.state
  match s.resolver.callback? with
  | none =>
    report (Report.noCallback name)
    return .error (.serviceNotFound name .noCallback)
  | some callback =>
    let generation := callbacks.generation callback s.host
    match s.resolver.cached? name generation with
    | some id =>
      Act.note (.served name generation id)
      return .ok id
    | none => consult invoke callback name generation

/-- Resolve a service name. -/
def resolve (callbacks : Callbacks κ H) (invoke : Invoke κ H) (name : String) :
    Work κ H (Except ConversionError ServiceId) := do
  Act.note (.began name)
  let result ← find callbacks invoke name
  Act.note (.ended name result)
  return result

/-- Forget the id kept for a name and tell what it was. -/
def invalidate (name : String) : Work κ H (Option ServiceId) := do
  let id? := (← Act.state).resolver.kept? name
  onResolver fun r => r.forget name
  Act.note (.invalidated name)
  return id?

/-- Forget all ids. -/
def clear : Work κ H Unit := do
  onResolver Resolver.clear
  Act.note .cleared

/-- Ask this callback from now on. -/
def register (callback : κ) : Work κ H Unit := do
  onResolver fun r => r.register callback
  Act.note (.registered callback)

/-- Change the host. -/
def setHost (host : H) : Work κ H Unit := do
  Act.modify fun s => { s with host }
  Act.note (.changed host)

end Session

open Session in
/-- Run code of the host's, with the given way of asking callbacks. -/
def Program.play {κ H β : Type} (callbacks : Callbacks κ H) (invoke : Invoke κ H) :
    Program κ H β → Work κ H β
  | .finish b => return b
  | .panic m => Act.panic m
  | .readHost next => do (next (← Act.state).host).play callbacks invoke
  | .writeHost host next => do
    setHost host
    next.play callbacks invoke
  | .resolve name next => do
    let upshot ← Act.rescue (Session.resolve callbacks invoke name)
    (next upshot).play callbacks invoke
  | .invalidate name next => do
    let id? ← Session.invalidate name
    (next id?).play callbacks invoke
  | .clear next => do
    Session.clear
    next.play callbacks invoke
  | .status next => do (next (← Act.state).resolver.status).play callbacks invoke
  | .ask callback name next => do
    let upshot ← Act.rescue (invoke callback { name })
    (next (upshot.map fun (outcome, event) => (outcome, event.id?))).play callbacks invoke

/-- Ask a callback, in which further callbacks may nest to the given depth. -/
def Session.invoke {κ H : Type} (callbacks : Callbacks κ H) : Nat → Invoke κ H
  | 0 => fun _ _ => Act.unfinished
  | depth + 1 => fun callback event =>
    (callbacks.answer callback event).play callbacks (invoke callbacks depth)

namespace Callbacks

variable {κ H : Type}

/-- Resolve a service name with these callbacks. -/
def resolve (callbacks : Callbacks κ H) (depth : Nat) (name : String) :
    Session.Work κ H (Except ConversionError ServiceId) :=
  Session.resolve callbacks (Session.invoke callbacks depth) name

/-- The id of a name, or a plain failure, whatever the reason is. -/
def lookup (callbacks : Callbacks κ H) (depth : Nat) (name : String) :
    Session.Work κ H (Outcome × Option ServiceId) := do
  match ← callbacks.resolve depth name with
  | .ok id => return (.success, some id)
  | .error _ => return (.failure, none)

/-- Run code of the host's with these callbacks. -/
def run {β : Type} (callbacks : Callbacks κ H) (depth : Nat) (p : Program κ H β) :
    Session.Work κ H β :=
  p.play callbacks (Session.invoke callbacks depth)

end Callbacks

end Resolution

end ConverterKit

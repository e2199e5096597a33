import ConverterKit.Scratch.World
import ConverterKit.Trial.Session

/-!
# Trials of conversion contexts

A trial of conversion contexts runs routines that are written as lists of steps. Such a routine
first writes to the trace in what state its buffer came, then takes its steps, and ends with what is
in its buffer.

## Main definitions

* `Trial.MessageStep`: a step of a routine
* `Trial.routine`: the routine of a list of steps
* `Trial.ContextStep`: a step of a trial of contexts
* `Trial.performIn`: take a step
-/

namespace ConverterKit

namespace Trial

open Scratch (World Routine)

/-- A step of a routine. -/
inductive MessageStep where
  /-- Append bytes. -/
  | append (bytes : List UInt8)
  /-- Cut the buffer down to a length. -/
  | truncate (length : Nat)
  /-- Resolve a name and append its id, high byte first; without an id, fail. -/
  | serviceId (name : String)
  /-- Resolve a name and write the result to the trace. -/
  | tryServiceId (name : String)
  /-- Fail. -/
  | fail (error : ConversionError)
  /-- Panic. -/
  | panic (message : String)
  /-- Run another routine; unless its errors are caught, they make this one fail too. -/
  | nest (context : Nat) (steps : List MessageStep) (catchErrors : Bool)
  /-- Grow the pool of a context. -/
  | grow (context : Nat) (count : UInt64)
  /-- Write the statistics of a context to the trace. -/
  | stats (context : Nat)
  /-- Take a step of a trial of a resolver. -/
  | take (step : Step)

/-- A context of a trial. -/
structure ContextPlan where
  kind : Pool.Kind
  settings : Config.PoolSection
  /-- What the buffers hold from the start, if they are made by the trial rather than the
  library; such buffers are known by their numbers. -/
  parts? : Option (List UInt8) := none

namespace ContextPlan

/-- How the buffers of the context come into being. -/
def supply (c : ContextPlan) : Scratch.Supply :=
  match c.parts? with
  | some bytes => .holding bytes
  | none => .withRoom c.settings.scratchCapacity

/-- How a buffer of the context is known again. -/
def mark (c : ContextPlan) (b : Scratch.Buffer) : Mark :=
  match c.parts? with
  | some _ => .number b.number
  | none => .roomy (c.settings.scratchCapacity.toNat ≤ b.room)

end ContextPlan

/-- A routine of a trial. Its own end, and that of code of the host's it runs, are replies. -/
abbrev Message : Type := Routine Callback Stage Reply (List UInt8)

/-- Write an entry to the trace. -/
def noting (entry : Trace) (next : Message) : Message :=
  .consult (do record entry; return .done) (.orPanic fun _ => next)

/-- The two bytes of an id, the high one first. -/
def idBytes (id : ServiceId) : List UInt8 := [UInt8.ofNat (id.toNat / 256), UInt8.ofNat id.toNat]

/-- The mark of a buffer in the context with the given number. -/
def markIn (plans : List ContextPlan) (context : Nat) (b : Scratch.Buffer) : Mark :=
  match plans[context]? with
  | some plan => plan.mark b
  | none => .number b.number

mutual

/-- The steps of a routine, followed by its end. -/
def playSteps (plans : List ContextPlan) : List MessageStep → Message
  | [] => .read fun b => .finish b.bytes
  | step :: rest => playStep plans step (playSteps plans rest)

/-- A step of a routine, and what follows it. Panics are let through. -/
def playStep (plans : List ContextPlan) : MessageStep → Message → Message
  | .append bytes, next => .edit (· ++ bytes) next
  | .truncate length, next => .edit (·.take length) next
  | .serviceId name, next => .serviceId name (.orPanic fun
    | .ok id => .edit (· ++ idBytes id) next
    | .error e => .fail e)
  | .tryServiceId name, next => .serviceId name (.orPanic fun r => noting (.id r) next)
  | .fail e, _ => .fail e
  | .panic m, _ => .panic m
  | .nest context steps catchErrors, next =>
    .nest context
      (.read fun b => noting (.began b.bytes.length (markIn plans context b))
        (playSteps plans steps))
      (.orPanic fun
        | .ok bytes => noting (.nested (.ok bytes)) next
        | .error e => if catchErrors then noting (.nested (.error e)) next else .fail e)
  | .grow context count, next => .grow context count (.orPanic fun _ => next)
  | .stats context, next => .stats context fun s => noting (.stats s) next
  | .take step, next => .consult step.program (.orPanic fun r => noting (.took r) next)

end

/-- The routine of a list of steps, to be run in the context with the given number. -/
def routine (plans : List ContextPlan) (context : Nat) (steps : List MessageStep) : Message :=
  .read fun b => noting (.began b.bytes.length (markIn plans context b)) (playSteps plans steps)

/-- A step of a trial of contexts. -/
inductive ContextStep where
  /-- Run a routine. -/
  | scratch (context : Nat) (steps : List MessageStep)
  /-- Resolve a name. -/
  | serviceId (name : String)
  /-- Grow the pool of a context. -/
  | grow (context : Nat) (count : UInt64)
  /-- Take a step of a trial of a resolver. -/
  | take (step : Step)

/-- The answer to a step of a trial of contexts. -/
inductive ContextReply where
  /-- What a routine ended with. -/
  | bytes (bytes : List UInt8)
  /-- An id. -/
  | id (id : ServiceId)
  /-- It was done. -/
  | done
  /-- What the resolver answered. -/
  | reply (reply : Reply)

/-- An act in a trial of contexts. -/
abbrev ContextWork (α : Type) : Type := World.Work Callback Stage ConversionError α

/-- A trial of contexts. -/
abbrev ContextTrial : Type := Scene (World Callback Stage) (Scratch.Deed Callback Stage)

/-- Begin a trial of contexts with the resolver of another trial. -/
def openWorld (t : ResolverTrial) : ContextTrial :=
  ⟨{ session := t.state }, t.journal.map .resolution⟩

/-- Open the contexts. -/
def openContexts (plans : List ContextPlan) : ContextWork Unit :=
  plans.forM fun plan => World.openContext plan.kind plan.supply plan.settings.initialSize

/-- Take a step. The contexts hold on to the resolver, so if there are any it is in use. -/
def performIn (nesting : Nat) (plans : List ContextPlan) : ContextStep → ContextWork ContextReply
  | .scratch context steps => do
    return .bytes (← World.withScratch callbacks nesting context (routine plans context steps))
  | .serviceId name => do return .id (← World.serviceId callbacks nesting name)
  | .grow context count => do
    World.growScratch context count
    return .done
  | .take step => do
    let inUse := !(← Act.state).contexts.isEmpty
    return .reply (← World.onSession (perform nesting inUse step))

/-- Take a step of a trial of contexts. -/
def nextIn (nesting : Nat) (plans : List ContextPlan) (step : ContextStep) (t : ContextTrial) :
    Ending ConversionError ContextReply × List Trace × ContextTrial :=
  let (ending, t) := performIn nesting plans step t
  let (trace, stage) := t.state.session.host.takeTrace
  let session := { t.state.session with host := stage }
  (ending, trace, { t with state := { t.state with session } })

end Trial

end ConverterKit

import ConverterKit.Trial.Stage

/-!
# Trials of a resolver

A trial of a resolver: the resolver is set up, and then taken through steps, each of which may
panic without ending the trial.

## Main definitions

* `Trial.perform`: take a step
* `Trial.takeTrace`: the trace since the last time
-/

namespace ConverterKit

namespace Trial

open Resolution (Session Resolver)

/-- An act in a trial of a resolver. -/
abbrev Work (α : Type) : Type := Session.Work Callback Stage α

/-- A trial of a resolver. -/
abbrev ResolverTrial : Type := Scene (Session Callback Stage) (Resolution.Deed Callback Stage)

/-- Begin a trial with a new resolver and these hosts. -/
def start (cacheServiceIds : Bool) (hosts : List Host) : ResolverTrial :=
  .fresh { resolver := .new cacheServiceIds, host := { hosts := hosts.toArray } }

/-- Take a step. A resolver that is in use elsewhere cannot have another callback registered. -/
def perform (nesting : Nat) (inUse : Bool) : Step → Work Reply
  | .register callback => do
    if inUse then
      return .shared
    else
      Session.register callback
      return .done
  | .renew cacheServiceIds => do
    Session.onResolver fun _ => Resolver.new cacheServiceIds
    return .done
  | step => callbacks.run nesting step.program

/-- The trace since the last time, and the stage to go on with. -/
def Stage.takeTrace (s : Stage) : List Trace × Stage := (s.trace.toList, { s with trace := #[] })

/-- Take a step of a trial. -/
def next (nesting : Nat) (step : Step) (t : ResolverTrial) :
    Ending Empty Reply × List Trace × ResolverTrial :=
  let (ending, t) := perform nesting false step t
  let (trace, stage) := t.state.host.takeTrace
  (ending, trace, { t with state := { t.state with host := stage } })

end Trial

end ConverterKit

import ConverterKit.Text.Quoted
import ConverterKit.Text.Record

/-!
# Asking for the id of a service

Services have names for people and ids for messages. Whoever wants the id for a name hands an event
to the callback of the host: the callback writes the id into the event's slot and says whether it
succeeded. It may write more than once, and what counts is what is in the slot at the end.

## Main definitions

* `Resolution.Outcome`: what a callback says
* `Resolution.Event`: the name asked for and the slot for its id
-/

namespace ConverterKit

/-- The id of a service. -/
abbrev ServiceId : Type := UInt16

namespace Resolution

/-- What a callback says about an event. -/
inductive Outcome where
  | success
  | failure
deriving DecidableEq

namespace Outcome

/-- Whether a callback says that it succeeded. -/
def isSuccess : Outcome → Bool
  | .success => true
  | .failure => false

/-- The outcome as it is shown to a user. -/
def label : Outcome → String
  | .success => "SUCCESS"
  | .failure => "FAILURE"

/-- The outcome as it is shown to a developer. -/
def title : Outcome → String
  | .success => "Success"
  | .failure => "Failure"

end Outcome

/-- A question for the id of a service. -/
structure Event where
  /-- The name of the service. -/
  name : String
  /-- The slot for the id. -/
  id? : Option ServiceId := none
deriving DecidableEq

namespace Event

/-- The event with an id in its slot, whatever was there before. -/
def assign (e : Event) (id : ServiceId) : Event := { e with id? := some id }

/-- A one-line description. -/
def describe (e : Event) : String :=
  Text.record "ServiceNameToIdEvent"
    [("service_name", Text.quoted e.name),
      ("service_id", Text.optional (e.id?.map fun id => toString id.toNat))]

@[simp] theorem name_assign (e : Event) (id : ServiceId) : (e.assign id).name = e.name := rfl

@[simp] theorem id?_assign (e : Event) (id : ServiceId) : (e.assign id).id? = some id := rfl

end Event

end Resolution

end ConverterKit

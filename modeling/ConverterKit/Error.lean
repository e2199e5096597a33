import ConverterKit.Text.Quoted
import ConverterKit.Text.Record

/-!
# Conversion errors

What can go wrong with a conversion: the name of a service has no id, or the configuration cannot be
run with.

## Main definitions

* `ConversionError`: the two errors
* `ConversionError.message`: the text shown to a user
* `ConversionError.describe`: the text shown to a developer
-/

namespace ConverterKit

/-- Why a service name has no id. -/
inductive MissingCause where
  /-- There is nobody to ask. -/
  | noCallback
  /-- The callback knows no such service. -/
  | callbackFailure
  /-- The callback said it succeeded but did not say the id. -/
  | missingId
deriving DecidableEq

/-- The cause in words. -/
def MissingCause.message : MissingCause → String
  | .noCallback => "no service name to id callback registered"
  | .callbackFailure => "callback reported no matching service"
  | .missingId => "callback reported success without setting a service id"

/-- What can go wrong with a conversion. -/
inductive ConversionError where
  /-- A service name has no id. -/
  | serviceNotFound (name : String) (cause : MissingCause)
  /-- A field of the configuration has a value that cannot be run with. -/
  | invalidConfig (field reason : String)
deriving DecidableEq

namespace ConversionError

/-- The error as it is shown to a user. Names and reasons stand in it as they are. -/
def message : ConversionError → String
  | .serviceNotFound name cause =>
    "Service not found: '" ++ name ++ "' has no service id (" ++ cause.message ++ ")"
  | .invalidConfig field reason =>
    "Invalid converter configuration: " ++ field ++ " " ++ reason

/-- The service name that has no id, if the error is about one. -/
def serviceName? : ConversionError → Option String
  | .serviceNotFound name _ => some name
  | .invalidConfig _ _ => none

/-- The two texts that make up an error: name and cause, or field and reason. -/
def parts : ConversionError → List String
  | .serviceNotFound name cause => [name, cause.message]
  | .invalidConfig field reason => [field, reason]

/-- A one-line description for a developer. -/
def describe : ConversionError → String
  | .serviceNotFound name cause =>
    Text.record "ServiceNotFound"
      [("service_name", Text.quoted name), ("cause", Text.quoted cause.message)]
  | .invalidConfig field reason =>
    Text.record "InvalidConfig"
      [("field", Text.quoted field), ("reason", Text.quoted reason)]

end ConversionError

end ConverterKit

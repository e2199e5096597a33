/-!
# The event log

Pools, the service id resolver, conversion contexts and the configuration loader report what they
do as *events*: a level, a fixed message and a few named fields. An event is plain data here; the
acts that emit events append them to a journal, so what was reported is part of every result and
can be reasoned about like any other value.

## Main definitions

* `Log.Event`: one report, and `Log.Event.of` to write one down
* `Log.Level.label`: the name a level is printed under
-/

namespace ConverterKit

namespace Log

/-- How important an event is, from the most detailed level to the most serious one. -/
inductive Level where
  | trace
  | debug
  | info
  | warn
deriving DecidableEq

/-- The name a level is printed under. -/
def Level.label : Level → String
  | .trace => "TRACE"
  | .debug => "DEBUG"
  | .info => "INFO"
  | .warn => "WARN"

/-- The value of a field: a text, a number or a truth value. -/
inductive Field where
  | text (value : String)
  | number (value : Nat)
  | flag (value : Bool)
deriving DecidableEq

/-- A report: its level, its message and its named fields, in the order they were recorded. -/
structure Event where
  /-- How important the report is. -/
  level : Level
  /-- The fixed text of the report. -/
  message : String
  /-- What the report is about. -/
  fields : List (String × Field) := []
deriving DecidableEq

end Log

end ConverterKit

/-!
# Records as text

Values are described in one line, `Name { first: 1, second: 2 }`, fields in the order of their
declaration. A description that keeps some fields to itself ends in `..`.

## Main definitions

* `Text.record`, `Text.recordAndMore`: a named record with its fields
* `Text.wrapped`: a named value with one unnamed part
-/

namespace ConverterKit

namespace Text

/-- The text of a truth value. -/
def ofBool (b : Bool) : String := if b then "true" else "false"

/-- The fields of a record, separated by commas. -/
def fields (parts : List (String × String)) : String :=
  ", ".intercalate (parts.map fun part => part.1 ++ ": " ++ part.2)

/-- A record that shows all of its fields. -/
def record (name : String) (parts : List (String × String)) : String :=
  name ++ " \x7b " ++ fields parts ++ " \x7d"

/-- A record that shows some of its fields. -/
def recordAndMore (name : String) (parts : List (String × String)) : String :=
  name ++ " \x7b " ++ fields parts ++ ", .. \x7d"

/-- A name applied to one part. -/
def wrapped (name part : String) : String := name ++ "(" ++ part ++ ")"

/-- A part that may be missing. -/
def optional : Option String → String
  | none => "None"
  | some part => wrapped "Some" part

end Text

end ConverterKit

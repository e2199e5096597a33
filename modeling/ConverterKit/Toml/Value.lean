import ConverterKit.Toml.Item
import ConverterKit.Toml.Moment
import ConverterKit.Toml.Number

/-!
# Values

What may stand on the right of an equals sign. Arrays may span lines, hold comments, and end in a
comma; tables in braces stay on one line and do not. Both nest to a fixed depth, which is what the
readers recurse on.

## Main definitions

* `Toml.value`: a value that nests at most so deep
* `Toml.assignment`: a path of keys, an equals sign and a value
-/

namespace ConverterKit

namespace Toml

open Reader

/-- A value without parts. -/
def scalar : Reader Scalar :=
  (do return .string (← string)) <|>
    (do moment; return .moment) <|>
    (do return .float (← float)) <|>
    (do return .integer (← integer)) <|>
    (do expect ['t', 'r', 'u', 'e']; return .boolean true) <|>
    (do expect ['f', 'a', 'l', 's', 'e']; return .boolean false)

/-- Values in brackets, separated by commas; a comma may follow the last one. -/
def array (element : Reader Item) : Reader Item := do
  expect ['[']
  gaps
  let items ← optional (sepBy (do expect [',']; gaps) (do
    let item ← element
    gaps
    return item))
  if items.isSome then
    let _ ← optional do
      expect [',']
      gaps
  expect [']']
  return .array (items.getD [])

/-- A path of keys, an equals sign and a value, blanks allowed around each. -/
def assignment (value : Reader Item) : Reader (List String × String × Item) := do
  let (path, name) ← key
  expect ['=']
  blanks
  let item ← value
  blanks
  return (path, name, item)

/-- Assignments in braces, separated by commas. -/
def braces (value : Reader Item) : Reader Item := do
  expect ['\x7b']
  blanks
  let assignments ← optional (sepBy (expect [',']) (assignment value))
  expect ['\x7d']
  let entries := (assignments.getD []).foldlM
    (fun entries (path, name, item) => setDotted name item path entries) []
  match entries with
  | some entries => return .table .braces entries
  | none => failure

/-- A value in which arrays and tables nest at most so deep. -/
def value : Nat → Reader Item
  | 0 => .scalar <$> scalar
  | depth + 1 => (.scalar <$> scalar) <|> array (value depth) <|> braces (value depth)

end Toml

end ConverterKit

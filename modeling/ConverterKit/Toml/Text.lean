import ConverterKit.Toml.Reader

/-!
# Strings and keys

The four ways of writing a string, and the three ways of writing a key. A *basic* string stands in
double quotes and knows escapes; a *literal* string stands in single quotes and is taken as it is.
Either can be tripled to span lines: then a line end right after the opening quotes is dropped, and
one or two quotes may stand anywhere inside, also right before the closing ones.

## Main definitions

* `Toml.string`: a string in any of the four forms
* `Toml.simpleKey`, `Toml.key`: one key, and a path of keys joined by dots
-/

namespace ConverterKit

namespace Toml

open Reader

/-- A character outside the ASCII range. -/
def isWide (c : Char) : Bool := 0x80 ≤ c.toNat

/-- A character that stands for itself in a basic string. -/
def isBasicChar (c : Char) : Bool :=
  isWide c || c == '\t' || (0x20 ≤ c.toNat && c.toNat < 0x7F && c != '"' && c != '\\')

/-- A character that may stand in a literal string. -/
def isLiteralChar (c : Char) : Bool :=
  isWide c || c == '\t' || (0x20 ≤ c.toNat && c.toNat < 0x7F && c != '\'')

/-- A hexadecimal digit of either case. -/
def isHexDigit (c : Char) : Bool :=
  c.isDigit || ('a' ≤ c && c ≤ 'f') || ('A' ≤ c && c ≤ 'F')

/-- The value of a digit, in any base up to sixteen. -/
def digitValue (c : Char) : Nat :=
  if c.isDigit then c.toNat - 48
  else if 'a' ≤ c then c.toNat - 87
  else c.toNat - 55

/-- The value of a row of digits. -/
def digitsValue (base : Nat) (digits : List Char) : Nat :=
  digits.foldl (fun n c => n * base + digitValue c) 0

/-- A character given by exactly so many hexadecimal digits. Numbers that belong to no character are
refused. -/
def codePoint (count : Nat) : Reader Char := do
  let digits ← exactly isHexDigit count
  let n := digitsValue 16 digits
  if n.isValidChar then return Char.ofNat n else failure

/-- A backslash and what it introduces. -/
def escape : Reader Char := do
  expect ['\\']
  match ← satisfy fun _ => true with
  | 'b' => return Char.ofNat 8
  | 't' => return '\t'
  | 'n' => return '\n'
  | 'f' => return Char.ofNat 12
  | 'r' => return '\r'
  | '"' => return '"'
  | '\\' => return '\\'
  | 'u' => codePoint 4
  | 'U' => codePoint 8
  | _ => failure

/-- A basic string on one line. -/
def basicString : Reader String := do
  expect ['"']
  let cs ← many (satisfy isBasicChar <|> escape)
  expect ['"']
  return String.ofList cs

/-- A literal string on one line. -/
def literalString : Reader String := do
  expect ['\'']
  let cs ← takeWhile isLiteralChar
  expect ['\'']
  return String.ofList cs

/-- A backslash at the end of a line, which takes the line end and all blanks and line ends after it
out of the string. -/
def foldedLines : Reader Unit := do
  expect ['\\']
  blanks
  newline
  let _ ← many (newline <|> (do let _ ← satisfy isBlank))

/-- One or two quotes that do not close a string spanning lines. -/
def innerQuotes (quote : Char) : Reader (List Char) :=
  (do expect [quote, quote]; notNext (· == quote); return [quote, quote]) <|>
    (do expect [quote]; notNext (· == quote); return [quote])

/-- The quotes that close a string spanning lines, with up to two more that belong to it. -/
def closingQuotes (quote : Char) : Reader (List Char) :=
  (do expect (List.replicate 5 quote); return [quote, quote]) <|>
    (do expect (List.replicate 4 quote); return [quote]) <|>
    (do expect (List.replicate 3 quote); return [])

/-- A string that may span lines, given its quote and how to read a piece of its inside. -/
def spanningString (quote : Char) (piece : Reader (List Char)) : Reader String := do
  expect (List.replicate 3 quote)
  let _ ← optional newline
  let pieces ← many ((do newline; return ['\n']) <|> innerQuotes quote <|> piece)
  let last ← closingQuotes quote
  return String.ofList (pieces.flatten ++ last)

/-- A basic string that may span lines. -/
def spanningBasicString : Reader String :=
  spanningString '"' <|
    (do let c ← satisfy isBasicChar; return [c]) <|>
      (do foldedLines; return []) <|>
      (do let c ← escape; return [c])

/-- A literal string that may span lines. -/
def spanningLiteralString : Reader String :=
  spanningString '\'' (do let c ← satisfy isLiteralChar; return [c])

/-- A string in any form. -/
def string : Reader String :=
  spanningBasicString <|> basicString <|> spanningLiteralString <|> literalString

/-- A character of a key without quotes. -/
def isBareChar (c : Char) : Bool := c.isAlphanum || c == '_' || c == '-'

/-- A key without quotes: letters, digits, underscores and hyphens of the ASCII range. -/
def bareKey : Reader String := do
  let cs ← takeWhile isBareChar
  if cs.isEmpty then failure else return String.ofList cs

/-- One key: bare, or a string on one line. -/
def simpleKey : Reader String := basicString <|> literalString <|> bareKey

/-- The greatest number of keys in a path, and how deep values may nest. -/
def depthLimit : Nat := 79

/-- A path of keys joined by dots, blanks allowed around each, as the keys before the last and the
last one. -/
def key : Reader (List String × String) := do
  let keys ← sepBy (expect ['.']) (do
    blanks
    let k ← simpleKey
    blanks
    return k)
  match keys.getLast? with
  | some last => if keys.length ≤ depthLimit then return (keys.dropLast, last) else failure
  | none => failure

end Toml

end ConverterKit

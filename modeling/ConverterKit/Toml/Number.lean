import ConverterKit.Toml.Text

/-!
# Numbers

An integer is decimal with an optional sign, or hexadecimal, octal or binary without one; it has to
fit 64 bits. A float is decimal with a fraction, an exponent or both, or one of the names `inf` and
`nan` with an optional sign. Single underscores may separate digits. A decimal number does not begin
with a superfluous zero.

The value of a float is of no use to anything here, so only its text is kept. It does matter how
large it is: a positive float that would be rounded to infinity is refused.

## Main definitions

* `Toml.integer`: an integer and its value
* `Toml.float`: a float and its text
* `Toml.exceedsFloats`: whether a decimal number is rounded to infinity
-/

namespace ConverterKit

namespace Toml

open Reader

/-- The digits that follow the first one: each may have an underscore before it. -/
def digitsBehind (test : Char → Bool) : List Char → List Char × List Char
  | '_' :: c :: cs =>
    if test c then
      let (digits, rest) := digitsBehind test cs
      (c :: digits, rest)
    else ([], '_' :: c :: cs)
  | c :: cs =>
    if test c then
      let (digits, rest) := digitsBehind test cs
      (c :: digits, rest)
    else ([], c :: cs)
  | [] => ([], [])

/-- One or more digits, with single underscores in between. -/
def digits (test : Char → Bool) : Reader (List Char) := do
  let first ← satisfy test
  let rest ← fun cs => some (digitsBehind test cs)
  return first :: rest

/-- An optional sign; tells whether it was a minus. -/
def sign : Reader Bool :=
  (do expect ['-']; return true) <|> (do expect ['+']; return false) <|> pure false

/-- The digits of a decimal number without a superfluous zero in front. -/
def decimalDigits : Reader (List Char) :=
  (do let _ ← expect ['0']; return ['0']) <|> digits Char.isDigit

/-! ## Integers -/

/-- Integers have 64 bits. -/
def fits (n : Int) : Bool := decide (Int64.minValue.toInt ≤ n ∧ n ≤ Int64.maxValue.toInt)

/-- An integer after a mark for its base. -/
def basedInteger (mark : Char) (base : Nat) (test : Char → Bool) : Reader Int := do
  expect ['0', mark]
  let ds ← digits test
  return digitsValue base ds

/-- A decimal integer. -/
def decimalInteger : Reader Int := do
  let negative ← sign
  let n : Int := Nat.ofDigitChars 10 (← decimalDigits) 0
  return if negative then -n else n

/-- An integer that fits 64 bits. -/
def integer : Reader Int := do
  let n ← basedInteger 'x' 16 isHexDigit
    <|> basedInteger 'o' 8 (fun c => '0' ≤ c && c ≤ '7')
    <|> basedInteger 'b' 2 (fun c => c == '0' || c == '1')
    <|> decimalInteger
  if fits n then return n else failure

/-! ## Floats -/

/-- Whether the decimal number `digits * 10 ^ exponent` is rounded to infinity when it is made a
binary64 number: whether it reaches the middle between the greatest finite number and the power of
two above it. The number of digits settles all but the close cases. -/
def exceedsFloats (digits : List Char) (exponent : Int) : Bool :=
  let significant := digits.dropWhile (· == '0')
  let magnitude := significant.length + exponent
  if significant.isEmpty || magnitude < 300 then false
  else if 320 < magnitude then true
  else
    let n := Nat.ofDigitChars 10 significant 0
    let bound := 1 <<< 1024 - 1 <<< 970
    decide (bound * Nat.pow 10 (-exponent).toNat ≤ n * Nat.pow 10 exponent.toNat)

/-- A point and the digits behind it. -/
def fraction : Reader (List Char) := do
  expect ['.']
  digits Char.isDigit

/-- An exponent: its sign and its digits. -/
def exponent : Reader (Bool × List Char) := do
  let _ ← satisfy fun c => c == 'e' || c == 'E'
  let negative ← sign
  let ds ← digits Char.isDigit
  return (negative, ds)

/-- A float written with digits. -/
def digitFloat : Reader String := do
  let negative ← sign
  let whole ← decimalDigits
  let (part, scale) ← (do
      let scale ← exponent
      return ([], scale)) <|> (do
      let part ← fraction
      let scale ← optional exponent
      return (part, scale.getD (false, [])))
  let power : Int := Nat.ofDigitChars 10 scale.2 0
  let power := if scale.1 then -power else power
  if !negative && exceedsFloats (whole ++ part) (power - part.length) then failure
  let mark := if negative then ['-'] else []
  let tail := if scale.1 then '-' :: scale.2 else scale.2
  return String.ofList (mark ++ whole ++ '.' :: part ++ 'e' :: tail)

/-- A float that goes by a name. -/
def namedFloat : Reader String := do
  let negative ← sign
  let name ← (do expect ['i', 'n', 'f']; return "inf") <|>
    (do expect ['n', 'a', 'n']; return "nan")
  return if negative then "-" ++ name else name

/-- A float in any form. -/
def float : Reader String := digitFloat <|> namedFloat

end Toml

end ConverterKit

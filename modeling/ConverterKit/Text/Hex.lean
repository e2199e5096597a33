/-!
# Hexadecimal text

Bytes and words written in lower-case hexadecimal digits.

## Main definitions

* `Text.hexOfBytes`: two digits a byte
* `Text.hexOfWord`: a 64-bit word in sixteen digits
-/

namespace ConverterKit

namespace Text

/-- The lower-case digit for a value below sixteen. -/
def hexDigit (n : Nat) : Char :=
  if n < 10 then Char.ofNat (48 + n) else Char.ofNat (87 + n)

/-- A number in the given count of hexadecimal digits, the high ones first. -/
def hexFixed : Nat → Nat → List Char
  | 0, _ => []
  | count + 1, n => hexFixed count (n / 16) ++ [hexDigit (n % 16)]

/-- A number in as few hexadecimal digits as possible, with at least one. -/
def hexShort (n : Nat) : List Char := hexFixed (Nat.log2 n / 4 + 1) n

/-- Bytes as text, two digits a byte. -/
def hexOfBytes (bytes : List UInt8) : String :=
  String.ofList (bytes.flatMap fun b => hexFixed 2 b.toNat)

/-- A word as text, sixteen digits. -/
def hexOfWord (word : UInt64) : String := String.ofList (hexFixed 16 word.toNat)

@[simp] theorem length_hexFixed (count n : Nat) : (hexFixed count n).length = count := by
  induction count generalizing n with
  | zero => rfl
  | succ count ih => simp [hexFixed, ih]

end Text

end ConverterKit

import ConverterKit.Text.Hex
import ConverterKit.Text.Unprintable

/-!
# Quoted text

A text between double quotes, on one line. Quotes and backslashes have a backslash in front, five
characters have escapes of their own, and what would not show is written by number. A single quote
stands for itself.

## Main definitions

* `Text.quoted`: a text between quotes
-/

namespace ConverterKit

namespace Text

/-- A character as it stands between double quotes. -/
def quotedChar (c : Char) : List Char :=
  match c with
  | '"' => ['\\', '"']
  | '\\' => ['\\', '\\']
  | '\n' => ['\\', 'n']
  | '\r' => ['\\', 'r']
  | '\t' => ['\\', 't']
  | '\x00' => ['\\', '0']
  | c => if isUnprintable c then ['\\', 'u', '\x7b'] ++ hexShort c.toNat ++ ['\x7d'] else [c]

/-- A text between double quotes. -/
def quoted (text : String) : String :=
  String.ofList ('"' :: text.toList.flatMap quotedChar ++ ['"'])

end Text

end ConverterKit

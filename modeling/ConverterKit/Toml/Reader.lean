/-!
# Reading characters

A reader takes a value off the front of a text, or refuses. Readers are state transformers of the
standard library over the characters still to come, so choices start again where they began.

Repetition stops at the first refusal. It is bounded by the number of characters to come, which is
bound enough for a reader that always takes at least one.

## Main definitions

* `Toml.Reader`: a reader
* `Reader.many`, `Reader.sepBy`: repetition
* `Reader.blanks`, `Reader.gaps`, `Reader.lineEnd`: what may stand between the parts of a document
-/

namespace ConverterKit

namespace Toml

/-- Takes a value off the front of a text, or refuses. -/
abbrev Reader (α : Type) : Type := StateT (List Char) Option α

namespace Reader

variable {α β : Type}

/-- The next character, left where it is. -/
def peek : Reader (Option Char) := fun cs => some (cs.head?, cs)

/-- The next character, if it passes a test. -/
def satisfy (test : Char → Bool) : Reader Char
  | [] => none
  | c :: cs => if test c then some (c, cs) else none

/-- Exactly this text. -/
def expect : List Char → Reader Unit
  | [] => pure ()
  | c :: cs => do
    let _ ← satisfy (· == c)
    expect cs

/-- The characters up to the first one that fails a test. -/
def takeWhile (test : Char → Bool) : Reader (List Char) := fun cs =>
  some (cs.takeWhile test, cs.dropWhile test)

/-- Nothing, provided that the next character, if there is one, fails a test. -/
def notNext (test : Char → Bool) : Reader Unit := fun cs =>
  match cs with
  | [] => some ((), cs)
  | c :: _ => if test c then none else some ((), cs)

/-- At most the given number of times, until the reader refuses. -/
def manyUpTo (r : Reader α) : Nat → Reader (List α)
  | 0 => pure []
  | n + 1 => do
    match ← optional r with
    | some a => (a :: ·) <$> manyUpTo r n
    | none => pure []

/-- Again and again, until the reader refuses. -/
def many (r : Reader α) : Reader (List α) := fun cs => manyUpTo r cs.length cs

/-- One or more times, with a separator in between. -/
def sepBy (separator : Reader β) (r : Reader α) : Reader (List α) := do
  let first ← r
  let rest ← many (separator *> r)
  return first :: rest

/-- Exactly the given number of characters that pass a test. -/
def exactly (test : Char → Bool) : Nat → Reader (List Char)
  | 0 => pure []
  | n + 1 => do
    let c ← satisfy test
    (c :: ·) <$> exactly test n

/-- Nothing, at the end of the text only. -/
def endOfText : Reader Unit
  | [] => some ((), [])
  | _ :: _ => none

/-- The value of a reader that takes the whole text. -/
def readAll? (r : Reader α) (cs : List Char) : Option α :=
  match r cs with
  | some (a, []) => some a
  | _ => none

/-! ## Between the parts of a document -/

/-- A space or a tab. -/
def isBlank (c : Char) : Bool := c == ' ' || c == '\t'

/-- A character that may stand in a comment: any but the control characters, and the tab. -/
def isCommentChar (c : Char) : Bool :=
  c == '\t' || (0x20 ≤ c.toNat && c.toNat != 0x7F)

/-- Any number of spaces and tabs. -/
def blanks : Reader Unit := do
  let _ ← takeWhile isBlank

/-- The end of a line: a line feed, with or without a carriage return before it. -/
def newline : Reader Unit := expect ['\n'] <|> expect ['\r', '\n']

/-- A number sign and the rest of the line. -/
def comment : Reader Unit := do
  expect ['#']
  let _ ← takeWhile isCommentChar

/-- Any number of blanks, line ends and comments that run to a line end. -/
def gaps : Reader Unit := do
  blanks
  let _ ← many ((optional comment *> newline) *> blanks)

/-- What may follow on a line when all has been said: blanks, a comment, and the end of the line or
of the text. -/
def lineEnd : Reader Unit := do
  blanks
  let _ ← optional comment
  newline <|> endOfText

/-! ## What the basic readers do -/

@[simp] theorem satisfy_nil (test : Char → Bool) : satisfy test [] = none := rfl

@[simp] theorem satisfy_cons (test : Char → Bool) (c : Char) (cs : List Char) :
    satisfy test (c :: cs) = if test c then some (c, cs) else none := rfl

@[simp] theorem expect_append (text rest : List Char) :
    expect text (text ++ rest) = some ((), rest) := by
  induction text with
  | nil => rfl
  | cons c text ih => simpa [expect, bind, StateT.bind] using ih

@[simp] theorem takeWhile_apply (test : Char → Bool) (cs : List Char) :
    takeWhile test cs = some (cs.takeWhile test, cs.dropWhile test) := rfl

end Reader

end Toml

end ConverterKit

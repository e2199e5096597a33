import ConverterKit.Toml.Text

/-!
# Dates and times

A date, a time of day, or both with an optional offset from universal time. Which one it is and what
it says is of no use to anything here, but it has to be a date of the calendar and a time of the
clock; a minute may have a leap second.

## Main definitions

* `Toml.moment`: a date, a time of day, or both
-/

namespace ConverterKit

namespace Toml

open Reader

/-- A number of exactly so many digits, between two bounds. -/
def fixedNumber (count low high : Nat) : Reader Nat := do
  let n := Nat.ofDigitChars 10 (← exactly Char.isDigit count) 0
  if low ≤ n && n ≤ high then return n else failure

/-- The number of days in a month. -/
def daysInMonth (year month : Nat) : Nat :=
  if month = 2 then
    if year % 4 = 0 && (year % 100 != 0 || year % 400 = 0) then 29 else 28
  else if month = 4 || month = 6 || month = 9 || month = 11 then 30
  else 31

/-- A date of the calendar. -/
def date : Reader Unit := do
  let year ← fixedNumber 4 0 9999
  expect ['-']
  let month ← fixedNumber 2 1 12
  expect ['-']
  let _ ← fixedNumber 2 1 (daysInMonth year month)

/-- A time of day, with any number of digits for the fraction of a second. -/
def timeOfDay : Reader Unit := do
  let _ ← fixedNumber 2 0 23
  expect [':']
  let _ ← fixedNumber 2 0 59
  expect [':']
  let _ ← fixedNumber 2 0 60
  let _ ← optional do
    expect ['.']
    let _ ← satisfy Char.isDigit
    takeWhile Char.isDigit

/-- An offset from universal time. -/
def offset : Reader Unit :=
  (do let _ ← satisfy fun c => c == 'Z' || c == 'z') <|>
    (do
      let _ ← satisfy fun c => c == '+' || c == '-'
      let _ ← fixedNumber 2 0 23
      expect [':']
      let _ ← fixedNumber 2 0 59)

/-- A date, a time of day, or a date with a time of day and perhaps an offset. -/
def moment : Reader Unit :=
  (do
    date
    let _ ← optional do
      let _ ← satisfy fun c => c == 'T' || c == 't' || c == ' '
      timeOfDay
      optional offset) <|>
    timeOfDay

end Toml

end ConverterKit

import Esp3Host.Text.Reader
import Esp3Host.Toml.Value

/-!
# Dates and times in a document

A date, a time of day, or a date with a time and perhaps its distance from universal time.  Only
days that the calendar has are read.
-/

namespace Esp3Host.Toml

open Reader

def isLeapYear (year : Nat) : Bool := year % 4 == 0 && (year % 100 != 0 || year % 400 == 0)

def daysInMonth (year month : Nat) : Nat :=
  if month = 2 then if isLeapYear year then 29 else 28
  else if month ∈ [4, 6, 9, 11] then 30
  else 31

def require (condition : Bool) : Reader Unit := if condition then pure () else failure

def date : Reader Unit := do
  let year ← digits 4
  exactly '-'
  let month ← digits 2
  require (1 ≤ month && month ≤ 12)
  exactly '-'
  let day ← digits 2
  require (1 ≤ day && day ≤ daysInMonth year month)

def hourMinute : Reader Unit := do
  require ((← digits 2) ≤ 23)
  exactly ':'
  require ((← digits 2) ≤ 59)

def time : Reader Unit := do
  hourMinute
  exactly ':'
  require ((← digits 2) ≤ 60)
  let _ ← optional (do
    exactly '.'
    takeSome Char.isDigit)

def offset : Reader Unit := do
  match ← takeIf fun c => c == 'Z' || c == 'z' || c == '+' || c == '-' with
  | '+' | '-' => hourMinute
  | _ => pure ()

def moment : Reader Value := do
  (do
    date
    let _ ← optional (do
      let _ ← takeIf fun c => c == 'T' || c == 't' || c == ' '
      time
      optional offset))
  <|> time
  return .moment

end Esp3Host.Toml

/-!
# Readers

A reader takes characters from the front of a text and returns what it made of them, or fails.  One
that fails has taken nothing, so that another may be tried at the same place.
-/

namespace Esp3Host

/-- From a text to a value and the rest of the text. -/
abbrev Reader := StateT (List Char) Option

namespace Reader

def next? : Reader (Option Char) := fun rest => some (rest.head?, rest)

def takeIf (accepts : Char → Bool) : Reader Char
  | c :: rest => if accepts c then some (c, rest) else none
  | [] => none

def exactly (c : Char) : Reader Unit := do
  let _ ← takeIf (· == c)

def word (cs : List Char) : Reader Unit := cs.forM exactly

def takeWhile (accepts : Char → Bool) : Reader (List Char) := fun rest =>
  some (rest.takeWhile accepts, rest.dropWhile accepts)

def takeSome (accepts : Char → Bool) : Reader (List Char) := do
  return (← takeIf accepts) :: (← takeWhile accepts)

def digits (count : Nat) : Reader Nat := do
  let rec go : Nat → Nat → Reader Nat
    | 0, value => pure value
    | left + 1, value => do
        let digit ← takeIf Char.isDigit
        go left (10 * value + (digit.toNat - 48))
  go count 0

def repeatUpTo {α : Type} (reader : Reader α) : Nat → List Char → List α × List Char
  | 0, rest => ([], rest)
  | fuel + 1, rest =>
      match reader rest with
      | none => ([], rest)
      | some (item, rest') =>
          let (items, last) := repeatUpTo reader fuel rest'
          (item :: items, last)

/-- Read as often as possible.  A reader that takes something each time is never cut short. -/
def many {α : Type} (reader : Reader α) : Reader (List α) := fun rest =>
  some (repeatUpTo reader rest.length rest)

def separated {α : Type} (item : Reader α) (separator : Reader Unit) : Reader (List α) := do
  match ← optional item with
  | none => return []
  | some first => return first :: (← many (do separator; item))

def readAll? {α : Type} (reader : Reader α) (text : List Char) : Option α :=
  match reader text with
  | some (value, []) => some value
  | _ => none

end Reader

end Esp3Host

import Esp3Host.Toml.Text
import Esp3Host.Toml.Value

/-!
# Numbers in a document

Integers are signed with 64 bits, and written in decimal, or in another base behind a mark.  A float
has a fraction, an exponent or both.  An underscore may stand between two digits.
-/

namespace Esp3Host.Toml

open Reader

def moreDigits (accepts : Char → Bool) : List Char → List Char × List Char
  | '_' :: c :: rest =>
      if accepts c then
        let (digits, last) := moreDigits accepts rest
        (c :: digits, last)
      else ([], '_' :: c :: rest)
  | c :: rest =>
      if accepts c then
        let (digits, last) := moreDigits accepts rest
        (c :: digits, last)
      else ([], c :: rest)
  | [] => ([], [])

def someDigits (accepts : Char → Bool) : Reader (List Char) := do
  let first ← takeIf accepts
  return first :: (← fun rest => some (moreDigits accepts rest))

def sign : Reader Bool := do
  return (← optional (takeIf fun c => c == '+' || c == '-')) == some '-'

/-- Decimal digits, of which only a lone one may be zero in front. -/
def wholeDigits : Reader (List Char) :=
  (do
    exactly '0'
    return ['0'])
  <|> someDigits Char.isDigit

def decimalValue (digits : List Char) : Nat :=
  digits.foldl (fun value c => 10 * value + (c.toNat - 48)) 0

def bounded (value : Int) : Reader Value :=
  if -Int.pow 2 63 ≤ value ∧ value < Int.pow 2 63 then pure (Value.integer value) else failure

def inBase (mark : Char) (base : Nat) : Reader Value := do
  word ['0', mark]
  let digits ← someDigits fun c => isHexDigit c && hexValue [c] < base
  bounded (digits.foldl (fun value c => base * value + hexValue [c]) 0)

def decimalInteger : Reader Value := do
  let negative ← sign
  let value : Int := decimalValue (← wholeDigits)
  bounded (if negative then -value else value)

def integer : Reader Value :=
  inBase 'x' 16 <|> inBase 'o' 8 <|> inBase 'b' 2 <|> decimalInteger

def fraction : Reader (List Char) := do
  exactly '.'
  someDigits Char.isDigit

def exponent : Reader Int := do
  let _ ← takeIf fun c => c == 'e' || c == 'E'
  let negative ← sign
  let value : Int := decimalValue (← someDigits Char.isDigit)
  return if negative then -value else value

/-- A decimal that is too large is refused, but may be too small. -/
def decimalFloat : Reader Value := do
  let negative ← sign
  let whole ← wholeDigits
  let behind ← optional fraction
  let power ← if behind.isNone then some <$> exponent else optional exponent
  let places := behind.getD []
  let number := Binary64.ofDecimal negative (decimalValue (whole ++ places))
    (power.getD 0 - places.length)
  if number = .infinite false then failure
  return Value.float number

def namedFloat : Reader Value := do
  let negative ← sign
  (do
    word ['i', 'n', 'f']
    return Value.float (.infinite negative))
  <|> (do
    word ['n', 'a', 'n']
    return Value.float .undefined)

def float : Reader Value := decimalFloat <|> namedFloat

end Esp3Host.Toml

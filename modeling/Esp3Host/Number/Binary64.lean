/-!
# Numbers of double precision

`Binary64` holds what sixty-four bits can hold of a number: a significand of at most 53 bits times
a power of two, an infinity, or no number at all.  `Binary64.ofDecimal` is the nearest such number
to a decimal, found in exact arithmetic.
-/

namespace Esp3Host

/-- A finite number is `± significand · 2 ^ exponent`, with `-1074 ≤ exponent`. -/
inductive Binary64 where
  | finite (negative : Bool) (significand : Nat) (exponent : Int)
  | infinite (negative : Bool)
  | undefined
  deriving DecidableEq, Repr

namespace Binary64

def roundQuotient (num den : Nat) : Nat :=
  let quotient := num / den
  let twice := 2 * (num % den)
  if den < twice ∨ (twice = den ∧ quotient % 2 = 1) then quotient + 1 else quotient

def scale (base : Nat) (exponent : Int) : Nat × Nat :=
  (base.pow exponent.toNat, base.pow (-exponent).toNat)

def lastPlace (num den : Nat) : Int :=
  let guess : Int := (num.log2 : Int) - den.log2 - 53
  let (up, down) := scale 2 guess
  let place := if Nat.pow 2 53 ≤ num * down / (den * up) then guess + 1 else guess
  max place (-1074)

def ofQuotient (negative : Bool) (num den : Nat) : Binary64 :=
  let place := lastPlace num den
  let (up, down) := scale 2 place
  let rounded := roundQuotient (num * down) (den * up)
  let (significand, exponent) :=
    if rounded = Nat.pow 2 53 then (Nat.pow 2 52, place + 1) else (rounded, place)
  if 971 < exponent then infinite negative else finite negative significand exponent

/--
The nearest number to `± digits · 10 ^ exponent`.  Far outside of the range the answer is known
without the power of ten.
-/
def ofDecimal (negative : Bool) (digits : Nat) (exponent : Int) : Binary64 :=
  let magnitude := exponent + (Nat.toDigits 10 digits).length
  if digits = 0 ∨ magnitude < -330 then finite negative 0 (-1074)
  else if 310 < magnitude then infinite negative
  else
    let (up, down) := scale 10 exponent
    ofQuotient negative (digits * up) down

end Binary64

end Esp3Host

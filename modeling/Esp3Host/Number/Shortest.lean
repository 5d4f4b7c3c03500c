import Esp3Host.Number.Binary64

/-!
# Shortest decimals

A number of double precision stands for all decimals nearer to it than to its neighbours.
`Binary64.shortest` takes the coarsest grid of powers of ten with a point among them, and of two
such points the nearer, the larger when both are equally near.  `Binary64.text` writes it without
an exponent.
-/

namespace Esp3Host.Binary64

/--
The decimals that stand for `significand · 2 ^ exponent`, in quarters of the last place: the lower
and the upper bound.  The lower neighbour of a power of two is at half the distance.
-/
def quarters (significand : Nat) (exponent : Int) : Nat × Nat :=
  let below := if significand = Nat.pow 2 52 ∧ -1074 < exponent then 1 else 2
  (4 * significand - below, 4 * significand + 2)

def gridPoint (significand : Nat) (exponent place : Int) : Option Nat :=
  let (twoUp, twoDown) := scale 2 (exponent - 2)
  let (tenUp, tenDown) := scale 10 place
  let unit := tenUp * twoDown
  let inUnits := fun quarter => quarter * twoUp * tenDown
  let (low, high) := quarters significand exponent
  let stands := fun multiple =>
    if significand % 2 = 0 then
      inUnits low ≤ multiple * unit ∧ multiple * unit ≤ inUnits high
    else inUnits low < multiple * unit ∧ multiple * unit < inUnits high
  let value := inUnits (4 * significand)
  let floor := value / unit
  if stands floor ∧ 0 < floor then
    if stands (floor + 1) ∧ (floor + 1) * unit - value ≤ value - floor * unit then some (floor + 1)
    else some floor
  else if stands (floor + 1) then some (floor + 1)
  else none

/-- The decimal `digits · 10 ^ place` on the coarsest grid with a point that stands for the number. -/
def shortest (significand : Nat) (exponent : Int) : Nat × Int :=
  ((List.range 633).findSome? fun below =>
    let place : Int := 308 - Int.ofNat below
    (gridPoint significand exponent place).map (·, place)).getD (0, 0)

def positional (digits : Nat) (place : Int) : List Char :=
  let shown := Nat.toDigits 10 digits
  if 0 ≤ place then shown ++ List.replicate place.toNat '0' ++ ['.', '0']
  else
    let fraction := (-place).toNat
    let padded := List.replicate (fraction + 1 - shown.length) '0' ++ shown
    padded.take (padded.length - fraction) ++ '.' :: padded.drop (padded.length - fraction)

def text : Binary64 → String
  | finite negative significand exponent =>
      let (digits, place) := if significand = 0 then (0, 0) else shortest significand exponent
      String.ofList ((if negative then ['-'] else []) ++ positional digits place)
  | infinite negative => if negative then "-inf" else "inf"
  | undefined => "NaN"

end Esp3Host.Binary64

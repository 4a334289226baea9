import TraitCatalog.Double.Basic
import TraitCatalog.Text.Basic

namespace TraitCatalog
namespace Double

structure Decimal where
  digits : Nat
  exponent : Int
  deriving DecidableEq, Repr

-- The positive number `mantissa * 2 ^ exponent` between the bounds of the reals that round to it,
-- all of them counted in quarters of its last place.
structure Interval where
  low : Nat
  mid : Nat
  high : Nat
  closed : Bool
  exponent : Int

def interval (mantissa : Nat) (exponent : Int) : Interval where
  low := 4 * mantissa - (if mantissa = twoTo 52 ∧ leastExponent < exponent then 1 else 2)
  mid := 4 * mantissa
  high := 4 * mantissa + 2
  closed := mantissa % 2 = 0
  exponent := exponent - 2

namespace Interval

-- The factors `up` and `down` for which `c * 10 ^ k` is `c * up / down` quarters.
def factors (i : Interval) (k : Int) : Nat × Nat :=
  (tenTo k.toNat * twoTo (-i.exponent).toNat, tenTo (-k).toNat * twoTo i.exponent.toNat)

-- `c * 10 ^ k` rounds to the number in the middle.
def holds (i : Interval) (k : Int) (c : Nat) : Bool :=
  let (up, down) := i.factors k
  if i.closed then
    i.low * down ≤ c * up && c * up ≤ i.high * down
  else
    i.low * down < c * up && c * up < i.high * down

-- The point of the grid `10 ^ k` that lies in the interval and is nearest to its middle.
def point? (i : Interval) (k : Int) : Option Nat :=
  let (up, down) := i.factors k
  let floor := i.mid * down / up
  let nearest := roundRatio (i.mid * down) up
  let other := if nearest = floor then floor + 1 else floor
  if i.holds k nearest then some nearest
  else if i.holds k other then some other
  else none

-- The exponent of the leading decimal digit of the middle.
def leadingExponent (i : Interval) : Int :=
  let guess := ((i.mid.log2 : Int) + i.exponent) * 1233 / 4096
  let reached (k : Int) : Bool := let (up, down) := i.factors k; up ≤ i.mid * down
  if reached (guess + 1) then guess + 1 else if reached guess then guess else guess - 1

-- The coarsest decimal grid with a point in the interval gives the digits; seventeen of them
-- always suffice.
def decimal (i : Interval) : Decimal :=
  let lead := i.leadingExponent
  let grids := (List.range 17).map fun (n : Nat) => lead - n
  match grids.findSome? fun k => (i.point? k).map (Decimal.mk · k) with
  | some d => d
  | none => ⟨roundRatio (i.mid * (i.factors (lead - 16)).2) (i.factors (lead - 16)).1, lead - 16⟩

end Interval

-- Which exponents are written by position, and the names of what is no number.
structure Style where
  least : Int
  beyond : Int
  nan : Text
  infinity : Text

-- Positional from `10 ^ -4` to below `10 ^ 16`.
def Style.plain : Style := ⟨-4, 16, "nan", "inf"⟩

-- The digits without the zeros at their end.
def significant (digits : Nat) : Text :=
  ((Text.ofNat digits).reverse.dropWhile (·.is '0')).reverse

-- An exponent with its sign and at least two digits.
def exponentText (e : Int) : Text :=
  let digits := Text.ofNat e.natAbs
  (if e < 0 then "e-" else "e+") ++ List.replicate (2 - digits.length) (Code.char '0') ++ digits

-- A positive decimal number laid out in a style.
def Decimal.text (style : Style) (d : Decimal) : Text :=
  let lead := (Text.ofNat d.digits).length + d.exponent - 1
  let digits := significant d.digits
  if lead < style.least ∨ style.beyond ≤ lead then
    match digits with
    | [c] => [c] ++ exponentText lead
    | c :: rest => c :: "." ++ rest ++ exponentText lead
    | [] => "0.0"
  else if lead < 0 then
    "0." ++ List.replicate (-lead - 1).toNat (Code.char '0') ++ digits
  else
    let whole := lead.toNat + 1
    let missing := List.replicate (whole - digits.length) (Code.char '0')
    let fraction := digits.drop whole
    digits.take whole ++ missing ++ "." ++ (if fraction.isEmpty then ("0" : Text) else fraction)

-- The shortest text that reads back as `x`.
def text (style : Style) : Double → Text
  | nan => style.nan
  | infinite negative => (if negative then "-" else "") ++ style.infinity
  | finite negative mantissa exponent =>
    (if negative then "-" else "") ++
      if mantissa = 0 then ("0.0" : Text)
      else (interval mantissa exponent).decimal.text style

end Double
end TraitCatalog

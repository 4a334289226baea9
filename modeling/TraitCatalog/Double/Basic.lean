namespace TraitCatalog

-- A finite number is `± mantissa * 2 ^ exponent`; the mantissa has at most 53 bits, and all 53 unless the
-- exponent is the least one.
inductive Double
  | nan
  | infinite (negative : Bool)
  | finite (negative : Bool) (mantissa : Nat) (exponent : Int)
  deriving DecidableEq, Repr

namespace Double

def mantissaBits : Nat := 53

def leastExponent : Int := -1074

def greatestExponent : Int := 971

def twoTo (n : Nat) : Nat :=
  Nat.pow 2 n

def tenTo (n : Nat) : Nat :=
  Nat.pow 10 n

def zero (negative : Bool) : Double :=
  finite negative 0 leastExponent

def one : Double :=
  finite false (twoTo 52) (-52)

def isZero : Double → Bool
  | finite _ 0 _ => true
  | _ => false

-- `mantissa * 2 ^ exponent` as a ratio.
def ratio (mantissa : Nat) (exponent : Int) : Nat × Nat :=
  (mantissa * twoTo exponent.toNat, twoTo (-exponent).toNat)

-- The value of a number that is whole.
def whole? : Double → Option Int
  | finite negative mantissa exponent =>
    let (num, den) := ratio mantissa exponent
    if num % den = 0 then some (if negative then -(num / den : Nat) else (num / den : Nat)) else none
  | _ => none

def isWhole (x : Double) : Bool :=
  x.whole?.isSome

-- `num / den` rounded to a whole number; a tie goes to the even neighbour.
def roundRatio (num den : Nat) : Nat :=
  let floor := num / den
  let twice := 2 * (num % den)
  if twice < den ∨ (twice = den ∧ floor % 2 = 0) then floor else floor + 1

-- `x * 2 ^ e` as a ratio, for `x = num / den`.
def shiftRatio (num den : Nat) (e : Int) : Nat × Nat :=
  (num * twoTo e.toNat, den * twoTo (-e).toNat)

-- The number nearest to `± num / den`.
def ofRatio (negative : Bool) (num den : Nat) : Double :=
  if num = 0 ∨ den = 0 then
    zero negative
  else
    let guess : Int := (num.log2 : Int) - den.log2 - 52
    let (n, d) := shiftRatio num den (-guess)
    let exponent := if n < twoTo 52 * d then guess - 1 else guess
    let exponent := if exponent < leastExponent then leastExponent else exponent
    let (n, d) := shiftRatio num den (-exponent)
    let mantissa := roundRatio n d
    let (mantissa, exponent) :=
      if mantissa = twoTo mantissaBits then (twoTo 52, exponent + 1) else (mantissa, exponent)
    if greatestExponent < exponent then infinite negative else finite negative mantissa exponent

-- The number nearest to `± digits * 10 ^ exponent`. Numbers outside of `10 ^ -400` to `10 ^ 400`
-- are decided without the power.
def ofDecimal (negative : Bool) (digits : Nat) (exponent : Int) : Double :=
  let magnitude := (Nat.toDigits 10 digits).length + exponent
  if digits = 0 ∨ magnitude < -400 then zero negative
  else if 400 < magnitude then infinite negative
  else ofRatio negative (digits * tenTo exponent.toNat) (tenTo (-exponent).toNat)

example : ofDecimal false 1 0 = one := by decide +kernel
example : ofDecimal true 5 (-1) = finite true (twoTo 52) (-53) := by decide +kernel
example : ofDecimal false 5 (-324) = finite false 1 (-1074) := by decide +kernel
example : ofDecimal false 18 307 = infinite false := by decide +kernel
example : (ofDecimal true 25 (-1)).whole? = none := by decide +kernel
example : (ofDecimal true 25 1).whole? = some (-250) := by decide +kernel

end Double
end TraitCatalog

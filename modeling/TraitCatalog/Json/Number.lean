import TraitCatalog.Json.Basic

namespace TraitCatalog

inductive Number
  | whole (n : Int)
  | real (x : Double)
  deriving DecidableEq, Repr

-- Where a number stands among all numbers: at a ratio, or beyond every ratio on one side.
inductive Standing
  | least
  | ratio (num : Int) (den : Nat)
  | greatest
  deriving DecidableEq, Repr

namespace Standing

def less : Standing → Standing → Bool
  | least, ratio .. | least, greatest | ratio .., greatest => true
  | ratio m d, ratio n e => m * e < n * d
  | _, _ => false

def same : Standing → Standing → Bool
  | least, least | greatest, greatest => true
  | ratio m d, ratio n e => m * e = n * d
  | _, _ => false

end Standing

namespace Number

-- A floating-point value that is not a number stands nowhere.
def standing? : Number → Option Standing
  | whole n => some (.ratio n 1)
  | real .nan => none
  | real (.infinite negative) => some (if negative then .least else .greatest)
  | real (.finite negative mantissa exponent) =>
    let (num, den) := Double.ratio mantissa exponent
    some (.ratio (if negative then -(num : Int) else num) den)

def less (a b : Number) : Bool :=
  match a.standing?, b.standing? with
  | some s, some t => s.less t
  | _, _ => false

def same (a b : Number) : Bool :=
  match a.standing?, b.standing? with
  | some s, some t => s.same t
  | _, _ => false

example : (whole 2).less (real (.finite false 5 (-1))) := by decide
example : (real (.finite true 5 (-1))).less (whole (-2)) := by decide
example : (whole 1).same (real .one) := by decide
example : (whole 0).less (real (.infinite false)) ∧ ¬(whole 0).less (real .nan) := by decide

theorem less_whole (m n : Int) : (whole m).less (whole n) = decide (m < n) := by
  simp [less, standing?, Standing.less]

end Number

namespace Json

def number? : Json → Option Number
  | int n => some (.whole n)
  | float x => some (.real x)
  | _ => none

-- The number that bounds something: a truth value bounds like 0 or 1.
def bound? : Json → Option Number
  | bool b => some (.whole (if b then 1 else 0))
  | v => v.number?

end Json
end TraitCatalog

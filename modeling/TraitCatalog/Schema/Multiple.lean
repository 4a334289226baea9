import TraitCatalog.Schema.Basic

namespace TraitCatalog
namespace Schema

-- Two rounded numbers divided, with the quotient rounded.
def quotient (x y : Double) : Double :=
  match x, y with
  | .finite s m e, .finite t n f =>
    let (a, b) := Double.ratio m e
    let (c, d) := Double.ratio n f
    Double.ofRatio (s != t) (a * d) (b * c)
  | .infinite s, .finite t _ _ => .infinite (s != t)
  | .finite s _ _, .infinite t => .zero (s != t)
  | _, _ => .nan

def nearest (n : Int) : Except SchemaFault Double :=
  match Double.ofRatio (n < 0) n.natAbs 1 with
  | .infinite _ => .error .tooLarge
  | x => .ok x

def isMultipleOfReal (x y : Double) : Except SchemaFault Bool := do
  if y.isZero then throw .divisionByZero
  match quotient x y with
  | .nan => throw .notWhole
  | .infinite _ =>
    match x, y with
    | .finite _ m e, .finite _ n f =>
      let (a, b) := Double.ratio m e
      let (c, d) := Double.ratio n f
      return a * d % (b * c) = 0
    | _, _ => throw .tooLarge
  | q => return q.isWhole

-- What is divided by a whole number is divided exactly.
def isMultiple (m n : Number) : Except SchemaFault Bool := do
  match m, n with
  | .whole m, .real y => isMultipleOfReal (← nearest m) y
  | .real x, .real y => isMultipleOfReal x y
  | .whole m, .whole n => if n = 0 then throw .divisionByZero else return m % n = 0
  | .real x, .whole n =>
    match x, ← nearest n with
    | _, .finite _ 0 _ => throw .divisionByZero
    | .finite _ m e, .finite _ n f =>
      let (a, b) := Double.ratio m e
      let (c, d) := Double.ratio n f
      return a * d % (b * c) = 0
    | _, _ => return false

end Schema
end TraitCatalog

import TraitCatalog.Json.Number

namespace TraitCatalog
namespace Json

def isNaN : Json → Bool
  | float .nan => true
  | _ => false

mutual

-- Numbers are compared by their values, objects without regard to the order of their fields.
-- If `loose` holds, truth values are the same as the numbers 0 and 1.
def same (loose : Bool) : Json → Json → Bool
  | null, null => true
  | string s, string t => s = t
  | array vs, array ws => sameItems loose vs ws
  | object ps, object qs => ps.length = qs.length && sameFields loose ps qs
  | bool a, bool b => a = b
  | bool a, w => loose && (bool a).bound?.any fun m => w.number?.any m.same
  | v, bool b => loose && v.number?.any fun m => (bool b).bound?.any m.same
  | v, w => (v.isNaN && w.isNaN) || v.number?.any fun m => w.number?.any m.same

def sameItems (loose : Bool) : List Json → List Json → Bool
  | [], [] => true
  | v :: vs, w :: ws => same loose v w && sameItems loose vs ws
  | _, _ => false

-- Every field of the first list has the same value in the second one.
def sameFields (loose : Bool) : List (Text × Json) → List (Text × Json) → Bool
  | [], _ => true
  | (key, v) :: ps, qs => (Keyed.get? qs key).any (same loose v) && sameFields loose ps qs

end

mutual

-- Whether `v` comes before `w`; numbers, texts and lists have an order among themselves.
def before? : (v w : Json) → Option Bool
  | string s, string t => some (s ≠ t && s.le t)
  | array vs, array ws => beforeItems? vs ws
  | v, w => v.bound?.bind fun m => w.bound?.map m.less

-- The first items that are not the same decide.
def beforeItems? : List Json → List Json → Option Bool
  | _, [] => some false
  | [], _ :: _ => some true
  | v :: vs, w :: ws => if same true v w then beforeItems? vs ws else before? v w

end

-- Puts `v` behind all values of a list in order that do not come after it.
def insert? (v : Json) : List Json → Option (List Json)
  | [] => some [v]
  | w :: ws => do
    if ← before? v w then
      return v :: w :: ws
    else
      return w :: (← insert? v ws)

def isBool : Json → Bool
  | bool _ => true
  | _ => false

-- The values in order; truth values have no order.
def sort? (vs : List Json) : Option (List Json) :=
  if vs.any isBool then none else vs.foldlM (fun sorted v => insert? v sorted) []

def hasSameNeighbours : List Json → Bool
  | v :: w :: ws => same false v w || hasSameNeighbours (w :: ws)
  | _ => false

def hasSamePair : List Json → Bool
  | [] => false
  | v :: vs => vs.any (same false v) || hasSamePair vs

-- Whether a value is repeated. In a list in order, only neighbours are compared.
def hasRepetition (vs : List Json) : Bool :=
  match sort? vs with
  | some sorted => hasSameNeighbours sorted
  | none => hasSamePair vs

end Json
end TraitCatalog

import TraitCatalog.Double.Basic
import TraitCatalog.Keyed

namespace TraitCatalog

-- Whole numbers have any size and are told apart from floating-point ones; the fields of an object keep their order.
inductive Json
  | null
  | bool (value : Bool)
  | int (value : Int)
  | float (value : Double)
  | string (value : Text)
  | array (items : List Json)
  | object (fields : List (Text × Json))

namespace Json

def strings (texts : List Text) : Json :=
  array (texts.map string)

def string? : Json → Option Text
  | string t => some t
  | _ => none

def bool? : Json → Option Bool
  | bool b => some b
  | _ => none

def array? : Json → Option (List Json)
  | array items => some items
  | _ => none

def object? : Json → Option (Keyed Json)
  | object fields => some fields
  | _ => none

end Json
end TraitCatalog

import TraitCatalog.Json.Basic

namespace TraitCatalog

-- What a place in the data was expected to hold.
inductive Shape
  | string
  | boolean
  | strings
  | object
  | array
  | nonemptyArray
  | nonemptyString
  deriving DecidableEq, Repr

def Shape.words : Shape → Text
  | string => "a string"
  | boolean => "a boolean"
  | strings => "an array of strings"
  | object => "an object"
  | array => "an array"
  | nonemptyArray => "a non-empty array"
  | nonemptyString => "a non-empty string"

inductive Flaw
  -- A place of the data has another shape.
  | unexpected (context place : Text) (shape : Shape)
  -- An implementor with an empty type path.
  | noIdentifier (text : Text)
  -- An implementor with an empty identifier in its type path.
  | emptyIdentifier (text : Text)
  deriving DecidableEq, Repr

def Flaw.message : Flaw → Text
  | unexpected context place shape =>
    context ++ ": expected '" ++ place ++ "' to be " ++ shape.words
  | noIdentifier text => "implementor '" ++ text ++ "' must declare at least one type identifier"
  | emptyIdentifier text => "implementor '" ++ text ++ "' has an empty type identifier"

def itemPlace (place : Text) (index : Nat) : Text :=
  place ++ "[" ++ Text.ofNat index ++ "]"

namespace Json

-- A missing field and `null` fail every check alike.
def expectString (context place : Text) : Json → Except Flaw Text
  | string t => .ok t
  | _ => .error (.unexpected context place .string)

def expectBool (context place : Text) : Json → Except Flaw Bool
  | bool b => .ok b
  | _ => .error (.unexpected context place .boolean)

def expectObject (context place : Text) : Json → Except Flaw (Keyed Json)
  | object fields => .ok fields
  | _ => .error (.unexpected context place .object)

def expectArray (context place : Text) : Json → Except Flaw (List Json)
  | array items => .ok items
  | _ => .error (.unexpected context place .array)

-- The strings of an array whose first item is the item number `index`.
def expectItems (context place : Text) (index : Nat) : List Json → Except Flaw (List Text)
  | [] => .ok []
  | v :: items => do
    let t ← expectString context (itemPlace place index) v
    return t :: (← expectItems context place (index + 1) items)

def expectStrings (context place : Text) : Json → Except Flaw (List Text)
  | array items => expectItems context place 0 items
  | _ => .error (.unexpected context place .strings)

end Json
end TraitCatalog

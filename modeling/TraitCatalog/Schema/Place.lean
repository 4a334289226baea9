import TraitCatalog.Schema.Shape

namespace TraitCatalog

-- A document that schemas stand in, and the address that it was found under.
structure Source where
  address : Text
  dialect : Dialect
  document : Json

-- Where a schema stands: its address, the addresses of those that led to it, the last one first, the
-- dialect around it, and the documents that were fetched on the way, the last one first. What stands inside
-- of the last document is not known before it has been searched; those before it have been.
structure Scope where
  base : Text
  outer : List Text
  dialect : Dialect
  fetched : List Source
  isSearched : Bool

-- The address `id`, completed from the address around it.
def Schema.complete (base id : Text) : Except SchemaFault Text :=
  match Address.join? base id with
  | some address => .ok address
  | none => .error .malformedAddress

namespace Scope

-- The scope of a schema that has an address of its own.
def enter (s : Scope) (id : Text) : Except SchemaFault Scope := do
  return { s with base := ← Schema.complete s.base id }

def searched (s : Scope) : Scope :=
  { s with isSearched := true }

def fetch (s : Scope) (x : Source) : Scope :=
  { s with fetched := x :: s.fetched, isSearched := false }

-- The scope of a schema in another document.
def moveTo (s : Scope) (base : Text) : Scope :=
  if !s.base.isEmpty && (s.outer.isEmpty || base ≠ s.base) then
    { s with base, outer := s.base :: s.outer }
  else
    { s with base }

end Scope

namespace Schema

def withoutMark (address : Text) : Text :=
  (address.reverse.dropWhile (·.is '#')).reverse

-- The keyword for the address of a schema.
def addressKeyword (d : Dialect) : Text :=
  if d.isFrom .draft6 then "$id" else "id"

-- The address that a schema gives itself. Up to the draft 7 it can be a name instead, and up to the draft
-- 4 a schema that refers to another one has none.
def ownAddress? (d : Dialect) (v : Json) : Except SchemaFault (Option Text) :=
  match v with
  | .object fields =>
    if !d.isFrom .draft6 && Keyed.contains fields "$ref" then .ok none
    else
      match Keyed.get? fields (addressKeyword d) with
      | none | some .null => .ok none
      | some (.string t) =>
        .ok (if !d.isFrom .draft2019 && t.head?.any (·.is '#') then none else some (withoutMark t))
      | some _ => .error .notSchema
  | .bool _ => if d.isFrom .draft6 then .ok none else .error .wrongKind
  | .null | .int _ | .float _ => .error (if d.isFrom .draft6 then .notSchema else .wrongKind)
  | .string _ | .array _ => .error .notSchema

-- A schema inside of another one: the address that it stands under, whether that is its own one, and the
-- names that it has there.
structure Entry where
  address : Text
  isOwn : Bool
  schema : Json
  dialect : Dialect
  names : List (Text × Bool)

def nameUnder (fields : Keyed Json) (keyword : Text) (isDynamic : Bool) :
    Except SchemaFault (List (Text × Bool)) :=
  match fields.get? keyword with
  | some (.string name) => .ok [(name, isDynamic)]
  | some (.array _) | some (.object _) => .error .wrongKind
  | _ => .ok []

-- The names of a schema; the second part tells whether a name is sought in the outer schemas too.
def namesOf (d : Dialect) (fields : Keyed Json) : Except SchemaFault (List (Text × Bool)) := do
  if d.isFrom .draft2019 then
    let dynamic ← if d = .draft2020 then nameUnder fields "$dynamicAnchor" true else pure []
    return dynamic ++ (← nameUnder fields "$anchor" false)
  match fields.get? (addressKeyword d) with
  | some (.string ('#' :: name)) => return [(name, false)]
  | some (.string _) | none => return []
  | some _ => throw .notSchema

-- The dialect of a schema that stands in one of the dialect `d`, as far as it is named exactly.
def dialectInside (d : Dialect) (v : Json) : Except SchemaFault Dialect :=
  match v.object?.bind (Keyed.get? · "$schema") with
  | none | some .null => .ok d
  | some (.string t) => .ok ((Dialect.ofAddress? (withoutMark t)).getD d)
  | some _ => .error .notSchema

-- All schemas in a schema that stands under an address. What stands last is looked at first.
def entries : (depth : Nat) → Dialect → (address : Text) → Json → Except SchemaFault (List Entry)
  | 0, _, _, _ => .error .tooDeep
  | depth + 1, d, address, v => do
    let own ← ownAddress? d v
    let address ← match own with
      | some id => complete address id
      | none => pure address
    match v with
    | .object fields =>
      let names ← namesOf d fields
      let parts ← fields.mapM fun (keyword, w) => inside d keyword w
      let inner ← parts.flatten.mapM fun w => return (← dialectInside d w, w)
      let more ← inner.reverse.mapM fun (e, w) => entries depth e address w
      return more.reverse.flatten ++ [⟨address, own.isSome, v, d, names⟩]
    | _ => return []

end Schema
end TraitCatalog

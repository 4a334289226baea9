import TraitCatalog.Schema.Place
import TraitCatalog.Text.Numeral
import TraitCatalog.Text.Utf8

namespace TraitCatalog
namespace Schema

-- A part of the way to a place: the signs `~` and `/` are written `~0` and `~1` in it.
def keyOf : Text → Text
  | '~' :: '0' :: rest => '~' :: keyOf rest
  | '~' :: '1' :: rest => '/' :: keyOf rest
  | c :: rest => c :: keyOf rest
  | [] => []

-- The item with a number; negative numbers count from the end.
def itemAt (vs : List α) (index : Text) : Except SchemaFault α :=
  match index.integer? with
  | none => .error .notWhole
  | some i =>
    let i := if i < 0 then i + vs.length else i
    match if i < 0 then none else vs[i.toNat]? with
    | some v => .ok v
    | none => .error (.dangling .place)

-- What one part of a way leads to, and the key that it went by.
def step (v : Json) (part : Text) : Except SchemaFault (Option Text × Json) :=
  match v with
  | .array vs => (itemAt vs part).map (none, ·)
  | .string t => (itemAt t part).map fun c => (none, .string [c])
  | .object fields =>
    match Keyed.get? fields (keyOf part) with
    | some w => .ok (keyOf part, w)
    | none => .error (.dangling .place)
  | _ => .error .wrongKind

-- Whether the parts of a way lead from a schema to the schema `v`.
def leadsToSchema (d : Dialect) (v : Json) : List (Option Text) → Bool
  | [] => true
  | none :: _ => false
  | some key :: rest =>
    if isMixed d key && v.object?.isSome then true
    else
      match shape? d key, rest with
      | some .one, rest => leadsToSchema d v rest
      | some _, _ :: rest => leadsToSchema d v rest
      | _, _ => false

-- Follows a way in a document of the dialect `d`, past schemas with addresses of their own. `done` is the
-- way from the last one of those.
def follow (d : Dialect) (scope : Scope) (done : List (Option Text)) (v : Json) :
    List Text → Except SchemaFault (Scope × Json)
  | [] => .ok (scope, v)
  | part :: rest => do
    let (key, w) ← step v part
    let done := done ++ [key]
    match ← if leadsToSchema d w done then ownAddress? d w else pure none with
    | some id => follow d (← scope.enter id) [] w rest
    | none => follow d scope done w rest

-- Bytes that are no UTF-8 are replaced.
def textOf (bytes : Bytes) : Text :=
  (Text.ofUtf8? bytes).getD (bytes.map fun b => if b < 0x80 then Code.ofNat b.toNat else '\uFFFD')

-- A text in which bytes are written with a percent sign and two hexadecimal digits.
def unquote (t : Text) : Text :=
  go [] t
where
  go (bytes : Bytes) : Text → Text
    | [] => textOf bytes.reverse
    | '%' :: a :: b :: rest =>
      match a.hexDigit?, b.hexDigit? with
      | some m, some n => go (UInt8.ofNat (16 * m + n) :: bytes) rest
      | _, _ => go (0x25 :: bytes) (a :: b :: rest)
    | c :: rest =>
      if c.toNat < 0x80 then go (UInt8.ofNat c.toNat :: bytes) rest
      else textOf bytes.reverse ++ c :: go [] rest

end Schema
end TraitCatalog

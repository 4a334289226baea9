import TraitCatalog.Toml.Scalar

namespace TraitCatalog
namespace Toml

-- The characters of a key without quotes.
def isBare (c : Code) : Bool :=
  c.isDigit || c.is '-' || c.is '_' ||
    (0x41 ≤ c.toNat && c.toNat ≤ 0x5A) || (0x61 ≤ c.toNat && c.toNat ≤ 0x7A)

def keyPart : Reader Text := fun t =>
  let bare := t.takeWhile isBare
  if bare.isEmpty then (lineString? t).getD (.error .malformed)
  else .ok (bare, t.drop bare.length)

-- The parts behind the first one of a dotted key, and the blanks behind them.
def keyRest : (fuel : Nat) → Reader (List Text)
  | 0, _ => .error .malformed
  | fuel + 1, t =>
    match skipBlanks t with
    | '.' :: rest => do
      let (part, rest) ← keyPart (skipBlanks rest)
      let (parts, rest) ← keyRest fuel rest
      return (part :: parts, rest)
    | rest => .ok ([], rest)

-- A dotted key: the way to its last part, and that part.
def key : Reader (List Text × Text) := fun t => do
  let (first, rest) ← keyPart t
  let (parts, rest) ← keyRest rest.length.succ rest
  let path := first :: parts
  return ((path.dropLast, path.getLastD first), rest)

-- How many levels values can nest, at one depth of calls. An array takes two levels, and an inline table three.
def mostLevels : Nat := 986

-- The levels that are left below a container that takes `taken`.
def levelsBelow (levels taken : Nat) : Except Fault Nat :=
  if levels < taken then .error (.beyond .depth) else .ok (levels - taken)

mutual

-- A value, with so many levels left. The calls nest no deeper than the text is long.
def valueAt : (fuel levels : Nat) → Reader Toml
  | 0, _, _ => .error .malformed
  | fuel + 1, levels, t =>
    match t with
    | '[' :: rest => do
      let levels ← levelsBelow levels 2
      let (items, rest) ← itemsAt fuel levels (← skipFiller false rest)
      return (.array items, rest)
    | '\x7b' :: rest => do
      let levels ← levelsBelow levels 3
      match skipBlanks rest with
      | '\x7d' :: rest => return (.table [], rest)
      | rest =>
        let (entries, rest) ← pairsAt fuel levels [] rest
        return (.table (fieldsToToml entries), rest)
    | t => scalar t

def itemsAt : (fuel levels : Nat) → Reader (List Toml)
  | 0, _, _ => .error .malformed
  | fuel + 1, levels, t =>
    match t with
    | ']' :: rest => .ok ([], rest)
    | t => do
      let (v, rest) ← valueAt fuel levels t
      match ← skipFiller false rest with
      | ',' :: rest =>
        let (items, rest) ← itemsAt fuel levels (← skipFiller false rest)
        return (v :: items, rest)
      | ']' :: rest => return ([v], rest)
      | _ => throw .malformed

-- The pairs of an inline table up to its end, put to the ones before.
def pairsAt : (fuel levels : Nat) → Entries → Reader Entries
  | 0, _, _, _ => .error .malformed
  | fuel + 1, levels, entries, t => do
    let ((path, last), v, rest) ← pairAt fuel levels t
    let entries ← entries.set path last v
    match skipBlanks rest with
    | ',' :: rest => pairsAt fuel levels entries (skipBlanks rest)
    | '\x7d' :: rest => return (entries, rest)
    | _ => throw .malformed

def pairAt : (fuel levels : Nat) → Text → Except Fault ((List Text × Text) × Toml × Text)
  | 0, _, _ => .error .malformed
  | fuel + 1, levels, t => do
    let (k, rest) ← key t
    match rest with
    | '=' :: rest =>
      let (v, rest) ← valueAt fuel levels (skipBlanks rest)
      return (k, v, rest)
    | _ => throw .malformed

end

-- A bound on how deep the readers of `t` call each other.
def depthOf (t : Text) : Nat :=
  3 * t.length + 3

-- A document as far as it is read: its entries, and the table that the next key goes into.
structure Progress where
  entries : Entries
  header : List Text

def closing (brackets t : Text) : Except Fault Text :=
  match Text.after? brackets t with
  | some rest => .ok rest
  | none => .error .malformed

-- One statement, if the line holds one.
def statement (p : Progress) : Reader Progress := fun t =>
  match t with
  | '[' :: '[' :: rest => do
    let ((path, last), rest) ← key (skipBlanks rest)
    return (⟨← p.entries.appendTable path last, path ++ [last]⟩, ← closing "]]" rest)
  | '[' :: rest => do
    let ((path, last), rest) ← key (skipBlanks rest)
    return (⟨← p.entries.openTable path last, path ++ [last]⟩, ← closing "]" rest)
  | c :: _ => do
    if c.is '\n' || c.is '#' then
      return (p, t)
    let ((path, last), v, rest) ← pairAt (depthOf t) mostLevels t
    return (⟨← p.entries.within p.header fun fields => fields.set path last v, p.header⟩, rest)
  | [] => .ok (p, [])

def statements : (fuel : Nat) → Progress → Text → Except Fault Entries
  | 0, _, _ => .error .malformed
  | fuel + 1, p, t => do
    let (p, rest) ← statement p (skipBlanks t)
    match ← skipComment (skipBlanks rest) with
    | [] => return p.entries
    | '\n' :: rest => statements fuel p rest
    | _ => throw .malformed

def unifyLineEnds : Text → Text
  | '\r' :: '\n' :: rest => '\n' :: unifyLineEnds rest
  | c :: rest => c :: unifyLineEnds rest
  | [] => []

def read (t : Text) : Except Fault (Keyed Toml) := do
  let t := unifyLineEnds t
  return fieldsToToml (← statements (t.length + 1) ⟨[], []⟩ t)

end Toml
end TraitCatalog

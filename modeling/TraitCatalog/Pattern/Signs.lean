import TraitCatalog.Pattern.Reading
import TraitCatalog.Text.Named

namespace TraitCatalog
namespace Pattern
namespace Reader

def kind? (c : Code) : Option (CodeKind × Bool) :=
  if c.is 'd' then some (.digit, false)
  else if c.is 'D' then some (.digit, true)
  else if c.is 's' then some (.space, false)
  else if c.is 'S' then some (.space, true)
  else if c.is 'w' then some (.word, false)
  else if c.is 'W' then some (.word, true)
  else none

-- The control characters that letters behind a backslash stand for.
def control? (c : Code) : Option Nat :=
  if c.is 'a' then some 0x07
  else if c.is 'f' then some 0x0C
  else if c.is 'n' then some 0x0A
  else if c.is 'r' then some 0x0D
  else if c.is 't' then some 0x09
  else if c.is 'v' then some 0x0B
  else none

-- A code point by its name in braces.
def namedNumber : Reader Nat := do
  expect '\x7b'
  match Code.ofName? (← takeUntil '\x7d') with
  | some n => return n
  | none => malformed

-- The number of a code point that is written with the letter `c` behind a backslash.
def escapedNumber (c : Code) : Reader Nat := do
  if let some n := control? c then return n
  if c.is 'x' then hexNumber 2
  else if c.is 'u' then hexNumber 4
  else if c.is 'U' then hexNumber 8
  else if c.is 'N' then namedNumber
  else if c.isDigit || isLetter c then malformed
  else return c.toNat

def octalNumber (digits : Text) : Reader Nat := do
  let n := valueIn 8 digits
  if n ≤ 0xFF then return n else malformed

-- What a backslash and `c` stand for inside of brackets.
def escapedItem (o : Options) (c : Code) : Reader SetItem := do
  if c.is 'b' then return .range 0x08 0x08
  if let some (k, negated) := kind? c then return .kind k o.ascii negated
  let n ←
    if isOctal c then octalNumber (c :: (← takeUpTo 2 isOctal))
    else escapedNumber c
  return .range n n

def setItem (o : Options) (c : Code) : Reader SetItem := do
  if c.is '\\' then escapedItem o (← take) else return .range c.toNat c.toNat

def number? : SetItem → Option Nat
  | .range first last => if first = last then some first else none
  | .kind .. => none

-- The items of a set up to its closing bracket, which is an item itself where it comes first.
def setItems (o : Options) : (bound : Nat) → (items : List SetItem) → Reader (List SetItem)
  | 0, _ => malformed
  | bound + 1, items => do
    let c ← take
    if c.is ']' && !items.isEmpty then
      return items
    let first ← setItem o c
    if !(← skip '-') then
      setItems o bound (items ++ [first])
    else
      let d ← take
      if d.is ']' then
        return items ++ [first, .range 0x2D 0x2D]
      let second ← setItem o d
      match number? first, number? second with
      | some m, some n =>
        if m ≤ n then setItems o bound (items ++ [.range m n]) else malformed
      | _, _ => malformed

-- Where case is folded, a capital beyond the basic plane stands for nothing among other items.
def foldedItems (folding : Folding) (items : List SetItem) : List SetItem :=
  if folding = .full ∧ 1 < items.eraseDups.length then
    items.filter fun item => !(number? item).any fun n => 0xFFFF < n && Code.isCapital n
  else
    items

def setOf (o : Options) : Reader Pattern := do
  let negated ← skip '^'
  let items ← setItems o ((← get).rest.length + 1) []
  return .one ⟨foldedItems o.folding items, negated, o.folding⟩

def literal (o : Options) (n : Nat) : Pattern :=
  .one ⟨[.range n n], false, o.folding⟩

def dot (o : Options) : Pattern :=
  .one ⟨if o.dotAll then [] else [.range 0x0A 0x0A], true, .exact⟩

-- A group that is named in front of its end, or inside of the look behind that it belongs to, cannot be
-- asked for.
def checkBehind (n : Nat) : Reader Unit := do
  let r ← get
  if let some first := r.firstBehind then
    if (r.complete.lookup n).isNone || first ≤ n then malformed

def reference (o : Options) (n : Nat) : Reader Pattern := do
  match (← get).complete.lookup n with
  | none => malformed
  | some w =>
    checkBehind n
    return .again n o.folding w

-- Digits behind a backslash: a code point by octal digits, or else the text of a group.
def escapedDigits (o : Options) (c : Code) : Reader Pattern := do
  if c.is '0' then
    return literal o (valueIn 8 (← takeUpTo 2 isOctal))
  let second ← takeUpTo 1 Code.isDigit
  if isOctal c && second.any isOctal then
    if let [third] ← takeUpTo 1 isOctal then
      return literal o (← octalNumber (c :: second ++ [third]))
  reference o (Text.decimalValue (c :: second))

end Reader
end Pattern
end TraitCatalog

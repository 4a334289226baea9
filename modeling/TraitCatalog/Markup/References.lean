import TraitCatalog.Limit
import TraitCatalog.Markup.Names

namespace TraitCatalog
namespace Markup

-- A decimal reference has more digits than an integer may have.
inductive ReferenceError
  | integerTooLong
  deriving DecidableEq, Repr

def ReferenceError.message : ReferenceError → Text
  | integerTooLong => "character reference with too many digits"

-- The characters that the numbers `80` to `9F` (hexadecimal) stand for; those that have none of
-- their own stand for themselves.
def legacyControls : List Nat :=
  [0x20AC, 0x81, 0x201A, 0x0192, 0x201E, 0x2026, 0x2020, 0x2021, 0x02C6, 0x2030, 0x0160, 0x2039,
   0x0152, 0x8D, 0x017D, 0x8F, 0x90, 0x2018, 0x2019, 0x201C, 0x201D, 0x2022, 0x2013, 0x2014, 0x02DC,
   0x2122, 0x0161, 0x203A, 0x0153, 0x9D, 0x017E, 0x0178]

-- Numbers of control codes and of code points that are no characters.
def isForbidden (n : Nat) : Bool :=
  (0x1 ≤ n && n ≤ 0x8) || n = 0xB || (0xE ≤ n && n ≤ 0x1F) || n = 0x7F ||
    (0xFDD0 ≤ n && n ≤ 0xFDEF) || n % 0x10000 = 0xFFFE || n % 0x10000 = 0xFFFF

def numbered (n : Nat) : Text :=
  if n = 0 then [Code.ofNat 0xFFFD]
  else if 0x80 ≤ n ∧ n ≤ 0x9F then [Code.ofNat (legacyControls.getD (n - 0x80) n)]
  else if (0xD800 ≤ n ∧ n ≤ 0xDFFF) ∨ 0x10FFFF < n then [Code.ofNat 0xFFFD]
  else if isForbidden n then []
  else [Code.ofNat n]

-- The character of a name that needs no semicolon.
def openName? (name : Text) : Option Text := do
  let n ← openNames.lookup (← name.toString?)
  return [Code.ofNat n]

-- The characters of a name that needs a semicolon.
def closedName? (name : Text) : Option Text := do
  let s ← name.toString?
  let names ← closedNames.lookup (← s.toList.head?)
  return (← names.lookup s).map Code.ofNat

-- The longest proper start of `name`, of at least two characters, that needs no semicolon; with
-- what it stands for goes the rest of the name.
def openStart? (name : Text) : Option Text :=
  let lengths := (List.range name.length).reverse.takeWhile (2 ≤ ·)
  lengths.findSome? fun n => (openName? (name.take n)).map (· ++ name.drop n)

-- What the reference to `name` stands for; an unknown one is text.
def named (name : Text) (closed : Bool) : Text :=
  let whole := if closed then openName? name <|> closedName? name else openName? name
  match whole, openStart? name with
  | some t, _ => t
  | none, some t => t ++ semicolon
  | none, none => "&" ++ name ++ semicolon
where
  semicolon : Text := if closed then ";" else []

def isNameCode (c : Code) : Bool :=
  !(c.is '\t' || c.is '\n' || c.is '\x0c' || c.is ' ' || c.is '<' || c.is '&' || c.is '#' || c.is ';')

def nameLimit : Nat := 32

-- A reference, as it stands behind the `&`.
inductive Reference
  | decimal (digits : Text)
  | hexadecimal (digits : Text)
  | name (name : Text)

namespace Reference

-- The reference at the start of `t`, with its length without a semicolon.
def at? (t : Text) : Option (Reference × Nat) :=
  match t with
  | '#' :: rest =>
    let digits := rest.takeWhile Code.isDigit
    if digits.isEmpty then
      match rest with
      | x :: rest =>
        let digits := rest.takeWhile (·.hexDigit?.isSome)
        if (x.is 'x' || x.is 'X') && !digits.isEmpty then
          some (hexadecimal digits, digits.length + 2)
        else
          none
      | [] => none
    else
      some (decimal digits, digits.length + 1)
  | t =>
    let letters := (t.take nameLimit).takeWhile isNameCode
    if letters.isEmpty then none else some (name letters, letters.length)

def text (r : Reference) (closed : Bool) : Except ReferenceError Text :=
  match r with
  | decimal digits =>
    if Limit.mostDigits < digits.length then .error .integerTooLong
    else .ok (numbered (Text.decimalValue digits))
  | hexadecimal digits =>
    .ok (numbered (digits.foldl (fun n c => 16 * n + c.hexDigit?.getD 0) 0))
  | name letters => .ok (named letters closed)

end Reference

-- `t` with every reference replaced by what it stands for, which is not scanned again.
def decode (t : Text) : Except ReferenceError Text :=
  match t with
  | [] => .ok []
  | c :: rest =>
    if c.is '&' then
      match Reference.at? rest with
      | none => return c :: (← decode rest)
      | some (r, n) =>
        let closed := (rest.drop n).head?.any (·.is ';')
        return (← r.text closed) ++ (← decode (rest.drop (if closed then n + 1 else n)))
    else
      return c :: (← decode rest)
termination_by t.length
decreasing_by
  all_goals simp only [List.length_drop, List.length_cons]
  all_goals omega

end Markup
end TraitCatalog

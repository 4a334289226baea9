import TraitCatalog.Keyed
import TraitCatalog.Pattern.Options

namespace TraitCatalog
namespace Pattern

inductive Fault
  | malformed
  -- A number of repetitions is too large.
  | tooMany
  -- The pattern is kept to ASCII and not kept to ASCII.
  | contradictory
  | tooDeep
  deriving DecidableEq, Repr

-- What is known while a pattern is read: what is left of it, the options of all of it, the number of the
-- next group, and of which width the groups are that are complete.
structure Reading where
  rest : Text
  options : Options
  nextGroup : Nat
  names : Keyed Nat
  complete : List (Nat × Width)
  -- The groups that conditions ask for.
  asked : List Nat
  -- Inside of a look behind: the number of its first group.
  firstBehind : Option Nat
  -- The letters that set the options of all of the pattern.
  letters : Text
  hasRepetition : Bool
  -- Whether there is a look behind over texts of different lengths.
  hasWideBehind : Bool
  -- How many groups are open.
  depth : Nat

abbrev Reader := StateT Reading (Except Fault)

namespace Reader

def malformed : Reader α :=
  throw .malformed

def peek : Reader (Option Code) := do
  return (← get).rest.head?

def take? : Reader (Option Code) := do
  match (← get).rest with
  | [] => return none
  | c :: rest =>
    modify fun r => { r with rest }
    return some c

def take : Reader Code := do
  match ← take? with
  | some c => return c
  | none => malformed

def skip (d : Char) : Reader Bool := do
  match (← get).rest with
  | c :: rest =>
    if c.is d then
      modify fun r => { r with rest }
      return true
    else
      return false
  | [] => return false

def expect (d : Char) : Reader Unit := do
  unless ← skip d do malformed

-- At most `most` code points that satisfy `p`.
def takeUpTo (most : Nat) (p : Code → Bool) : Reader Text := do
  let r ← get
  let taken := (r.rest.take most).takeWhile p
  set { r with rest := r.rest.drop taken.length }
  return taken

def takeAll (p : Code → Bool) : Reader Text := do
  takeUpTo (← get).rest.length p

-- What stands in front of the next `d`, which is left out.
def takeUntil (d : Char) : Reader Text := do
  let t ← takeAll fun c => !c.is d
  expect d
  return t

def isOctal (c : Code) : Bool :=
  c.digit?.any (· < 8)

def isLetter (c : Code) : Bool :=
  c.toNat < 0x80 && c.isWord && !c.isDigit && !c.is '_'

def isLayout (c : Code) : Bool :=
  c.toNat = 0x20 || (0x09 ≤ c.toNat && c.toNat ≤ 0x0D)

def valueIn (base : Nat) (digits : Text) : Nat :=
  digits.foldl (fun n c => base * n + c.hexDigit?.getD 0) 0

-- A code point by exactly `count` hexadecimal digits.
def hexNumber (count : Nat) : Reader Nat := do
  let digits ← takeUpTo count fun c => c.hexDigit?.isSome
  let n := valueIn 16 digits
  if digits.length = count ∧ n < 0x110000 then return n else malformed

end Reader
end Pattern
end TraitCatalog

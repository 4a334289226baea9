import TraitCatalog.Text.Blank
import TraitCatalog.Text.Case
import TraitCatalog.Text.Numeral
import TraitCatalog.Text.Word

namespace TraitCatalog

-- Which letters are the same when a pattern does not tell upper from lower case.
inductive Folding
  | exact
  | ascii
  | full
  deriving DecidableEq, Repr

namespace Folding

def asciiVariants (n : Nat) : List Nat :=
  if 0x41 ≤ n ∧ n ≤ 0x5A then [n, n + 0x20]
  else if 0x61 ≤ n ∧ n ≤ 0x7A then [n, n - 0x20]
  else [n]

def variants : Folding → Nat → List Nat
  | exact, n => [n]
  | ascii, n => asciiVariants n
  | full, n => Code.caseVariants n

def same (f : Folding) (c d : Code) : Bool :=
  (f.variants c.toNat).contains d.toNat

end Folding

namespace Pattern

inductive CodeKind
  | digit
  | space
  | word
  deriving DecidableEq, Repr

-- Kinds of all scripts, or of ASCII alone.
def CodeKind.holds (k : CodeKind) (ascii : Bool) (n : Nat) : Bool :=
  let c := Code.ofNat n
  (!ascii || n < 0x80) &&
    match k with
    | digit => c.decimal?.isSome
    | space => if ascii then n = 0x20 || (0x09 ≤ n && n ≤ 0x0D) else c.isBlank
    | word => c.isWord

inductive SetItem
  | range (first last : Nat)
  | kind (k : CodeKind) (ascii negated : Bool)
  deriving DecidableEq, Repr

def SetItem.holds : SetItem → Nat → Bool
  | range first last, n => first ≤ n && n ≤ last
  | kind k ascii negated, n => k.holds ascii n != negated

structure CodeSet where
  items : List SetItem
  negated : Bool
  folding : Folding
  deriving DecidableEq, Repr

def CodeSet.holds (s : CodeSet) (c : Code) : Bool :=
  ((s.folding.variants c.toNat).any fun n => s.items.any (·.holds n)) != s.negated

-- What can be said of a place without going on.
inductive Landmark
  | textStart
  | lineStart
  | textEnd
  -- The end of the text, or a line feed that ends it.
  | lastLineEnd
  | lineEnd
  | wordEdge (ascii : Bool)
  | noWordEdge (ascii : Bool)
  deriving DecidableEq, Repr

inductive Preference
  | most
  | least
  -- As many as there are, and never fewer.
  | all
  deriving DecidableEq, Repr

-- How long the texts can be that a pattern leads over.
structure Width where
  least : Nat
  most : Option Nat
  deriving DecidableEq, Repr

end Pattern

open Pattern in
inductive Pattern
  | empty
  | one (s : CodeSet)
  | landmark (l : Landmark)
  | sequence (p q : Pattern)
  | choice (p q : Pattern)
  | repetition (least : Nat) (most : Option Nat) (preference : Preference) (p : Pattern)
  | group (number : Nat) (p : Pattern)
  -- The text of a group once more.
  | again (number : Nat) (folding : Folding) (width : Width)
  | ahead (holds : Bool) (p : Pattern)
  | behind (holds : Bool) (width : Nat) (p : Pattern)
  | atomic (p : Pattern)
  | ifGroup (number : Nat) (p q : Pattern)
  deriving DecidableEq, Repr

namespace Pattern

-- A place in a text: what stands in front of it, in reverse, what stands behind it, how many code points
-- that are, and the texts of the groups so far.
structure Spot where
  before : Text
  rest : Text
  left : Nat
  groups : List (Nat × Text)
  deriving DecidableEq, Repr

namespace Spot

def step? (s : Spot) : Option (Code × Spot) :=
  match s.rest with
  | [] => none
  | c :: rest => some (c, { s with before := c :: s.before, rest, left := s.left - 1 })

def back? : Nat → Spot → Option Spot
  | 0, s => some s
  | n + 1, s =>
    match s.before with
    | [] => none
    | c :: before => back? n { s with before, rest := c :: s.rest, left := s.left + 1 }

def isWordEdge (s : Spot) (ascii : Bool) : Bool :=
  (s.before.head?.any isWord) != (s.rest.head?.any isWord)
where
  isWord (c : Code) : Bool := CodeKind.word.holds ascii c.toNat

def isAt (s : Spot) : Landmark → Bool
  | .textStart => s.before.isEmpty
  | .lineStart => s.before.head?.all (·.is '\n')
  | .textEnd => s.rest.isEmpty
  | .lastLineEnd => s.rest.isEmpty || s.rest = [Code.char '\n']
  | .lineEnd => s.rest.head?.all (·.is '\n')
  | .wordEdge ascii => s.isWordEdge ascii
  -- An empty text has no places inside or outside of words.
  | .noWordEdge ascii => !(s.before.isEmpty && s.rest.isEmpty) && !s.isWordEdge ascii

-- The text from the place `start` up to this one.
def since (s start : Spot) : Text :=
  start.rest.take (start.left - s.left)

-- Leads over a text that is the same as `t`.
def over? (folding : Folding) : Text → Spot → Option Spot
  | [], s => some s
  | c :: t, s =>
    match s.step? with
    | some (d, next) => if folding.same c d then over? folding t next else none
    | none => none

end Spot

-- Where a search leads to, given what is tried behind it.
abbrev Step := Spot → (Spot → Option Spot) → Option Spot

-- Repeats `body`. No repetition is tried at the place where the one before began, unless it is needed
-- for the least number.
def repeated (body : Step) (least : Nat) (most : Option Nat) (preference : Preference)
    (next : Spot → Option Spot) :
    (bound : Nat) → (count : Nat) → (last : Option Nat) → Spot → Option Spot
  | 0, _, _, _ => none
  | bound + 1, count, last, s =>
    if count < least then
      if preference = .all then
        (body s some).bind (repeated body least most preference next bound (count + 1) last)
      else
        body s (repeated body least most preference next bound (count + 1) last)
    else
      let mayGoOn := most.all (count < ·) && last ≠ some s.left
      let goOn := repeated body least most preference next bound (count + 1) (some s.left)
      match preference with
      | .most => (if mayGoOn then body s goOn else none) <|> next s
      | .least => next s <|> (if mayGoOn then body s goOn else none)
      | .all =>
        match if mayGoOn then body s some else none with
        | some t => goOn t
        | none => next s

def run : Pattern → Step
  | empty, s, next => next s
  | one set, s, next =>
    match s.step? with
    | some (c, t) => if set.holds c then next t else none
    | none => none
  | landmark l, s, next => if s.isAt l then next s else none
  | sequence p q, s, next => run p s fun t => run q t next
  | choice p q, s, next => run p s next <|> run q s next
  | repetition least most preference p, s, next =>
    repeated (run p) least most preference next (least + s.left + 2) 0 none s
  | group number p, s, next =>
    run p s fun t => next { t with groups := (number, t.since s) :: t.groups }
  | again number folding _, s, next =>
    match s.groups.lookup number with
    | some t => (s.over? folding t).bind next
    | none => none
  | ahead holds p, s, next =>
    match run p s some with
    | some t => if holds then next { s with groups := t.groups } else none
    | none => if holds then none else next s
  | behind holds width p, s, next =>
    match (s.back? width).bind fun t => run p t some with
    | some t => if holds then next { s with groups := t.groups } else none
    | none => if holds then none else next s
  | atomic p, s, next => (run p s some).bind next
  | ifGroup number p q, s, next =>
    if (s.groups.lookup number).isSome then run p s next else run q s next

def isFoundFrom (p : Pattern) (before rest : Text) (left : Nat) : Bool :=
  (p.run ⟨before, rest, left, []⟩ some).isSome ||
    match rest with
    | [] => false
    | c :: rest => isFoundFrom p (c :: before) rest (left - 1)

def isFoundIn (p : Pattern) (t : Text) : Bool :=
  p.isFoundFrom [] t t.length

namespace Width

def plus (v w : Width) : Width where
  least := v.least + w.least
  most := v.most.bind fun m => w.most.map (m + ·)

def or (v w : Width) : Width where
  least := min v.least w.least
  most := v.most.bind fun m => w.most.map (max m ·)

-- Many repetitions of nothing have no width, and neither have none of something of any width.
def times (w : Width) (least : Nat) (most : Option Nat) : Width where
  least := w.least * least
  most :=
    if w.most = some 0 ∨ most = some 0 then some 0 else w.most.bind fun m => most.map (m * ·)

end Width

def width : Pattern → Width
  | empty | landmark _ | ahead .. | behind .. => ⟨0, some 0⟩
  | one _ => ⟨1, some 1⟩
  | sequence p q => p.width.plus q.width
  | choice p q => p.width.or q.width
  | repetition least most _ p => p.width.times least most
  | group _ p => p.width
  | again _ _ w => w
  | atomic p => p.width
  | ifGroup _ p q => p.width.or q.width

end Pattern
end TraitCatalog

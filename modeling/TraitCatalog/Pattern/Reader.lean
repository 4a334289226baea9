import TraitCatalog.Pattern.Signs

namespace TraitCatalog
namespace Pattern
namespace Reader

-- One part of a pattern, and what may stand behind it.
inductive Part
  | plain (p : Pattern)
  -- A landmark cannot be repeated.
  | fixed (p : Pattern)
  -- What is repeated cannot be repeated once more.
  | repeated (p : Pattern)

def Part.pattern : Part → Pattern
  | plain p | fixed p | repeated p => p

def escaped (o : Options) (c : Code) : Reader Part := do
  if c.is 'A' then return .fixed (.landmark .textStart)
  if c.is 'Z' then return .fixed (.landmark .textEnd)
  if c.is 'b' then return .fixed (.landmark (.wordEdge o.ascii))
  if c.is 'B' then return .fixed (.landmark (.noWordEdge o.ascii))
  if let some (k, negated) := kind? c then
    return .plain (.one ⟨[.kind k o.ascii negated], false, o.folding⟩)
  if c.isDigit then return .plain (← escapedDigits o c)
  return .plain (literal o (← escapedNumber c))

-- No number of repetitions reaches this one.
def repetitionLimit : Nat := 4294967295

def repetitionNumber (digits : Text) : Reader (Option Nat) := do
  if digits.isEmpty then return none
  let n := digits.decimalValue
  if repetitionLimit ≤ n then throw .tooMany else return some n

-- The numbers between braces; none if what stands there are no numbers, which is then left.
def braces? : Reader (Option (Nat × Option Nat)) := do
  let start ← get
  if (start.rest.head?.any (·.is '}')) then return none
  let low ← takeAll Code.isDigit
  let high ← if ← skip ',' then takeAll Code.isDigit else pure low
  if !(← skip '}') then
    set start
    return none
  -- A last backslash is seen before the numbers are.
  if (← get).rest = [Code.char '\\'] then malformed
  let least ← repetitionNumber low
  let most ← repetitionNumber high
  if most.any (· < least.getD 0) then malformed
  return some (least.getD 0, most)

-- The numbers of repetitions that `c` stands for, if it stands for some.
def bounds? (c : Code) : Reader (Option (Nat × Option Nat)) := do
  if c.is '?' then return some (0, some 1)
  if c.is '*' then return some (0, none)
  if c.is '+' then return some (1, none)
  if c.is '\x7b' then braces? else return none

def preference : Reader Preference := do
  if ← skip '?' then return .least
  if ← skip '+' then return .all
  return .most

-- The parts in front in reverse, with the last one repeated.
def repeatLast (least : Nat) (most : Option Nat) (front : List Part) : Reader (List Part) := do
  match front with
  | .plain p :: front =>
    modify fun r => { r with hasRepetition := true }
    return .repeated (.repetition least most (← preference) p) :: front
  | _ => malformed

def isName (t : Text) : Bool :=
  t.all Code.isWord && t.head?.any fun c => c.decimal?.isNone

-- A new group, which is open until it is closed.
def openGroup (name : Option Text) : Reader Nat := do
  let r ← get
  if let some t := name then
    if !isName t || r.names.contains t then malformed
    set { r with names := r.names.put t r.nextGroup }
  modify fun r => { r with nextGroup := r.nextGroup + 1 }
  return r.nextGroup

def closeGroup (n : Nat) (p : Pattern) : Reader Part := do
  modify fun r => { r with complete := (n, p.width) :: r.complete }
  return .plain (.group n p)

-- Letters that set options, up to a sign that is none.
def optionLetters (value : Bool) : (bound : Nat) → Options → Code → Reader (Options × Code)
  | 0, _, _ => malformed
  | bound + 1, o, c =>
    match o.set? value c with
    | none => return (o, c)
    | some o => do optionLetters value bound o (← take)

-- The letters that are given, in front of or behind the minus sign, must not contradict each other.
def checkLetters (given : Text) : Reader Unit := do
  let on := given.takeWhile fun c => !c.is '-'
  let off := (given.dropWhile fun c => !c.is '-').drop 1
  let has (d : Char) (t : Text) : Bool := t.any (·.is d)
  if has 'a' on && has 'u' on then malformed
  if has 'a' off || has 'u' off || has 't' off then malformed
  if on.any off.contains then malformed
  if given.length ≠ on.length && off.isEmpty then malformed

-- The options of a group that begin with `c`, or none if they hold for all of the pattern.
def groupOptions? (o : Options) (c : Code) : Reader (Option Options) := do
  if !c.is '-' && (o.set? true c).isNone then malformed
  let start := (← get).rest
  let bound := start.length + 2
  let (on, c') ← if c.is '-' then pure (o, c) else optionLetters true bound o c
  let (off, c'') ← if c'.is '-' then optionLetters false bound on (← take) else pure (on, c')
  let letters := c :: start.take (start.length - (← get).rest.length - 1)
  checkLetters letters
  if c''.is ':' then
    if letters.any (·.is 't') then malformed
    return some off
  if c'.is ')' then
    modify fun r => { r with options := on, letters := r.letters ++ letters }
    return none
  malformed

def sequenceOf (parts : List Part) : Pattern :=
  match parts.map Part.pattern with
  | [] => .empty
  | p :: ps => ps.foldl (fun rest q => .sequence q rest) p

-- A look behind leads back over a fixed number of code points.
def lookBehind (holds : Bool) (p : Pattern) : Reader Part := do
  let w := p.width
  if w.most ≠ some w.least ∨ repetitionLimit < w.least then
    modify fun r => { r with hasWideBehind := true }
  return .plain (.behind holds w.least p)

def conditionGroup (t : Text) : Reader Nat := do
  let n ←
    if isName t then
      match (← get).names.get? t with
      | some n => pure n
      | none => malformed
    else
      match t.integer? with
      | some (.ofNat (n + 1)) =>
        modify fun r => { r with asked := (n + 1) :: r.asked }
        pure (n + 1)
      | _ => malformed
  checkBehind n
  return n

-- How the options stand for the parts of the whole pattern or of a group in it.
inductive Level
  | whole
  | inner
  deriving DecidableEq

def levelOptions (level : Level) (o : Options) : Reader Options := do
  match level with
  | .whole => return (← get).options
  | .inner => return o

-- How many groups can be open at a time, at one depth of calls.
def mostOpen : Nat := 488

mutual

-- The choices between the bars, up to the end of a group or of the pattern. The options of the whole
-- pattern can only be set at its very start.
def choices (level : Level) (o : Options) : (bound : Nat) → Reader Pattern
  | 0 => malformed
  | bound + 1 => do
    let p ← parts level o bound []
    if ← skip '|' then
      return .choice p (← choices .inner (← levelOptions level o) bound)
    else
      return p

-- The parts of one choice, those in front in reverse.
def parts (level : Level) (o : Options) : (bound : Nat) → (front : List Part) → Reader Pattern
  | 0, _ => malformed
  | bound + 1, front => do
    match ← peek with
    | none => return sequenceOf front
    | some c =>
      if c.is '|' || c.is ')' then
        return sequenceOf front
      let _ ← take
      if o.spaced && isLayout c then
        parts level o bound front
      else if o.spaced && c.is '#' then
        let _ ← takeAll fun d => !d.is '\n'
        parts level o bound front
      else if c.is '(' then
        match ← groupOrOptions level o bound front.isEmpty with
        | some p => parts level o bound (p :: front)
        | none => parts level (← levelOptions level o) bound front
      else if let some (least, most) ← bounds? c then
        parts level o bound (← repeatLast least most front)
      else
        parts level o bound ((← onePart o c) :: front)

-- A part that begins with `c` and is no group.
def onePart (o : Options) (c : Code) : Reader Part := do
  if c.is '\\' then escaped o (← take)
  else if c.is '[' then return .plain (← setOf o)
  else if c.is '.' then return .plain (dot o)
  else if c.is '^' then return .fixed (.landmark (if o.linewise then .lineStart else .textStart))
  else if c.is '$' then return .fixed (.landmark (if o.linewise then .lineEnd else .lastLineEnd))
  else return .plain (literal o c.toNat)

-- What stands behind an opening parenthesis; none for comments and options.
def groupOrOptions (level : Level) (o : Options) (bound : Nat) (atStart : Bool) :
    Reader (Option Part) := do
  match bound with
  | 0 => malformed
  | bound + 1 =>
    if !(← skip '?') then
      some <$> captured none o bound
    else
      let c ← take
      if c.is 'P' then
        if ← skip '<' then
          some <$> captured (some (← takeUntil '>')) o bound
        else if ← skip '=' then
          let name ← takeUntil ')'
          match (← get).names.get? name with
          | some n => return some (.plain (← reference o n))
          | none => malformed
        else
          malformed
      else if c.is ':' then
        return some (.plain (← enclosed o bound))
      else if c.is '#' then
        let _ ← takeUntil ')'
        return none
      else if c.is '=' || c.is '!' then
        return some (.plain (.ahead (c.is '=') (← enclosed o bound)))
      else if c.is '<' then
        let d ← take
        if !(d.is '=' || d.is '!') then malformed
        let outer := (← get).firstBehind
        modify fun r => { r with firstBehind := some (outer.getD r.nextGroup) }
        let p ← enclosed o bound
        modify fun r => { r with firstBehind := outer }
        some <$> lookBehind (d.is '=') p
      else if c.is '(' then
        let n ← conditionGroup (← takeUntil ')')
        let p ← parts .inner o bound []
        let q ← if ← skip '|' then parts .inner o bound [] else pure .empty
        expect ')'
        return some (.plain (.ifGroup n p q))
      else if c.is '>' then
        return some (.plain (.atomic (← enclosed o bound)))
      else
        match ← groupOptions? o c with
        | some inner => return some (.plain (← enclosed inner bound))
        | none =>
          if level = .whole && atStart then return none else malformed

def captured (name : Option Text) (o : Options) : (bound : Nat) → Reader Part
  | 0 => malformed
  | bound + 1 => do
    let n ← openGroup name
    closeGroup n (← enclosed o bound)

def enclosed (o : Options) : (bound : Nat) → Reader Pattern
  | 0 => malformed
  | bound + 1 => do
    let r ← get
    if r.depth = mostOpen then
      throw .tooDeep
    set { r with depth := r.depth + 1 }
    let p ← choices .inner o bound
    expect ')'
    modify fun r => { r with depth := r.depth - 1 }
    return p

end

def whole (bound : Nat) : Reader Pattern := do
  let p ← choices .whole .standard bound
  let r ← get
  let has (d : Char) : Bool := r.letters.any (·.is d)
  if has 'a' && has 'u' then
    throw .contradictory
  if !r.rest.isEmpty || r.asked.any (r.nextGroup ≤ ·) then malformed
  if r.hasWideBehind || (has 't' && r.hasRepetition) then malformed
  return p

end Reader

def read (t : Text) : Except Fault Pattern :=
  (Reader.whole (4 * t.length + 4)).run' ⟨t, .standard, 1, [], [], [], none, [], false, false, 0⟩

end Pattern
end TraitCatalog

import TraitCatalog.Json.Basic
import TraitCatalog.Limit

namespace TraitCatalog
namespace Json

inductive ReadError
  | malformed
  | beyond (l : Limit)
  deriving DecidableEq, Repr

-- The integer with the given digits, which stand in reverse.
def readInteger (negative : Bool) (digits : Text) : Except ReadError Int :=
  if Limit.mostDigits < digits.length then
    .error (.beyond .digits)
  else
    let n := Text.decimalValue digits.reverse
    .ok (if negative then -(n : Int) else n)

-- Blanks between the tokens.
def isSpace (c : Code) : Bool :=
  c.is ' ' || c.is '\t' || c.is '\n' || c.is '\r'

-- A number as far as it is read. Digits stand in reverse.
inductive Number
  | sign
  | zero (negative : Bool)
  | whole (negative : Bool) (digits : Text)
  | point (negative : Bool) (digits : Text)
  | fraction (negative : Bool) (digits places : Text)
  | mark (negative : Bool) (digits places : Text)
  | markSign (negative : Bool) (digits places : Text) (below : Bool)
  | exponent (negative : Bool) (digits places : Text) (below : Bool) (power : Text)

namespace Number

def start? (c : Code) : Option Number :=
  if c.is '-' then some sign
  else if c.is '0' then some (zero false)
  else if c.isDigit then some (whole false [c])
  else none

-- The number with one code point more, if it can go on with it.
def extend? (n : Number) (c : Code) : Option Number :=
  let e := c.is 'e' || c.is 'E'
  match n with
  | sign =>
    if c.is '0' then some (zero true) else if c.isDigit then some (whole true [c]) else none
  | zero s =>
    if c.is '.' then some (point s "0") else if e then some (mark s "0" []) else none
  | whole s d =>
    if c.isDigit then some (whole s (c :: d))
    else if c.is '.' then some (point s d)
    else if e then some (mark s d [])
    else none
  | point s d => if c.isDigit then some (fraction s d [c]) else none
  | fraction s d f =>
    if c.isDigit then some (fraction s d (c :: f)) else if e then some (mark s d f) else none
  | mark s d f =>
    if c.isDigit then some (exponent s d f false [c])
    else if c.is '+' then some (markSign s d f false)
    else if c.is '-' then some (markSign s d f true)
    else none
  | markSign s d f b => if c.isDigit then some (exponent s d f b [c]) else none
  | exponent s d f b p => if c.isDigit then some (exponent s d f b (c :: p)) else none

-- The floating-point number of a whole part, its decimal places and a power of ten.
def float (negative : Bool) (digits places : Text) (power : Int) : Json :=
  .float (Double.ofDecimal negative (Text.decimalValue (digits.reverse ++ places.reverse))
    (power - places.length))

-- The value of a number that has ended. Where the number breaks off behind a point or a mark, the
-- integer in front of it was already taken for the value.
def value : Number → Except ReadError Json
  | sign => .error .malformed
  | zero _ => .ok (.int 0)
  | whole s d => return .int (← readInteger s d)
  | point s d => do
    let _ ← readInteger s d
    .error .malformed
  | fraction s d f => .ok (float s d f 0)
  | mark s d f => broken s d f
  | markSign s d f _ => broken s d f
  | exponent s d f b p =>
    let power : Int := Text.decimalValue p.reverse
    .ok (float s d f (if b then -power else power))
where
  broken (s : Bool) (d f : Text) : Except ReadError Json := do
    if f.isEmpty then
      let _ ← readInteger s d
    .error .malformed

end Number

-- The inside of a string: plain text, behind a backslash, or among the digits of a numbered escape.
-- The text stands in reverse; a high surrogate that an escape named is held back, because the next
-- escape may name its low half.
inductive Quoted
  | plain (text : Text) (held : Option Nat)
  | escape (text : Text) (held : Option Nat)
  | hex (text : Text) (held : Option Nat) (count value : Nat)

namespace Quoted

-- The text with the surrogate that was held back.
def settle (text : Text) : Option Nat → Text
  | none => text
  | some high => Code.ofNat high :: text

def joinSurrogates (high low : Nat) : Code :=
  Code.ofNat (0x10000 + (high - 0xD800) * 0x400 + (low - 0xDC00))

-- An escape named the code point `n`.
def named (text : Text) (held : Option Nat) (n : Nat) : Quoted :=
  match held with
  | some high =>
    if 0xDC00 ≤ n ∧ n < 0xE000 then plain (joinSurrogates high n :: text) none
    else fresh (Code.ofNat high :: text)
  | none => fresh text
where
  fresh (text : Text) : Quoted :=
    if 0xD800 ≤ n ∧ n < 0xDC00 then plain text (some n) else plain (Code.ofNat n :: text) none

def letter? (c : Code) : Option Code :=
  if c.is '"' || c.is '\\' || c.is '/' then some c
  else if c.is 'b' then some '\x08'
  else if c.is 'f' then some '\x0c'
  else if c.is 'n' then some '\n'
  else if c.is 'r' then some '\r'
  else if c.is 't' then some '\t'
  else none

-- One code point inside the string; the whole text once the string is closed.
def step (q : Quoted) (c : Code) : Except ReadError (Quoted ⊕ Text) :=
  match q with
  | plain text held =>
    if c.is '"' then .ok (.inr (settle text held).reverse)
    else if c.is '\\' then .ok (.inl (escape text held))
    else if c.toNat < 0x20 then .error .malformed
    else .ok (.inl (plain (c :: settle text held) none))
  | escape text held =>
    if c.is 'u' then .ok (.inl (hex text held 0 0))
    else match letter? c with
      | some d => .ok (.inl (plain (d :: settle text held) none))
      | none => .error .malformed
  | hex text held count value =>
    match c.hexDigit? with
    | none => .error .malformed
    | some d =>
      let value := 16 * value + d
      .ok (.inl (if count = 3 then named text held value else hex text held (count + 1) value))

end Quoted

-- A container around the value that is awaited.
inductive Frame
  -- An array; the items before the value stand in reverse.
  | item (before : List Json)
  -- An object, with the fields before the value and the key of the value.
  | member (before : Keyed Json) (key : Text)

-- What the reader waits for.
inductive Mode
  | value
  | arrayStart
  | objectStart
  | key (fields : Keyed Json)
  | keyText (fields : Keyed Json) (q : Quoted)
  | colon (fields : Keyed Json) (key : Text)
  | text (q : Quoted)
  | number (n : Number)
  | word (rest : Text) (v : Json)
  | afterItem (items : List Json)
  | afterMember (fields : Keyed Json)
  | done (v : Json)

-- Each container of the stack holds what came before the value that is awaited.
structure State where
  mode : Mode
  stack : List Frame

namespace State

def initial : State :=
  ⟨.value, []⟩

-- The awaited value is there.
def complete (v : Json) : List Frame → State
  | [] => ⟨.done v, []⟩
  | .item before :: outer => ⟨.afterItem (v :: before), outer⟩
  | .member before key :: outer => ⟨.afterMember (before.put key v), outer⟩

-- A container begins among those of the stack.
def openContainer (mode : Mode) (stack : List Frame) : Except ReadError State :=
  if stack.length < Limit.mostContainers then .ok ⟨mode, stack⟩ else .error (.beyond .depth)

def openValue (stack : List Frame) (c : Code) : Except ReadError State :=
  if c.is '"' then .ok ⟨.text (.plain [] none), stack⟩
  else if c.is '[' then openContainer .arrayStart stack
  else if c.is '\x7b' then openContainer .objectStart stack
  else if c.is 'n' then .ok ⟨.word "ull" .null, stack⟩
  else if c.is 't' then .ok ⟨.word "rue" (.bool true), stack⟩
  else if c.is 'f' then .ok ⟨.word "alse" (.bool false), stack⟩
  else if c.is 'N' then .ok ⟨.word "aN" (.float .nan), stack⟩
  else if c.is 'I' then .ok ⟨.word "nfinity" (.float (.infinite false)), stack⟩
  else match Number.start? c with
    | some n => .ok ⟨.number n, stack⟩
    | none => .error .malformed

def between (s : State) (c : Code) : Except ReadError State :=
  if isSpace c then
    .ok s
  else match s.mode with
    | .afterItem items =>
      if c.is ',' then .ok ⟨.value, .item items :: s.stack⟩
      else if c.is ']' then .ok (complete (.array items.reverse) s.stack)
      else .error .malformed
    | .afterMember fields =>
      if c.is ',' then .ok ⟨.key fields, s.stack⟩
      else if c.is '\x7d' then .ok (complete (.object fields) s.stack)
      else .error .malformed
    | _ => .error .malformed

def step (s : State) (c : Code) : Except ReadError State :=
  match s.mode with
  | .value => if isSpace c then .ok s else openValue s.stack c
  | .arrayStart =>
    if isSpace c then .ok s
    else if c.is ']' then .ok (complete (.array []) s.stack)
    else openValue (.item [] :: s.stack) c
  | .objectStart =>
    if isSpace c then .ok s
    else if c.is '\x7d' then .ok (complete (.object []) s.stack)
    else if c.is '"' then .ok ⟨.keyText [] (.plain [] none), s.stack⟩
    else .error .malformed
  | .key fields =>
    if isSpace c then .ok s
    else if c.is '"' then .ok ⟨.keyText fields (.plain [] none), s.stack⟩
    else .error .malformed
  | .keyText fields q => do
    match ← q.step c with
    | .inl q => return ⟨.keyText fields q, s.stack⟩
    | .inr key => return ⟨.colon fields key, s.stack⟩
  | .colon fields key =>
    if isSpace c then .ok s
    else if c.is ':' then .ok ⟨.value, .member fields key :: s.stack⟩
    else .error .malformed
  | .text q => do
    match ← q.step c with
    | .inl q => return ⟨.text q, s.stack⟩
    | .inr t => return complete (.string t) s.stack
  | .number n =>
    match n, n.extend? c with
    | _, some n => .ok ⟨.number n, s.stack⟩
    | .sign, none =>
      if c.is 'I' then .ok ⟨.word "nfinity" (.float (.infinite true)), s.stack⟩
      else .error .malformed
    | n, none => do between (complete (← n.value) s.stack) c
  | .word [] v => between (complete v s.stack) c
  | .word (d :: rest) v =>
    if c ≠ d then .error .malformed
    else if rest.isEmpty then .ok (complete v s.stack)
    else .ok ⟨.word rest v, s.stack⟩
  | .afterItem _ | .afterMember _ | .done _ => between s c

def finish (s : State) : Except ReadError Json :=
  match s.mode, s.stack with
  | .done v, _ => .ok v
  | .number n, [] => n.value
  | .number n, _ :: _ => do
    let _ ← n.value
    .error .malformed
  | _, _ => .error .malformed

end State

def read (t : Text) : Except ReadError Json := do
  (← t.foldlM State.step State.initial).finish

end Json
end TraitCatalog

import TraitCatalog.Json.Reader

namespace TraitCatalog
namespace Json

def spaces : Text :=
  " \t\n\r"

-- Nothing but blanks.
def Blank (t : Text) : Prop :=
  ∀ c ∈ t, c ∈ spaces

instance : Decidable (Blank t) :=
  inferInstanceAs (Decidable (∀ c ∈ t, c ∈ spaces))

def decimals : Text :=
  "0123456789"

def Digits (t : Text) : Prop :=
  t ≠ [] ∧ ∀ c ∈ t, c ∈ decimals

-- The digits of a whole number. A zero in front of others is none of them.
def Whole (t : Text) : Prop :=
  Digits t ∧ (t.head? = some (.char '0') → t = [.char '0'])

def minus (negative : Bool) : Text :=
  if negative then [.char '-'] else []

-- Decimal places behind their point, or nothing at all.
inductive Fraction : Text → (places : Text) → Prop
  | none  : Fraction [] []
  | point : Digits places → Fraction (.char '.' :: places) places

-- Whether a power of ten follows.
def isMark (c : Code) : Bool :=
  c.is 'e' || c.is 'E'

-- The mark of a power of ten, with the sign of the power.
inductive Mark : Text → (below : Bool) → Prop
  | bare  : isMark e = true → Mark [e] false
  | plus  : isMark e = true → Mark [e, .char '+'] false
  | minus : isMark e = true → Mark [e, .char '-'] true

inductive Exponent : Text → (power : Int) → Prop
  | mark : Mark m below → Digits d →
    Exponent (m ++ d) (if below then -(Text.decimalValue d : Int) else Text.decimalValue d)

-- Numbers. Whole ones have a bound on their digits.
inductive Numeral : Text → Json → Prop
  | int : Whole d → d.length ≤ Limit.mostDigits →
    Numeral (minus s ++ d) (.int (if s then -(Text.decimalValue d : Int) else Text.decimalValue d))
  | fraction : Whole d → Digits places →
    Numeral (minus s ++ d ++ .char '.' :: places)
      (.float (Double.ofDecimal s (Text.decimalValue (d ++ places)) (-places.length)))
  | exponent : Whole d → Fraction f places → Exponent e power →
    Numeral (minus s ++ d ++ f ++ e)
      (.float (Double.ofDecimal s (Text.decimalValue (d ++ places)) (power - places.length)))

-- A hexadecimal digit of either case stands for its place among the others.
inductive HexDigit (c : Code) (n : Nat) : Prop
  | lower : ("0123456789abcdef" : Text)[n]? = some c → HexDigit c n
  | upper : ("0123456789ABCDEF" : Text)[n]? = some c → HexDigit c n

-- An escape of four hexadecimal digits and the number that they stand for.
inductive Escape : Text → (n : Nat) → Prop
  | digits : HexDigit a i → HexDigit b j → HexDigit c k → HexDigit d l →
    Escape [.char '\\', .char 'u', a, b, c, d] (16 * (16 * (16 * i + j) + k) + l)

def IsHigh (n : Nat) : Prop :=
  0xD800 ≤ n ∧ n < 0xDC00

def IsLow (n : Nat) : Prop :=
  0xDC00 ≤ n ∧ n < 0xE000

instance : Decidable (IsHigh n) :=
  inferInstanceAs (Decidable (_ ∧ _))

instance : Decidable (IsLow n) :=
  inferInstanceAs (Decidable (_ ∧ _))

-- An escape of a low surrogate stands first in `t`.
def StartsLow (t : Text) : Prop :=
  ∃ u low rest, Escape u low ∧ IsLow low ∧ t = u ++ rest

-- What the letters behind a backslash stand for.
def letters : List (Code × Code) :=
  [('"', '"'), ('\\', '\\'), ('/', '/'), ('b', '\x08'), ('f', '\x0c'), ('n', '\n'), ('r', '\r'), ('t', '\t')]

-- What stands between quotes for a text. The escapes of a high and a low surrogate side by side stand
-- for one character, all other escapes for a code point each.
inductive Quotes : Text → Text → Prop
  | nil    : Quotes [] []
  | plain  : 0x20 ≤ c.toNat → c ≠ .char '"' → c ≠ .char '\\' → Quotes w t → Quotes (c :: w) (c :: t)
  | letter : (c, d) ∈ letters → Quotes w t → Quotes (.char '\\' :: c :: w) (d :: t)
  | number : Escape u n → ¬(IsHigh n ∧ StartsLow w) → Quotes w t → Quotes (u ++ w) (Code.ofNat n :: t)
  | pair   : Escape u high → IsHigh high → Escape v low → IsLow low → Quotes w t →
    Quotes (u ++ v ++ w) (Code.ofNat (0x10000 + (high - 0xD800) * 0x400 + (low - 0xDC00)) :: t)

-- A string with its quotes.
inductive SpellsText : Text → Text → Prop
  | quoted : Quotes w t → SpellsText (.char '"' :: w ++ [.char '"']) t

-- A word that stands for `value`, with the blanks around it.
structure Padded (α : Type) where
  before : Text
  word : Text
  value : α
  after : Text
  blank_before : Blank before
  blank_after : Blank after

def Padded.text (p : Padded α) : Text :=
  p.before ++ p.word ++ p.after

structure Member where
  key : Padded Text
  item : Padded Json

namespace Member

def text (m : Member) : Text :=
  m.key.text ++ .char ':' :: m.item.text

def pair (m : Member) : Text × Json :=
  (m.key.value, m.item.value)

end Member

-- The words for values in the standard.
def standardWords : List (Text × Json) :=
  [("null", .null), ("true", .bool true), ("false", .bool false)]

def allWords : List (Text × Json) :=
  standardWords ++ ([("NaN", .float .nan), ("Infinity", .float (.infinite false)),
    ("-Infinity", .float (.infinite true))] : List (Text × Json))

-- A text spells a value with at most `n` containers inside of each other. A repeated key keeps its first
-- place and its last value.
inductive Spells (words : List (Text × Json)) : (n : Nat) → Text → Json → Prop
  | word   : (w, v) ∈ words → Spells words n w v
  | number : Numeral w v → Spells words n w v
  | string : SpellsText w t → Spells words n w (.string t)
  | emptyArray : Blank b → Spells words (n + 1) (.char '[' :: b ++ [.char ']']) (.array [])
  | array (items : List (Padded Json)) : items ≠ [] → (∀ p ∈ items, Spells words n p.word p.value) →
    Spells words (n + 1) (.char '[' :: Text.join [.char ','] (items.map Padded.text) ++ [.char ']'])
      (.array (items.map Padded.value))
  | emptyObject : Blank b →
    Spells words (n + 1) (.char '\x7b' :: b ++ [.char '\x7d']) (.object [])
  | object (members : List Member) : members ≠ [] → (∀ m ∈ members, SpellsText m.key.word m.key.value) →
    (∀ m ∈ members, Spells words n m.item.word m.item.value) →
    Spells words (n + 1)
      (.char '\x7b' :: Text.join [.char ','] (members.map Member.text) ++ [.char '\x7d'])
      (.object (Keyed.ofPairs (members.map Member.pair)))

-- The beginning of an array up to where the next item goes.
def openArray (front : List (Padded Json)) : Text :=
  .char '[' :: front.flatMap fun p => p.text ++ [.char ',']

-- The beginning of an object up to where the next key goes.
def openObject (front : List Member) : Text :=
  .char '\x7b' :: front.flatMap fun m => m.text ++ [.char ',']

-- A text in which a value is awaited inside of the containers, of which there are not too many.
inductive Awaits : List Frame → Text → Prop
  | start : Awaits [] []
  | item (front : List (Padded Json)) : Awaits st u → Blank b → st.length + (n + 1) = Limit.mostContainers →
    (∀ p ∈ front, Spells allWords n p.word p.value) →
    Awaits (.item (front.map Padded.value).reverse :: st) (u ++ b ++ openArray front)
  | member (front : List Member) (key : Padded Text) : Awaits st u → Blank b →
    st.length + (n + 1) = Limit.mostContainers →
    (∀ m ∈ front, SpellsText m.key.word m.key.value) →
    (∀ m ∈ front, Spells allWords n m.item.word m.item.value) → SpellsText key.word key.value →
    Awaits (.member (Keyed.ofPairs (front.map Member.pair)) key.value :: st)
      (u ++ b ++ openObject front ++ key.text ++ [.char ':'])

-- A whole number ends in front of `rest`: there are no more digits, no decimal places and no power.
structure EndsWhole (rest : Text) : Prop where
  digits : rest = c :: r → c ∉ decimals
  places : rest = .char '.' :: c :: r → c ∉ decimals
  power  : Mark m below → rest = m ++ c :: r → c ∉ decimals

-- A text that goes beyond a limit, whatever follows in it: a whole number has too many digits, or a
-- container stands inside of too many.
inductive Exceeds : Limit → Text → Prop
  | digits : Awaits st u → Blank b → Whole d → Limit.mostDigits < d.length → EndsWhole rest →
    Exceeds .digits (u ++ b ++ (minus s ++ d ++ rest))
  | depth : Awaits st u → Blank b → st.length = Limit.mostContainers →
    (c = .char '[' ∨ c = .char '\x7b') → Exceeds .depth (u ++ b ++ c :: rest)

end Json
end TraitCatalog

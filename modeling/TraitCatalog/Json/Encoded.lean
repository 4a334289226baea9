import TraitCatalog.Json.Reader
import TraitCatalog.Text.Utf8

namespace TraitCatalog
namespace Text

-- The number of some bytes. The first one is the lowest in a little unit, and the highest in another one.
def unitOf (isLittle : Bool) (bytes : Bytes) : Nat :=
  (if isLittle then bytes.reverse else bytes).foldl (fun n b => 256 * n + b.toNat) 0

-- The units of as many bytes each; none if some bytes are left over.
def units? (width : Nat) (isLittle : Bool) (bytes : Bytes) : Option (List Nat) :=
  if bytes.length % width ≠ 0 then none
  else some ((List.range (bytes.length / width)).map fun i =>
    unitOf isLittle ((bytes.drop (width * i)).take width))

-- Two surrogates that belong together are one character; one that stands alone is kept.
def ofShortUnits : List Nat → Text
  | high :: low :: rest =>
    if (0xD800 ≤ high ∧ high < 0xDC00) ∧ 0xDC00 ≤ low ∧ low < 0xE000 then
      Json.Quoted.joinSurrogates high low :: ofShortUnits rest
    else
      Code.ofNat high :: ofShortUnits (low :: rest)
  | [n] => [Code.ofNat n]
  | [] => []

def ofLongUnits? (ns : List Nat) : Option Text :=
  if ns.all (· < 0x110000) then some (ns.map Code.ofNat) else none

-- UTF-8 in which surrogates may stand alone, in three bytes.
def ofLooseUtf8? (bytes : Bytes) : Option Text :=
  go [] bytes
where
  go (front : Bytes) : Bytes → Option Text
    | [] => ofUtf8? front.reverse
    | a :: b :: c :: rest =>
      if a = 0xED ∧ (0xA0 ≤ b ∧ b < 0xC0) ∧ 0x80 ≤ c ∧ c < 0xC0 then do
        let surrogate := Code.ofNat (0xD000 + (b.toNat - 0x80) * 0x40 + (c.toNat - 0x80))
        return (← ofUtf8? front.reverse) ++ surrogate :: (← go [] rest)
      else
        go (a :: front) (b :: c :: rest)
    | a :: rest => go (a :: front) rest

end Text

namespace Json

-- How many bytes the units of a text have.
inductive Encoding
  | single
  | double (isLittle : Bool)
  | fourfold (isLittle : Bool)

def Encoding.read? (e : Encoding) (bytes : Bytes) : Option Text :=
  match e with
  | single => Text.ofLooseUtf8? bytes
  | double isLittle => (Text.units? 2 isLittle bytes).map Text.ofShortUnits
  | fourfold isLittle => (Text.units? 4 isLittle bytes).bind Text.ofLongUnits?

-- JSON text begins with two ASCII characters, so that its zeros tell its encoding.
def encodingByZeros : Bytes → Encoding
  | 0 :: b :: _ :: _ :: _ => if b = 0 then .fourfold false else .double false
  | _ :: 0 :: c :: d :: _ => if c = 0 ∧ d = 0 then .fourfold true else .double true
  | [0, _] => .double false
  | [_, 0] => .double true
  | _ => .single

-- The encoding of JSON text, and its bytes without the mark that some begin with.
def encodingOf : Bytes → Encoding × Bytes
  | 0x00 :: 0x00 :: 0xFE :: 0xFF :: rest => (.fourfold false, rest)
  | 0xFF :: 0xFE :: 0x00 :: 0x00 :: rest => (.fourfold true, rest)
  | 0xFE :: 0xFF :: rest => (.double false, rest)
  | 0xFF :: 0xFE :: rest => (.double true, rest)
  | 0xEF :: 0xBB :: 0xBF :: rest => (.single, rest)
  | bytes => (encodingByZeros bytes, bytes)

def ofBytes? (bytes : Bytes) : Option Json := do
  let (encoding, bytes) := encodingOf bytes
  (read (← encoding.read? bytes)).toOption

end Json
end TraitCatalog

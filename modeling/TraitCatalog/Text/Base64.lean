import TraitCatalog.Text.Utf8

namespace TraitCatalog
namespace Base64

-- The six bits that a letter stands for.
def bits? (b : UInt8) : Option Nat :=
  let n := b.toNat
  if 0x41 ≤ n ∧ n ≤ 0x5A then some (n - 0x41)
  else if 0x61 ≤ n ∧ n ≤ 0x7A then some (n - 0x61 + 26)
  else if 0x30 ≤ n ∧ n ≤ 0x39 then some (n - 0x30 + 52)
  else if n = 0x2B then some 62
  else if n = 0x2F then some 63
  else none

-- The bytes that letters stand for, four letters for three of them. `count` letters of the four have been read, with
-- bits `left` that make no byte yet, and `pads` signs `=` behind them. Other signs count for nothing.
def readFrom? (count left pads : Nat) : Bytes → Option Bytes
  | [] => if count = 0 then some [] else none
  | b :: rest =>
    if b = 0x3D then
      if count < 2 then readFrom? count left pads rest
      else if 4 ≤ count + (pads + 1) then some []
      else readFrom? count left (pads + 1) rest
    else
      match bits? b, count with
      | none, count => readFrom? count left pads rest
      | some n, 0 => readFrom? 1 n 0 rest
      | some n, count => do
        let all := 64 * left + n
        let unit := 4 ^ (3 - count)
        return UInt8.ofNat (all / unit) :: (← readFrom? ((count + 1) % 4) (all % unit) 0 rest)

def read? (bytes : Bytes) : Option Bytes :=
  readFrom? 0 0 0 bytes

end Base64
end TraitCatalog

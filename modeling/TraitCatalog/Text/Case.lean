import TraitCatalog.Text.Basic

namespace TraitCatalog
namespace Code

-- The pairs of a run: from the first number to the last one by steps, and how far the other letter
-- is behind each. The pairs and groups are those of Unicode 14.
structure CaseRun where
  first : Nat
  last : Nat
  distance : Nat
  step : Nat
  deriving DecidableEq, Repr

def caseRuns : List CaseRun :=
    [⟨0x41, 0x48, 32, 1⟩, ⟨0x4A, 0x4C, 32, 2⟩, ⟨0x4D, 0x52, 32, 1⟩, ⟨0x54, 0x5A, 32, 1⟩,
     ⟨0xC0, 0xC4, 32, 1⟩, ⟨0xC6, 0xD6, 32, 1⟩, ⟨0xD8, 0xDE, 32, 1⟩, ⟨0xDF, 0xDF, 7615, 1⟩,
     ⟨0xFF, 0xFF, 121, 1⟩, ⟨0x100, 0x12E, 1, 2⟩, ⟨0x132, 0x136, 1, 2⟩, ⟨0x139, 0x147, 1, 2⟩,
     ⟨0x14A, 0x176, 1, 2⟩, ⟨0x179, 0x17D, 1, 2⟩, ⟨0x180, 0x180, 195, 1⟩, ⟨0x181, 0x181, 210, 1⟩,
     ⟨0x182, 0x184, 1, 2⟩, ⟨0x186, 0x186, 206, 1⟩, ⟨0x187, 0x187, 1, 1⟩, ⟨0x189, 0x18A, 205, 1⟩,
     ⟨0x18B, 0x18B, 1, 1⟩, ⟨0x18E, 0x18E, 79, 1⟩, ⟨0x18F, 0x18F, 202, 1⟩, ⟨0x190, 0x190, 203, 1⟩,
     ⟨0x191, 0x191, 1, 1⟩, ⟨0x193, 0x193, 205, 1⟩, ⟨0x194, 0x194, 207, 1⟩, ⟨0x195, 0x195, 97, 1⟩,
     ⟨0x196, 0x196, 211, 1⟩, ⟨0x197, 0x197, 209, 1⟩, ⟨0x198, 0x198, 1, 1⟩,
     ⟨0x19A, 0x19A, 163, 1⟩, ⟨0x19C, 0x19C, 211, 1⟩, ⟨0x19D, 0x19D, 213, 1⟩,
     ⟨0x19E, 0x19E, 130, 1⟩, ⟨0x19F, 0x19F, 214, 1⟩, ⟨0x1A0, 0x1A4, 1, 2⟩,
     ⟨0x1A6, 0x1A6, 218, 1⟩, ⟨0x1A7, 0x1A7, 1, 1⟩, ⟨0x1A9, 0x1A9, 218, 1⟩, ⟨0x1AC, 0x1AC, 1, 1⟩,
     ⟨0x1AE, 0x1AE, 218, 1⟩, ⟨0x1AF, 0x1AF, 1, 1⟩, ⟨0x1B1, 0x1B2, 217, 1⟩, ⟨0x1B3, 0x1B5, 1, 2⟩,
     ⟨0x1B7, 0x1B7, 219, 1⟩, ⟨0x1B8, 0x1B8, 1, 1⟩, ⟨0x1BC, 0x1BC, 1, 1⟩, ⟨0x1BF, 0x1BF, 56, 1⟩,
     ⟨0x1CD, 0x1DB, 1, 2⟩, ⟨0x1DE, 0x1EE, 1, 2⟩, ⟨0x1F4, 0x1F4, 1, 1⟩, ⟨0x1F8, 0x21E, 1, 2⟩,
     ⟨0x222, 0x232, 1, 2⟩, ⟨0x23A, 0x23A, 10795, 1⟩, ⟨0x23B, 0x23B, 1, 1⟩,
     ⟨0x23E, 0x23E, 10792, 1⟩, ⟨0x23F, 0x240, 10815, 1⟩, ⟨0x241, 0x241, 1, 1⟩,
     ⟨0x244, 0x244, 69, 1⟩, ⟨0x245, 0x245, 71, 1⟩, ⟨0x246, 0x24E, 1, 2⟩,
     ⟨0x250, 0x250, 10783, 1⟩, ⟨0x251, 0x251, 10780, 1⟩, ⟨0x252, 0x252, 10782, 1⟩,
     ⟨0x25C, 0x25C, 42319, 1⟩, ⟨0x261, 0x261, 42315, 1⟩, ⟨0x265, 0x265, 42280, 1⟩,
     ⟨0x266, 0x266, 42308, 1⟩, ⟨0x26A, 0x26A, 42308, 1⟩, ⟨0x26B, 0x26B, 10743, 1⟩,
     ⟨0x26C, 0x26C, 42305, 1⟩, ⟨0x271, 0x271, 10749, 1⟩, ⟨0x27D, 0x27D, 10727, 1⟩,
     ⟨0x282, 0x282, 42307, 1⟩, ⟨0x287, 0x287, 42282, 1⟩, ⟨0x29D, 0x29D, 42261, 1⟩,
     ⟨0x29E, 0x29E, 42258, 1⟩, ⟨0x370, 0x372, 1, 2⟩, ⟨0x376, 0x376, 1, 1⟩,
     ⟨0x37B, 0x37D, 130, 1⟩, ⟨0x37F, 0x37F, 116, 1⟩, ⟨0x386, 0x386, 38, 1⟩,
     ⟨0x388, 0x38A, 37, 1⟩, ⟨0x38C, 0x38C, 64, 1⟩, ⟨0x38E, 0x38F, 63, 1⟩,
     ⟨0x390, 0x390, 7235, 1⟩, ⟨0x391, 0x393, 32, 2⟩, ⟨0x394, 0x396, 32, 2⟩,
     ⟨0x397, 0x397, 32, 1⟩, ⟨0x39B, 0x39D, 32, 2⟩, ⟨0x39E, 0x39F, 32, 1⟩, ⟨0x3A4, 0x3A5, 32, 1⟩,
     ⟨0x3A7, 0x3A8, 32, 1⟩, ⟨0x3AA, 0x3AB, 32, 1⟩, ⟨0x3B0, 0x3B0, 7219, 1⟩, ⟨0x3CF, 0x3CF, 8, 1⟩,
     ⟨0x3D8, 0x3EE, 1, 2⟩, ⟨0x3F2, 0x3F2, 7, 1⟩, ⟨0x3F7, 0x3F7, 1, 1⟩, ⟨0x3FA, 0x3FA, 1, 1⟩,
     ⟨0x400, 0x40F, 80, 1⟩, ⟨0x410, 0x411, 32, 1⟩, ⟨0x413, 0x415, 32, 2⟩, ⟨0x416, 0x41D, 32, 1⟩,
     ⟨0x41F, 0x420, 32, 1⟩, ⟨0x423, 0x429, 32, 1⟩, ⟨0x42B, 0x42F, 32, 1⟩, ⟨0x460, 0x460, 1, 1⟩,
     ⟨0x464, 0x480, 1, 2⟩, ⟨0x48A, 0x4BE, 1, 2⟩, ⟨0x4C0, 0x4C0, 15, 1⟩, ⟨0x4C1, 0x4CD, 1, 2⟩,
     ⟨0x4D0, 0x52E, 1, 2⟩, ⟨0x531, 0x556, 48, 1⟩, ⟨0x10A0, 0x10C5, 7264, 1⟩,
     ⟨0x10C7, 0x10C7, 7264, 1⟩, ⟨0x10CD, 0x10CD, 7264, 1⟩, ⟨0x10D0, 0x10FA, 3008, 1⟩,
     ⟨0x10FD, 0x10FF, 3008, 1⟩, ⟨0x13A0, 0x13EF, 38864, 1⟩, ⟨0x13F0, 0x13F5, 8, 1⟩,
     ⟨0x1D79, 0x1D79, 35332, 1⟩, ⟨0x1D7D, 0x1D7D, 3814, 1⟩, ⟨0x1D8E, 0x1D8E, 35384, 1⟩,
     ⟨0x1E00, 0x1E5E, 1, 2⟩, ⟨0x1E62, 0x1E94, 1, 2⟩, ⟨0x1EA0, 0x1EFE, 1, 2⟩,
     ⟨0x1F00, 0x1F07, 8, 1⟩, ⟨0x1F10, 0x1F15, 8, 1⟩, ⟨0x1F20, 0x1F27, 8, 1⟩,
     ⟨0x1F30, 0x1F37, 8, 1⟩, ⟨0x1F40, 0x1F45, 8, 1⟩, ⟨0x1F51, 0x1F57, 8, 2⟩,
     ⟨0x1F60, 0x1F67, 8, 1⟩, ⟨0x1F70, 0x1F71, 74, 1⟩, ⟨0x1F72, 0x1F75, 86, 1⟩,
     ⟨0x1F76, 0x1F77, 100, 1⟩, ⟨0x1F78, 0x1F79, 128, 1⟩, ⟨0x1F7A, 0x1F7B, 112, 1⟩,
     ⟨0x1F7C, 0x1F7D, 126, 1⟩, ⟨0x1F80, 0x1F87, 8, 1⟩, ⟨0x1F90, 0x1F97, 8, 1⟩,
     ⟨0x1FA0, 0x1FA7, 8, 1⟩, ⟨0x1FB0, 0x1FB1, 8, 1⟩, ⟨0x1FB3, 0x1FB3, 9, 1⟩,
     ⟨0x1FC3, 0x1FC3, 9, 1⟩, ⟨0x1FD0, 0x1FD1, 8, 1⟩, ⟨0x1FE0, 0x1FE1, 8, 1⟩,
     ⟨0x1FE5, 0x1FE5, 7, 1⟩, ⟨0x1FF3, 0x1FF3, 9, 1⟩, ⟨0x2132, 0x2132, 28, 1⟩,
     ⟨0x2160, 0x216F, 16, 1⟩, ⟨0x2183, 0x2183, 1, 1⟩, ⟨0x24B6, 0x24CF, 26, 1⟩,
     ⟨0x2C00, 0x2C2F, 48, 1⟩, ⟨0x2C60, 0x2C60, 1, 1⟩, ⟨0x2C67, 0x2C6B, 1, 2⟩,
     ⟨0x2C72, 0x2C72, 1, 1⟩, ⟨0x2C75, 0x2C75, 1, 1⟩, ⟨0x2C80, 0x2CE2, 1, 2⟩,
     ⟨0x2CEB, 0x2CED, 1, 2⟩, ⟨0x2CF2, 0x2CF2, 1, 1⟩, ⟨0xA640, 0xA648, 1, 2⟩,
     ⟨0xA64C, 0xA66C, 1, 2⟩, ⟨0xA680, 0xA69A, 1, 2⟩, ⟨0xA722, 0xA72E, 1, 2⟩,
     ⟨0xA732, 0xA76E, 1, 2⟩, ⟨0xA779, 0xA77B, 1, 2⟩, ⟨0xA77E, 0xA786, 1, 2⟩,
     ⟨0xA78B, 0xA78B, 1, 1⟩, ⟨0xA790, 0xA792, 1, 2⟩, ⟨0xA794, 0xA794, 48, 1⟩,
     ⟨0xA796, 0xA7A8, 1, 2⟩, ⟨0xA7B3, 0xA7B3, 928, 1⟩, ⟨0xA7B4, 0xA7C2, 1, 2⟩,
     ⟨0xA7C7, 0xA7C9, 1, 2⟩, ⟨0xA7D0, 0xA7D0, 1, 1⟩, ⟨0xA7D6, 0xA7D8, 1, 2⟩,
     ⟨0xA7F5, 0xA7F5, 1, 1⟩, ⟨0xFB05, 0xFB05, 1, 1⟩, ⟨0xFF21, 0xFF3A, 32, 1⟩,
     ⟨0x10400, 0x10427, 40, 1⟩, ⟨0x104B0, 0x104D3, 40, 1⟩, ⟨0x10570, 0x1057A, 39, 1⟩,
     ⟨0x1057C, 0x1058A, 39, 1⟩, ⟨0x1058C, 0x10592, 39, 1⟩, ⟨0x10594, 0x10595, 39, 1⟩,
     ⟨0x10C80, 0x10CB2, 64, 1⟩, ⟨0x118A0, 0x118BF, 32, 1⟩, ⟨0x16E40, 0x16E5F, 32, 1⟩,
     ⟨0x1E900, 0x1E921, 34, 1⟩]

def caseGroups : List (List Nat) :=
    [[0x49, 0x69, 0x130, 0x131], [0x4B, 0x6B, 0x212A], [0x53, 0x73, 0x17F], [0xB5, 0x39C, 0x3BC],
     [0xC5, 0xE5, 0x212B], [0x1C4, 0x1C5, 0x1C6], [0x1C7, 0x1C8, 0x1C9], [0x1CA, 0x1CB, 0x1CC],
     [0x1F1, 0x1F2, 0x1F3], [0x345, 0x399, 0x3B9, 0x1FBE], [0x392, 0x3B2, 0x3D0],
     [0x395, 0x3B5, 0x3F5], [0x398, 0x3B8, 0x3D1, 0x3F4], [0x39A, 0x3BA, 0x3F0],
     [0x3A0, 0x3C0, 0x3D6], [0x3A1, 0x3C1, 0x3F1], [0x3A3, 0x3C2, 0x3C3], [0x3A6, 0x3C6, 0x3D5],
     [0x3A9, 0x3C9, 0x2126], [0x412, 0x432, 0x1C80], [0x414, 0x434, 0x1C81],
     [0x41E, 0x43E, 0x1C82], [0x421, 0x441, 0x1C83], [0x422, 0x442, 0x1C84, 0x1C85],
     [0x42A, 0x44A, 0x1C86], [0x462, 0x463, 0x1C87], [0x1C88, 0xA64A, 0xA64B],
     [0x1E60, 0x1E61, 0x1E9B]]

namespace CaseRun

def holds (r : CaseRun) (n : Nat) : Bool :=
  r.first ≤ n && n ≤ r.last && (n - r.first) % r.step = 0

-- The other letter of the pair of `n` in the run.
def other? (r : CaseRun) (n : Nat) : Option Nat :=
  if r.holds n then some (n + r.distance)
  else if r.distance ≤ n && r.holds (n - r.distance) then some (n - r.distance)
  else none

end CaseRun

-- Whether `n` is the first letter of a pair, which is the capital one in all scripts beyond the basic plane.
def isCapital (n : Nat) : Bool :=
  caseRuns.any (·.holds n)

-- The numbers of all code points that differ from one only in case, itself among them.
def caseVariants (n : Nat) : List Nat :=
  match caseGroups.find? (·.contains n) with
  | some group => group
  | none =>
    match caseRuns.findSome? (·.other? n) with
    | some m => [n, m]
    | none => [n]

end Code
end TraitCatalog

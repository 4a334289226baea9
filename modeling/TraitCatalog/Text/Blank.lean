import TraitCatalog.Text.Basic

namespace TraitCatalog
namespace Code

-- The white space of Unicode and the four ASCII separators `1C` to `1F`.
def isBlank (c : Code) : Bool :=
  blankRanges.any fun (first, last) => first ≤ c.toNat && c.toNat ≤ last
where
  blankRanges : List (Nat × Nat) :=
    [(0x09, 0x0D), (0x1C, 0x20), (0x85, 0x85), (0xA0, 0xA0), (0x1680, 0x1680), (0x2000, 0x200A),
     (0x2028, 0x2029), (0x202F, 0x202F), (0x205F, 0x205F), (0x3000, 0x3000)]

end Code

namespace Text

def isBlank (t : Text) : Bool :=
  t.all Code.isBlank

end Text
end TraitCatalog

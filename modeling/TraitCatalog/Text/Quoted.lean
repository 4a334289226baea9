import TraitCatalog.Text.Printable

namespace TraitCatalog
namespace Text

-- The quote that surrounds `t`.
def quoteFor (t : Text) : Code :=
  if t.contains (Code.char '\x27') && !t.contains (Code.char '"') then '"' else '\x27'

-- A code point between the quotes `q`.
def showCode (q c : Code) : Text :=
  if c = q || c.is '\\' then ['\\', c]
  else if c.is '\n' then "\\n"
  else if c.is '\r' then "\\r"
  else if c.is '\t' then "\\t"
  else if c.isPrintable then [c]
  else if c.toNat < 0x100 then "\\x" ++ hex 2 c.toNat
  else if c.toNat < 0x10000 then "\\u" ++ hex 4 c.toNat
  else "\\U" ++ hex 8 c.toNat

def quoted (t : Text) : Text :=
  let q := t.quoteFor
  q :: t.flatMap (showCode q) ++ [q]

end Text
end TraitCatalog

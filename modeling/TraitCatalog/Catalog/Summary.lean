import TraitCatalog.Catalog.Basic
import TraitCatalog.Digest.Sha256

namespace TraitCatalog

-- Text with a lone surrogate was to be written as bytes.
inductive EncodeError
  | loneSurrogate
  deriving DecidableEq, Repr

def EncodeError.message : EncodeError → Text
  | loneSurrogate => "text without a UTF-8 form"

namespace Checksum

-- The name and the compact text of the value, each with a zero byte behind it.
def fieldBytes? (key : Text) (value : Json) : Option Bytes := do
  let key ← key.utf8?
  let value ← value.compact.utf8?
  return key ++ 0 :: value ++ [0]

def stream? (fields : Keyed Json) : Option Bytes :=
  (fields.mapM fun (key, value) => fieldBytes? key value).map List.flatten

def ofFields (fields : Keyed Json) : Except EncodeError Text :=
  match stream? fields with
  | some bytes => .ok (Sha256.digest bytes)
  | none => .error .loneSurrogate

end Checksum

namespace Catalog

def checksum (c : Catalog) : Except EncodeError Text :=
  Checksum.ofFields c.toFields

-- One line on the size of a catalog and its checksum.
def summary (c : Catalog) : Except EncodeError Text :=
  return Text.ofNat c.count ++ " implementors, " ++ Text.ofNat c.entries.length ++
    " libraries, checksum " ++ (← c.checksum)

end Catalog
end TraitCatalog

import TraitCatalog.Files.Tree
import TraitCatalog.Json.Encoded
import TraitCatalog.Schema.Reference
import TraitCatalog.Text.Base64
import TraitCatalog.Text.Blank

namespace TraitCatalog
namespace Address

-- An address may stand between angle brackets, behind the letters `URL:`.
def unwrapped (t : Text) : Text :=
  let t := t.strip Code.isBlank
  let t := match t with
    | '<' :: rest => ((Text.before? ">" rest).getD t).strip Code.isBlank
    | _ => t
  ((Text.after? "URL:" t).map (·.strip Code.isBlank)).getD t

-- What an address of the given kind says behind the name of its kind.
def ofKind? (kind address : Text) : Option Text :=
  let (scheme, rest) := cut ':' (unwrapped address)
  if scheme.lower = kind ∧ scheme.length < (unwrapped address).length then some rest else none

-- The hosts that stand for the machine itself.
def ownHosts : List Text :=
  ["", "localhost", "127.0.0.1"]

-- The path of the file that an address stands for. Without a host it can be a path from the working directory.
def file? (address : Text) : Option Text := do
  let rest ← ofKind? "file" address
  let (host, path) := hostOf rest
  let path : Text :=
    if (Text.after? "//" rest).isSome ∧ path.head?.any (!·.is '/') then '/' :: path else path
  if ownHosts.contains (Schema.unquote host) then
    some (Schema.unquote path)
  else
    none

-- Bytes of which some are written with a percent sign and two hexadecimal digits.
def unquotedBytes? : Text → Option Bytes
  | [] => some []
  | '%' :: a :: b :: rest =>
    match a.hexDigit?, b.hexDigit? with
    | some m, some n => return UInt8.ofNat (16 * m + n) :: (← unquotedBytes? rest)
    | _, _ => return 0x25 :: (← unquotedBytes? (a :: b :: rest))
  | c :: rest => return (← c.utf8?) ++ (← unquotedBytes? rest)

-- The bytes that an address holds itself.
def data? (address : Text) : Option Bytes := do
  let rest ← ofKind? "data" address
  let (kind, content) := cut ',' rest
  if kind.length = rest.length then
    none
  let bytes ← unquotedBytes? content
  if (Text.before? ";base64" kind).isSome then Base64.read? bytes else some bytes

end Address

namespace FileTree

-- Whether a path can lead to a directory alone, by a slash at its end.
def endsOpen (path : Text) : Bool :=
  match path.reverse with
  | '/' :: _ | '.' :: '/' :: _ => true
  | _ => false

def bytesAt? (tree : FileTree) (path : Text) : Option Bytes :=
  if endsOpen path then none else (tree.read (.ofText path)).toOption

-- What is fetched comes from the files, or out of the address. There is no network.
def outside (tree : FileTree) : Outside := fun address =>
  match Address.file? address with
  | some path => (tree.bytesAt? path).bind Json.ofBytes?
  | none => (Address.data? address).bind Json.ofBytes?

end FileTree
end TraitCatalog

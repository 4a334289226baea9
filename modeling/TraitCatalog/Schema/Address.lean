import TraitCatalog.Text.Basic

namespace TraitCatalog

-- A scheme, a host, a path with parameters, a query and a fragment. An address that leaves out its first parts is
-- completed from another one.
structure Address where
  scheme : Text
  host : Text
  path : Text
  parameters : Text
  query : Text
  fragment : Text
  deriving DecidableEq, Repr

namespace Address

def isLetter (c : Code) : Bool :=
  (0x41 ≤ c.toNat && c.toNat ≤ 0x5A) || (0x61 ≤ c.toNat && c.toNat ≤ 0x7A)

def isSchemeSign (c : Code) : Bool :=
  isLetter c || c.isDigit || c.is '+' || c.is '-' || c.is '.'

-- The text in front of the first `d` and the text behind it; all of it and nothing if there is none.
def cut (d : Char) (t : Text) : Text × Text :=
  let first := t.takeWhile fun c => !c.is d
  (first, t.drop (first.length + 1))

def schemeOf (t : Text) : Text × Text :=
  let (scheme, rest) := cut ':' t
  if scheme.length < t.length ∧ scheme.head?.any isLetter ∧ scheme.all isSchemeSign then
    (scheme.lower, rest)
  else
    ([], t)

def hostOf (t : Text) : Text × Text :=
  match t with
  | '/' :: '/' :: rest => rest.span fun c => !(c.is '/' || c.is '?' || c.is '#')
  | _ => ([], t)

-- Blanks and controls in front, and tabs and line ends anywhere, are no part of an address.
def trimmed (t : Text) : Text :=
  (t.dropWhile fun c => c.toNat ≤ 0x20).filter fun c =>
    !(c.toNat = 0x09 || c.toNat = 0x0A || c.toNat = 0x0D)

def hostSchemes : List Text :=
  ["", "ftp", "http", "gopher", "nntp", "telnet", "imap", "wais", "file", "mms", "https", "shttp",
   "snews", "prospero", "rtsp", "rtsps", "rtspu", "rsync", "svn", "svn+ssh", "sftp", "nfs", "git",
   "git+ssh", "ws", "wss"]

-- The schemes whose addresses can be completed.
def relativeSchemes : List Text :=
  ["", "ftp", "http", "gopher", "nntp", "imap", "wais", "file", "https", "shttp", "mms", "prospero",
   "rtsp", "rtsps", "rtspu", "sftp", "svn", "svn+ssh", "ws", "wss"]

-- The schemes whose addresses can have parameters.
def parameterSchemes : List Text :=
  ["", "ftp", "hdl", "prospero", "http", "imap", "https", "shttp", "rtsp", "rtsps", "rtspu", "sip",
   "sips", "mms", "sftp", "tel"]

-- The parameters stand behind the first semicolon in the last step of a path.
def parametersOf (scheme path : Text) : Text × Text :=
  if !parameterSchemes.contains scheme then (path, [])
  else
    let last := (path.reverse.takeWhile fun c => !c.is '/').reverse
    let (step, parameters) := cut ';' last
    (path.take (path.length - last.length) ++ step, parameters)

-- Whether `t` is the number of a host in four bytes.
def isShortNumber (t : Text) : Bool :=
  let parts := t.splitOn (Code.char '.')
  parts.length = 4 && parts.all isByte
where
  isByte (part : Text) : Bool :=
    !part.isEmpty && part.all Code.isDigit && part.length ≤ 3 && part.decimalValue ≤ 255
      && (part.length = 1 || !part.head?.any (·.is '0'))

def isHexGroup (t : Text) : Bool :=
  !t.isEmpty && t.length ≤ 4 && t.all fun c => c.hexDigit?.isSome

-- Whether `t` is the number of a host in groups of hexadecimal digits, eight of them, or fewer if two
-- colons stand for those that are left out. The last two groups may be four bytes instead.
def isLongNumber (t : Text) : Bool :=
  let parts := t.splitOn (Code.char ':')
  let bytes : Text := parts.getLastD []
  let words : List Text := ["0", "0"]
  let parts := if bytes.any (·.is '.') then parts.dropLast ++ words else parts
  let inner := (parts.drop 1).dropLast
  let groups := parts.filter fun part => !part.isEmpty
  let mayBeEmpty (end? next? : Option Text) : Bool :=
    !end?.any (·.isEmpty) || next?.any (·.isEmpty)
  3 ≤ (t.splitOn (Code.char ':')).length
    && (!bytes.any (·.is '.') || isShortNumber bytes)
    && groups.all isHexGroup
    && mayBeEmpty parts.head? inner.head? && mayBeEmpty parts.getLast? inner.getLast?
    && match inner.countP fun part => part.isEmpty with
      | 0 => groups.length = 8
      | 1 => groups.length < 8
      | _ => false

def isLater (t : Text) : Bool :=
  let (version, rest) := cut '.' (t.drop 1)
  !version.isEmpty && version.all (fun c => c.hexDigit?.isSome) && !rest.isEmpty

-- What may stand in brackets as a host: the number of one, with or without a zone, or something of a
-- later version.
def isInBrackets (t : Text) : Bool :=
  if t.head?.any (·.is 'v') then isLater t
  else
    let (number, zone) := cut '%' t
    isLongNumber number && (number = t || (!zone.isEmpty && !zone.any (·.is '%')))

-- Brackets come in pairs, with a host in them.
def isHost (t : Text) : Bool :=
  let left := t.any (·.is '[')
  let right := t.any (·.is ']')
  left == right && (!left || isInBrackets (cut ']' (cut '[' t).2).1)

-- The parts of an address, which has the given scheme unless it has one of its own; none if it has
-- something else in the place of a host.
def read? (inherited t : Text) : Option Address :=
  let (scheme, rest) := schemeOf (trimmed t)
  let scheme := if scheme.isEmpty then inherited else scheme
  let (host, rest) := hostOf rest
  let (rest, fragment) := cut '#' rest
  let (path, query) := cut '?' rest
  let (path, parameters) := parametersOf scheme path
  if isHost host then some { scheme, host, path, parameters, query, fragment } else none

def text (a : Address) : Text :=
  let path : Text := if a.parameters.isEmpty then a.path else a.path ++ ";" ++ a.parameters
  let hasHost := !a.host.isEmpty || (!a.scheme.isEmpty && hostSchemes.contains a.scheme)
    || (Text.after? "//" path).isSome
  let path : Text :=
    if !hasHost then path
    else if path.isEmpty ∨ path.head?.any (·.is '/') then "//" ++ a.host ++ path
    else "//" ++ a.host ++ "/" ++ path
  let scheme : Text := if a.scheme.isEmpty then [] else a.scheme ++ ":"
  let query : Text := if a.query.isEmpty then [] else "?" ++ a.query
  let fragment : Text := if a.fragment.isEmpty then [] else "#" ++ a.fragment
  scheme ++ path ++ query ++ fragment

-- Follows the steps of a path: one dot stays, two dots go back.
def walk (steps : List Text) : List Text :=
  steps.foldl follow []
where
  follow (done : List Text) (step : Text) : List Text :=
    if step = ".." then done.dropLast else if step = "." then done else done ++ [step]

-- No empty steps, apart from the first and the last one.
def dense (steps : List Text) : List Text :=
  match steps with
  | [] => []
  | first :: rest => first :: (rest.dropLast.filter fun step => !step.isEmpty) ++ rest.getLast?.toList

def isDots (step : Text) : Bool :=
  step = "." || step = ".."

def joinPath (base path : Text) : Text :=
  let steps := path.splitOn (Code.char '/')
  let steps :=
    if path.head?.any (·.is '/') then steps
    else
      let front := base.splitOn (Code.char '/')
      dense ((if front.getLast?.any (!·.isEmpty) then front.dropLast else front) ++ steps)
  let done := walk steps
  let done := if steps.getLast?.any isDots then done ++ [[]] else done
  let joined := Text.join "/" done
  if joined.isEmpty then "/" else joined

-- The address `t`, with the parts that it leaves out taken from `base`.
def join? (base t : Text) : Option Text := do
  if base.isEmpty then return t
  if t.isEmpty then return base
  let b ← read? [] base
  let a ← read? b.scheme t
  if a.scheme ≠ b.scheme ∨ !relativeSchemes.contains a.scheme then return t
  if hostSchemes.contains a.scheme ∧ !a.host.isEmpty then return a.text
  let a := if hostSchemes.contains a.scheme then { a with host := b.host } else a
  if a.path.isEmpty && a.parameters.isEmpty then
    let query := if a.query.isEmpty then b.query else a.query
    return { a with path := b.path, parameters := b.parameters, query }.text
  return { a with path := joinPath b.path a.path }.text

-- An address without its fragment, and the fragment.
def withoutFragment? (t : Text) : Option (Text × Text) := do
  if !t.contains (Code.char '#') then return (t, [])
  let a ← read? [] t
  return ({ a with fragment := [] }.text, a.fragment)

end Address
end TraitCatalog

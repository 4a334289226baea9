import TraitCatalog.Text.Basic

namespace TraitCatalog

-- Where a path starts: at the working directory, at the root, or at the root that is written with
-- exactly two slashes.
inductive Anchor
  | here
  | root
  | doubleRoot
  deriving DecidableEq, Repr

def Anchor.text : Anchor → Text
  | here => ""
  | root => "/"
  | doubleRoot => "//"

-- Repeated slashes, a slash at the end and the name `.` do not matter, while `..` is kept because only the files
-- can tell where it leads.
structure Path where
  anchor : Anchor
  names : List Text
  deriving DecidableEq, Repr

namespace Path

def here : Path :=
  ⟨.here, []⟩

-- The names between the slashes of a text.
def namesOf (t : Text) : List Text :=
  (t.splitOn (Code.char '/')).filter fun name => !name.isEmpty && name != [Code.char '.']

def anchorOf : Text → Anchor
  | '/' :: '/' :: '/' :: _ => .root
  | '/' :: '/' :: _ => .doubleRoot
  | '/' :: _ => .root
  | _ => .here

def ofText (t : Text) : Path :=
  ⟨anchorOf t, namesOf t⟩

def text (p : Path) : Text :=
  match p.anchor, p.names with
  | .here, [] => "."
  | anchor, names => anchor.text ++ Text.join "/" names

def isAbsolute (p : Path) : Bool :=
  p.anchor ≠ .here

-- The path `q` as seen from `p`.
def join (p q : Path) : Path :=
  if q.isAbsolute then q else ⟨p.anchor, p.names ++ q.names⟩

def child (p : Path) (t : Text) : Path :=
  p.join (ofText t)

def parent (p : Path) : Path :=
  ⟨p.anchor, p.names.dropLast⟩

-- The last name of the path, empty if there is none.
def name (p : Path) : Text :=
  p.names.getLast?.getD []

-- A name cut in front of its last dot, unless the dot stands first or last.
def splitName (name : Text) : Text × Text :=
  let extension := (name.reverse.takeWhile fun c => !c.is '.').reverse
  let stem := name.take (name.length - extension.length - 1)
  if stem.isEmpty || extension.isEmpty then (name, [])
  else (stem, Code.char '.' :: extension)

def suffix (p : Path) : Text :=
  (splitName p.name).snd

def withSuffix (p : Path) (suffix : Text) : Path :=
  ⟨p.anchor, p.names.dropLast ++ [(splitName p.name).fst ++ suffix]⟩

end Path
end TraitCatalog

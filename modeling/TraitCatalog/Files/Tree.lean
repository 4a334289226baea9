import TraitCatalog.Files.Path
import TraitCatalog.Keyed
import TraitCatalog.Text.Utf8

namespace TraitCatalog

-- Where a path leads: to names below the working directory, below a directory that many levels
-- above it, or below the root.
inductive Base
  | above (levels : Nat)
  | root
  deriving DecidableEq, Repr

structure Place where
  base : Base
  names : List Text
  deriving DecidableEq, Repr

inductive Node
  | file (content : Bytes)
  | directory
  deriving DecidableEq, Repr

-- Why a file could not be read or written.
inductive FileFault
  | missing
  | isDirectory
  -- Something stands already where a directory is to be made.
  | occupied
  -- A file stands among the directories of the path.
  | notDirectory
  -- The path, or a name in it, has too many bytes.
  | tooLong
  -- Too many directories of the path are missing.
  | tooDeep
  -- The path has a character that no path can have.
  | zeroCharacter
  -- The path has no form in bytes.
  | unnameable
  -- The content is not UTF-8.
  | undecodable
  -- The text to be written has a lone surrogate.
  | unencodable
  deriving DecidableEq, Repr

def FileFault.message : FileFault → Text
  | missing => "no such file"
  | isDirectory => "is a directory"
  | occupied => "exists already"
  | notDirectory => "not a directory"
  | tooLong => "name too long"
  | tooDeep => "too many directories missing"
  | zeroCharacter => "path with a zero character"
  | unnameable => "path without a form in bytes"
  | undecodable => "not UTF-8"
  | unencodable => "text without a UTF-8 form"

namespace Path

def mostBytes : Nat := 4095

def mostNameBytes : Nat := 255

-- What is wrong with a path wherever it leads.
def fault? (p : Path) : Option FileFault :=
  match p.text.nameBytes? with
  | none => some .unnameable
  | some bytes =>
    if bytes.contains 0 then some .zeroCharacter
    else if mostBytes < bytes.length then some .tooLong
    else none

def isLongName (name : Text) : Bool :=
  mostNameBytes < (name.nameBytes?.getD []).length

end Path

-- What stands at each place; the bases themselves are directories.
structure FileTree where
  nodes : List (Place × Node)
  deriving DecidableEq

namespace Place

def path (place : Place) : Path :=
  match place.base with
  | .above levels => ⟨.here, List.replicate levels (Text.ofString "..") ++ place.names⟩
  | .root => ⟨.root, place.names⟩

-- One name further, without a look at what stands there.
def enter (place : Place) (name : Text) : Place :=
  if name = ".." then
    match place with
    | ⟨.above levels, []⟩ => ⟨.above (levels + 1), []⟩
    | ⟨base, names⟩ => ⟨base, names.dropLast⟩
  else
    ⟨place.base, place.names ++ [name]⟩

end Place

namespace FileTree

def empty : FileTree :=
  ⟨[]⟩

def at? (tree : FileTree) (place : Place) : Option Node :=
  if place.names.isEmpty then some .directory else tree.nodes.lookup place

def put (tree : FileTree) (place : Place) (node : Node) : FileTree :=
  if tree.nodes.any (·.fst = place) then
    ⟨tree.nodes.map fun (p, n) => if p = place then (p, node) else (p, n)⟩
  else
    ⟨tree.nodes ++ [(place, node)]⟩

def start : Anchor → Place
  | .here => ⟨.above 0, []⟩
  | .root | .doubleRoot => ⟨.root, []⟩

-- The place that `names` lead to from the directory at `place`.
def follow (tree : FileTree) (place : Place) : List Text → Except FileFault Place
  | [] => .ok place
  | name :: names => do
    if tree.at? place ≠ some .directory then
      throw .notDirectory
    if Path.isLongName name then
      throw .tooLong
    let next := place.enter name
    if (tree.at? next).isNone then
      throw .missing
    follow tree next names

def node (tree : FileTree) (path : Path) : Except FileFault Node := do
  if let some fault := path.fault? then
    throw fault
  match tree.at? (← tree.follow (start path.anchor) path.names) with
  | some n => return n
  | none => throw .missing

-- What stands at a path, if anything. A path that cannot lead anywhere leads to nothing, unless it is
-- too long to tell.
def find (tree : FileTree) (path : Path) : Except FileFault (Option Node) :=
  match tree.node path with
  | .ok n => .ok (some n)
  | .error .tooLong => .error .tooLong
  | .error _ => .ok none

def contentOf : Node → Except FileFault Bytes
  | .file content => .ok content
  | .directory => .error .isDirectory

def read (tree : FileTree) (path : Path) : Except FileFault Bytes := do
  contentOf (← tree.node path)

-- The text of a file, with every kind of line end read as a line feed. Where nothing is found the file
-- is missing, whatever the path.
def readText (tree : FileTree) (path : Path) : Except FileFault Text := do
  match ← tree.find path with
  | none => throw .missing
  | some n =>
    match Text.ofUtf8? (← contentOf n) with
    | some t => return t.unifyNewlines
    | none => throw .undecodable

-- The place of the last name of a path, which need not be there yet; none if the path ends with `..`
-- or has no names. What comes before that name has to be a directory.
def entry (tree : FileTree) (path : Path) : Except FileFault (Option Place) := do
  if let some fault := path.fault? then
    throw fault
  let directory ← tree.follow (start path.anchor) path.parent.names
  if tree.at? directory ≠ some .directory then
    throw .notDirectory
  match path.names.getLast? with
  | none => return none
  | some name =>
    if name = ".." then
      return none
    if Path.isLongName name then
      throw .tooLong
    return some (directory.enter name)

-- The files that are new in `tree` or hold something else than in `older`.
def changes (tree older : FileTree) : List (Place × Bytes) :=
  (tree.nodes.filter fun node => !older.nodes.contains node).filterMap fun
    | (place, .file content) => some (place, content)
    | (_, .directory) => none

end FileTree
end TraitCatalog

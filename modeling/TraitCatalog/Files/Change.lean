import TraitCatalog.Files.Tree

namespace TraitCatalog

-- Changes of the files, which may fail; what they changed before a failure stays.
abbrev Change := ExceptT FileFault (StateM FileTree)

namespace Change

def run (change : Change α) (tree : FileTree) : Except FileFault α × FileTree :=
  ExceptT.run change |>.run tree

def put (place : Place) (node : Node) : Change Unit :=
  modify (·.put place node)

-- Makes one directory; those above it have to be there.
def makeLast (path : Path) : Change Unit := do
  let tree ← get
  match ← tree.entry path with
  | none => throw .occupied
  | some place =>
    if (tree.at? place).isSome then
      throw .occupied
    put place .directory

-- A fault does not matter if the directory is there.
def unlessDirectory (path : Path) (fault : FileFault) : Change Unit := do
  if (← (← get).find path) ≠ some .directory then
    throw fault

-- A path that cannot be looked up is a fault in any case.
def unlessFound (path : Path) : FileFault → Change Unit
  | .zeroCharacter => throw .zeroCharacter
  | .unnameable => throw .unnameable
  | fault => unlessDirectory path fault

-- No more missing directories than this are made above another one. Like `Limit.mostContainers`, the number stands
-- for one depth of calls.
def mostAbove : Nat := 980

-- Makes the directory of the names, which stand in reverse. If one above it is missing, that one is
-- made first; so many may still be made above it.
def makeNamed (anchor : Anchor) (room : Nat) : List Text → Change Unit
  | [] =>
    tryCatch (makeLast ⟨anchor, []⟩) (unlessFound ⟨anchor, []⟩)
  | name :: above =>
    let path : Path := ⟨anchor, (name :: above).reverse⟩
    tryCatch (makeLast path) fun
      | .missing => do
        if room = 0 then
          throw .tooDeep
        makeNamed anchor (room - 1) above
        tryCatch (makeLast path) fun
          | .missing => throw .missing
          | fault => unlessDirectory path fault
      | fault => unlessFound path fault

-- Makes a directory with all that are missing above it.
def makeDirectory (path : Path) : Change Unit :=
  makeNamed path.anchor mostAbove path.names.reverse

-- Puts content into the file at `path`, for which directories are made.
def write (path : Path) (content : Bytes) : Change Unit := do
  makeDirectory path.parent
  let tree ← get
  match ← tree.entry path with
  | none => throw .isDirectory
  | some place =>
    if tree.at? place = some .directory then
      throw .isDirectory
    put place (.file content)

-- Puts a text into the file at `path`. Text that has no UTF-8 form leaves the file empty.
def writeText (path : Path) (t : Text) : Change Unit := do
  write path (t.utf8?.getD [])
  if t.utf8?.isNone then
    throw .unencodable

end Change

end TraitCatalog

import TraitCatalog.Command.Session

namespace TraitCatalog
namespace Command

inductive Justify
  | left
  | center
  | right
  deriving DecidableEq, Repr

def Justify.name : Justify → Text
  | left => "left"
  | center => "center"
  | right => "right"

namespace Table

-- The head of each column, and how the column is set.
def columns : List (Text × Justify) :=
  [("#", .right), ("Type", .left), ("Path", .left), ("Synthetic", .center), ("Signature", .left)]

def row (number : Nat) (d : Implementor) : Except Markup.ReferenceError (List Text) := do
  let plain ← d.plainText
  return [Text.ofNat number, Report.clean d.typeName, Report.clean d.qualifiedName,
    if d.synthetic then "yes" else "no", Report.clean plain]

def ofLibrary (library traitName : Text) (ds : List Implementor) :
    Except Markup.ReferenceError Table := do
  let rows ← (ds.zipIdx 1).mapM fun (d, number) => row number d
  return ⟨Report.clean (library ++ ": " ++ traitName ++ " implementors"), rows⟩

-- The table line by line: its title, the heads of its columns, and its rows.
def lines (t : Table) : List Text :=
  t.title :: (columns.map Prod.fst :: t.rows).map (Text.join "  ")

end Table

def Printed.lines : Printed → List Text
  | line t => [t]
  | table t => t.lines

-- Prints the libraries, and answers how many implementors they have together.
def printLibraries (traitName : Text) : List (Text × List Implementor) → Command Nat
  | [] => return 0
  | (library, ds) :: rest => do
    print (.table (← ofExcept .reference (Table.ofLibrary library traitName ds)))
    return ds.length + (← printLibraries traitName rest)

-- Shows one library of the payload at `path`, or all of them if none is named.
def inspect (s : Settings) (path : Path) (library : Option Text) : Command Unit := do
  let c ← catalogAt s path
  let shown ← match library with
    | none => pure c.entries
    | some l =>
      match c.get? l with
      | some ds => pure [(l, ds)]
      | none => throw (.refused (.noLibrary l path))
  let total ← printLibraries s.traitName shown
  print (.line (Text.ofNat total ++ " implementors across " ++ Text.ofNat shown.length ++ " libraries"))

end Command
end TraitCatalog

import TraitCatalog.Report.Line

namespace TraitCatalog

structure Outlet where
  color : Bool
  emoji : Bool
  terminal : Bool
  deriving DecidableEq, Repr

namespace Outlet

-- Output in color needs a terminal.
def isColored (c : Outlet) : Bool :=
  c.color && c.terminal

-- The consoles that were made so far, in order.
abbrev Shelf := List Outlet

-- The number of a console, and the shelf that holds it.
def get (shelf : Shelf) (c : Outlet) : Nat × Shelf :=
  match shelf.idxOf? c with
  | some index => (index, shelf)
  | none => (shelf.length, shelf ++ [c])

end Outlet
end TraitCatalog

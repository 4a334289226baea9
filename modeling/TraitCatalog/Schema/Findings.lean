import TraitCatalog.Schema.Violation

namespace TraitCatalog

-- The violations in their order, up to the end or to the place where there is no answer any more.
inductive Findings
  | none
  | fault (f : SchemaFault)
  | found (v : Violation) (more : Unit → Findings)

namespace Findings

def violation (v : Violation) : Findings :=
  found v fun _ => none

def violationIf (condition : Bool) (v : Violation) : Findings :=
  if condition then violation v else none

def andThen (first : Findings) (second : Unit → Findings) : Findings :=
  match first with
  | none => second ()
  | fault f => fault f
  | found v more => found v fun _ => (more ()).andThen second

-- The findings of `check` on one thing after the other.
def ofEach (check : α → Findings) : List α → Findings
  | [] => none
  | a :: rest => (check a).andThen fun _ => ofEach check rest

-- The findings of something that may fail before it finds anything.
def ofExcept : Except SchemaFault Findings → Findings
  | .ok findings => findings
  | .error f => fault f

def all : Findings → Except SchemaFault (List Violation)
  | none => .ok []
  | fault f => .error f
  | found v more => do return v :: (← (more ()).all)

-- Whether there are no violations, as far as the first one shows.
def isClean : Findings → Except SchemaFault Bool
  | none => .ok true
  | fault f => .error f
  | found .. => .ok false

-- Whether there are no violations, once all have been looked for.
def isCleanThroughout (findings : Findings) : Except SchemaFault Bool :=
  return (← findings.all).isEmpty

end Findings

-- What a schema says of a value.
inductive Verdict
  | kept
  | broken (v : Violation)
  | unanswered (f : SchemaFault)

def Findings.verdict : Findings → Verdict
  | none => .kept
  | fault f => .unanswered f
  | found v _ => .broken v

end TraitCatalog

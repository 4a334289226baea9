import TraitCatalog.Catalog.Basic
import TraitCatalog.Json.Reader

namespace TraitCatalog
namespace Script

def prologue : Text :=
  "(function() \x7bvar implementors = \x7b\x7d;"

def epilogue : Text :=
  "if (window.register_implementors) \x7bwindow.register_implementors(implementors);\x7d " ++
  "else \x7bwindow.pending_implementors = implementors;\x7d\x7d)()"

def assignment (library : Text) (value : Json) : Text :=
  "implementors[" ++ Json.writeString library ++ "] = " ++ value.compact ++ ";"

-- The script of a catalog, without a line feed at its end.
def render (c : Catalog) : Text :=
  Text.join "\n" (prologue :: c.toFields.map (fun (l, v) => assignment l v) ++ [epilogue])

inductive Fault
  -- The first or the last line is missing.
  | notScript
  -- A line is no assignment.
  | unexpectedStatement (line : Nat)
  -- A line assigns what is no JSON text.
  | malformedLiteral (line : Nat)
  | beyond (l : Limit)
  deriving DecidableEq, Repr

-- What surrounds a line without being part of it.
def isPadding (c : Code) : Bool :=
  c.is ' ' || c.is '\t' || c.is '\r'

def lines (t : Text) : List Text :=
  ((t.strip fun c => isPadding c || c.is '\n').splitOn (Code.char '\n')).map (Text.strip isPadding)

-- The code points up to the quote that closes a string, and those behind it.
def splitAtQuote : Text → Option (Text × Text)
  | [] | ['\\'] => none
  | '"' :: rest => some ([], rest)
  | '\\' :: c :: rest => (splitAtQuote rest).map fun (inside, rest) => ('\\' :: c :: inside, rest)
  | c :: rest => (splitAtQuote rest).map fun (inside, rest) => (c :: inside, rest)

-- The texts of the key and of the array that a line assigns to it.
def splitAssignment? (line : Text) : Option (Text × Text) := do
  let rest ← Text.after? "implementors[\"" line
  let (inside, rest) ← splitAtQuote rest
  let value ← Text.before? ";" (← Text.after? "] = " rest)
  let _ ← Text.before? "]" (← Text.after? "[" value)
  return (Code.char '"' :: inside ++ [Code.char '"'], value)

def readAssignment (number : Nat) (line : Text) : Except Fault (Text × Json) :=
  match splitAssignment? line with
  | none => .error (.unexpectedStatement number)
  | some (key, value) =>
    match Json.read key, Json.read value with
    | .ok (.string library), .ok v => .ok (library, v)
    | .ok (.string _), .error (.beyond l) => .error (.beyond l)
    | _, _ => .error (.malformedLiteral number)

-- The assignments of the lines, the first of which has the number `number`.
def readAssignments (number : Nat) : List Text → Except Fault (List (Text × Json))
  | [] => .ok []
  | [] :: rest => readAssignments (number + 1) rest
  | line :: rest => do
    let a ← readAssignment number line
    return a :: (← readAssignments (number + 1) rest)

-- The fields that a script assigns. A repeated library keeps its first place and its last value.
def read (t : Text) : Except Fault (Keyed Json) :=
  match lines t with
  | first :: rest@(_ :: _) =>
    if first = prologue ∧ rest.getLast? = some epilogue then do
      return Keyed.ofPairs (← readAssignments 2 rest.dropLast)
    else
      .error .notScript
  | _ => .error .notScript

-- How a script is called that comes from no file.
def defaultContext : Text :=
  "<script>"

end Script
end TraitCatalog

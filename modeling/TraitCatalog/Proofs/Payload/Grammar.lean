import Mathlib.Data.List.Forall2
import TraitCatalog.Payload.Script
import TraitCatalog.Proofs.Json.Grammar

namespace TraitCatalog
namespace Script

open Json (Blank Spells SpellsText)

-- What may stand at both ends of a line without being part of it.
def padding : Text :=
  " \t\r"

-- A line without a padding of its own.
structure Bare (line : Text) : Prop where
  whole : Code.char '\n' ∉ line
  first : ∀ c ∈ line.head?, c ∉ padding
  last  : ∀ c ∈ line.getLast?, c ∉ padding

inductive Line : (written : Text) → (line : Text) → Prop
  | padded : a ⊆ padding → Bare line → b ⊆ padding → Line (a ++ line ++ b) line

-- The lines between the first and the last one of a script.
inductive Laid : Text → List Text → Prop
  | between : Blank before → a ⊆ padding → List.Forall₂ Line written body → b ⊆ padding → Blank after →
    Laid (before ++ Text.join "\n" ((prologue ++ a) :: written ++ [b ++ epilogue]) ++ after) body

def statement (key value : Text) : Text :=
  "implementors[" ++ key ++ "] = " ++ value ++ ";"

-- A line that assigns an array to a library. The array counts among the containers.
inductive Assigns (words : List (Text × Json)) (containers : Nat) : Text → Text × List Json → Prop
  | statement : SpellsText key library → Spells words containers value (.array items) →
    Assigns words containers (statement key value) (library, items)

-- Lines with all that they assign.
inductive Body (words : List (Text × Json)) (containers : Nat) : List Text → List (Text × List Json) → Prop
  | nil        : Body words containers [] []
  | empty      : Body words containers rest ps → Body words containers ([] :: rest) ps
  | assignment : Assigns words containers line p → Body words containers rest ps →
    Body words containers (line :: rest) (p :: ps)

def Follows (words : List (Text × Json)) (containers : Nat) (t : Text) (ps : List (Text × List Json)) : Prop :=
  ∃ body, Laid t body ∧ Body words containers body ps

-- Each library stands where it was assigned first and has the array that it was assigned last.
structure Collects (ps : List (Text × List Json)) (fields : Keyed Json) : Prop where
  libraries : fields.keys = (ps.map Prod.fst).eraseDups
  last : ps = front ++ (library, items) :: back → library ∉ back.map Prod.fst →
    fields.get? library = some (.array items)

-- A line that would assign an array if its text did not go beyond the limit.
inductive Overruns (l : Limit) : Text → Prop
  | statement : SpellsText key library → Json.Exceeds l ("[" ++ items ++ "]") →
    Overruns l (statement key ("[" ++ items ++ "]"))

-- The first line that is neither empty nor an assignment is one that goes beyond the limit.
def GoesBeyond (l : Limit) (t : Text) : Prop :=
  ∃ front line rest ps, Laid t (front ++ line :: rest) ∧
    Body Json.allWords Limit.mostContainers front ps ∧ Overruns l line

end Script
end TraitCatalog

import TraitCatalog.Proofs.Payload.Rejected
import TraitCatalog.Proofs.Schema.Settled

namespace TraitCatalog
namespace Loader

-- A value that is to be validated, and the files as they are by then.
structure Validation where
  tree   : FileTree
  source : Text
  value  : Json

def answer (l : Loader) (c : Validation) : Except LoadError Unit :=
  l.validate c.tree c.source c.value

-- What a loader answers to validations that come one after the other.
def answers : Loader → List Validation → List (Except LoadError Unit)
  | _, []         => []
  | l, c :: calls => l.answer c :: (l.remember c.tree).answers calls

-- The loader behind them.
def final (l : Loader) (calls : List Validation) : Loader :=
  calls.foldl (fun l c => l.remember c.tree) l

-- The answer is what went wrong with the schema when it was looked for.
def LacksFor (l : Loader) (c : Validation) (answer : Except LoadError Unit) : Prop :=
  ∃ e, l.schema c.tree = .error e ∧ answer = .error e

-- None of the validations gets hold of a schema.
def Misses (l : Loader) (calls : List Validation) : Prop :=
  ∀ c ∈ calls, ∃ e, l.schema c.tree = .error e

-- The loader has a schema, whatever the files are.
def Has (l : Loader) (s : Schema) : Prop :=
  ∀ tree, l.schema tree = .ok s

def keeping (l : Loader) (s : Schema) : Loader :=
  { l with kept := some s }

-- The answer is that of the schema `s`, which is kept as a document: what that document refers to outside of itself
-- is fetched at each validation. Where this makes no difference, it is the answer that there was with the files of
-- the validation `first`.
structure KeepsTo (l : Loader) (s : Schema) (first c : Validation) (answer : Except LoadError Unit) : Prop where
  ofDocument : answer = (l.keeping s).answer c
  asAtFirst  : c.tree.outside = first.tree.outside ∨ s.Settles c.value →
    answer = l.validate first.tree c.source c.value

variable {l l' : Loader} {s : Schema} {c first : Validation} {calls : List Validation} {tree tree' : FileTree}

theorem remember_of_error (h : l.schema tree = .error e) : l.remember tree = l := by
  rw [remember, h]

theorem has_remember (h : l.schema tree = .ok s) : (l.remember tree).Has s :=
  schema_remember h

theorem has_keeping (l : Loader) (s : Schema) : (l.keeping s).Has s :=
  fun _ => rfl

theorem Has.remember (h : l.Has s) (tree : FileTree) : (l.remember tree).Has s :=
  has_remember (h tree)

theorem answer_of_error (h : l.schema c.tree = .error e) : l.answer c = .error e :=
  validate_eq_error_iff.mpr (.schema h)

-- Of the loader and the files no more counts than the schema and what it says of the value.
theorem validate_congr (h : l.schema tree = .ok s) (h' : l'.schema tree' = .ok s) (source : Text) {v : Json}
    (same : s.verdict tree.outside v = s.verdict tree'.outside v) :
    l.validate tree source v = l'.validate tree' source v := by
  rw [validate, validate, h, h', Except.ok_bind, Except.ok_bind, same]

-- A loader that gets hold of no schema stays as it is, so the next validation is as good as its first one.
theorem Misses.final (h : l.Misses calls) : l.final calls = l := by
  induction calls
  case nil => rfl
  case cons c calls ih =>
    obtain ⟨⟨e, first⟩, others⟩ := List.forall_mem_cons.mp h
    rw [Loader.final, List.foldl_cons, remember_of_error first]
    exact ih others

theorem Misses.answers (h : l.Misses calls) : List.Forall₂ l.LacksFor calls (l.answers calls) := by
  induction calls
  case nil => exact .nil
  case cons c calls ih =>
    obtain ⟨⟨e, first⟩, others⟩ := List.forall_mem_cons.mp h
    rw [Loader.answers, remember_of_error first]
    exact .cons ⟨e, first, answer_of_error first⟩ (ih others)

theorem Has.keepsTo (h : l.Has s) (loads : l'.schema first.tree = .ok s) : l'.KeepsTo s first c (l.answer c) where
  ofDocument := validate_congr (h c.tree) (has_keeping l' s c.tree) c.source rfl
  asAtFirst same := by
    refine validate_congr (h c.tree) loads c.source ?_
    obtain same | settles := same
    case inl => rw [same]
    case inr => exact (settles _).trans (settles _).symm

-- A loader that has a schema keeps it over every validation, also over those that fail.
theorem Has.answers (h : l.Has s) (loads : l'.schema first.tree = .ok s) (calls : List Validation) :
    List.Forall₂ (l'.KeepsTo s first) calls (l.answers calls) := by
  induction calls generalizing l
  case nil => exact .nil
  case cons c calls ih => exact .cons (h.keepsTo loads) (ih (h.remember c.tree))

end Loader
end TraitCatalog

import TraitCatalog.Proofs.Schema.Answered

namespace TraitCatalog

-- The fault may come of something that could not be fetched.
def SchemaFault.IsOpen (f : SchemaFault) : Prop :=
  f = .unresolved ∨ f = .dangling .document

-- There is nothing outside.
def Outside.nothing : Outside :=
  fun _ => none

namespace Schema

-- What an answer becomes when there is more to be fetched: it stays, unless it is for want of that.
inductive Persists (R : α → α → Prop) : Except SchemaFault α → Except SchemaFault α → Prop
  | lacking (isOpen : f.IsOpen) : Persists R (.error f) y
  | fault (f : SchemaFault) : Persists R (.error f) (.error f)
  | value (related : R a b) : Persists R (.ok a) (.ok b)

namespace Persists

variable {x y : Except SchemaFault α} {R : β → β → Prop}

theorem same {R : α → α → Prop} (related : ∀ a, R a a) (x : Except SchemaFault α) : Persists R x x := by
  cases x
  case error f => exact .fault f
  case ok a    => exact .value (related a)

theorem refl (x : Except SchemaFault α) : Persists Eq x x :=
  same (fun _ => rfl) x

theorem bind {f g : α → Except SchemaFault β} (first : Persists Eq x y) (rest : ∀ a, Persists R (f a) (g a)) :
    Persists R (x >>= f) (y >>= g) := by
  cases first
  case lacking isOpen => exact .lacking isOpen
  case fault f        => exact .fault f
  case value a _ same =>
    cases same
    exact rest a

theorem bind_right {f g : α → Except SchemaFault β} (x : Except SchemaFault α)
    (rest : ∀ a, Persists R (f a) (g a)) : Persists R (x >>= f) (x >>= g) :=
  (refl x).bind rest

theorem bind_left (first : Persists Eq x y) (f : α → Except SchemaFault β) : Persists Eq (x >>= f) (y >>= f) :=
  first.bind fun a => refl (f a)

theorem mapError (h : Persists Eq x y) : Persists Eq (x.mapError unresolved) (y.mapError unresolved) := by
  cases h
  case lacking isOpen =>
    refine .lacking ?_
    obtain rfl | rfl := isOpen
    case inl => exact .inl rfl
    case inr => exact .inl rfl
  case fault f => exact .fault _
  case value same => exact .value same

theorem mapM {f g : α → Except SchemaFault β} (h : ∀ a, Persists Eq (f a) (g a)) (as : List α) :
    Persists Eq (as.mapM f) (as.mapM g) := by
  induction as
  case nil => exact refl _
  case cons a as ih =>
    rw [List.mapM_cons, List.mapM_cons]
    exact (h a).bind fun b => ih.bind_left _

theorem filterM {f g : α → Except SchemaFault Bool} (h : ∀ a, Persists Eq (f a) (g a)) (as : List α) :
    Persists Eq (as.filterM f) (as.filterM g) := by
  suffices aux : ∀ done, Persists Eq (as.filterAuxM f done) (as.filterAuxM g done) from
    (aux []).bind_left _
  induction as
  case nil => exact fun _ => refl _
  case cons a as ih => exact fun done => (h a).bind fun b => ih _

theorem anyM {f g : α → Except SchemaFault Bool} (h : ∀ a, Persists Eq (f a) (g a)) (as : List α) :
    Persists Eq (as.anyM f) (as.anyM g) := by
  induction as
  case nil => exact refl _
  case cons a as ih =>
    rw [List.anyM, List.anyM]
    refine (h a).bind fun b => ?_
    cases b
    case false => exact ih
    case true  => exact refl _

end Persists
end Schema

namespace Findings

-- The same for findings: those in front of the first fault stay.
inductive Persists : Findings → Findings → Prop
  | refl (findings : Findings) : Persists findings findings
  | lacking (isOpen : f.IsOpen) : Persists (.fault f) findings
  | found (more : Persists (m ()) (m' ())) : Persists (.found v m) (.found v m')

namespace Persists

variable {F G : Findings}

theorem andThen {second second' : Unit → Findings} (first : Persists F G)
    (rest : Persists (second ()) (second' ())) : Persists (F.andThen second) (G.andThen second') := by
  induction first
  case lacking isOpen => exact .lacking isOpen
  case found ih       => exact .found ih
  case refl findings =>
    induction findings
    case none         => exact rest
    case fault f      => exact .refl _
    case found v m ih => exact .found (ih ())

theorem ofEach {check check' : α → Findings} (h : ∀ a, Persists (check a) (check' a)) (as : List α) :
    Persists (.ofEach check as) (.ofEach check' as) := by
  induction as
  case nil          => exact .refl _
  case cons a as ih => exact (h a).andThen ih

theorem ofExcept {x y : Except SchemaFault Findings} (h : Schema.Persists Persists x y) :
    Persists (.ofExcept x) (.ofExcept y) := by
  cases h
  case lacking isOpen => exact .lacking isOpen
  case fault f        => exact .refl _
  case value related  => exact related

theorem all (h : Persists F G) : Schema.Persists Eq F.all G.all := by
  induction h
  case refl findings  => exact .refl _
  case lacking isOpen => exact .lacking isOpen
  case found ih       => exact ih.bind_left _

theorem isClean (h : Persists F G) : Schema.Persists Eq F.isClean G.isClean := by
  cases h
  case refl           => exact .refl _
  case lacking isOpen => exact .lacking isOpen
  case found          => exact .refl _

theorem isCleanThroughout (h : Persists F G) :
    Schema.Persists Eq F.isCleanThroughout G.isCleanThroughout :=
  h.all.bind_left _

theorem verdict (h : Persists F G) (answered : ∀ f : SchemaFault, f.IsOpen → F.verdict ≠ .unanswered f) :
    G.verdict = F.verdict := by
  cases h
  case refl           => rfl
  case lacking isOpen => exact absurd rfl (answered _ isOpen)
  case found          => rfl

end Persists
end Findings

namespace Schema

-- What is checked inside of a check stays, too.
structure Checker.Persists (c c' : Checker) : Prop where
  check : ∀ scope schema v, (c.check scope schema v).Persists (c'.check scope schema v)
  checkBeyond : ∀ scope schema v, (c.checkBeyond scope schema v).Persists (c'.checkBeyond scope schema v)
  evaluatedItems : ∀ scope schema vs,
    Schema.Persists Eq (c.evaluatedItems scope schema vs) (c'.evaluatedItems scope schema vs)
  evaluatedKeys : ∀ scope schema vs,
    Schema.Persists Eq (c.evaluatedKeys scope schema vs) (c'.evaluatedKeys scope schema vs)

namespace Checker.Persists

variable {c c' : Checker} (h : c.Persists c') (scope : Scope)
include h

theorem checkInside (schema v : Json) :
    (c.checkInside scope schema v).Persists (c'.checkInside scope schema v) := by
  unfold Checker.checkInside
  split
  case h_1 => exact h.check ..
  case h_2 =>
    refine .ofExcept (.bind_right _ fun own => ?_)
    cases own
    case none    => exact .value (h.check ..)
    case some id => exact .bind_right _ fun inner => .value (h.check ..)

theorem checkEach (schema : Json) (vs : List Json) :
    (c.checkEach scope schema vs).Persists (c'.checkEach scope schema vs) :=
  .ofEach (h.checkInside scope schema) vs

theorem keeps (schema v : Json) :
    Schema.Persists Eq (c.keeps scope schema v) (c'.keeps scope schema v) :=
  (h.checkBeyond ..).isClean

theorem keepsInside (schema v : Json) :
    Schema.Persists Eq (c.keepsInside scope schema v) (c'.keepsInside scope schema v) :=
  (h.checkInside ..).isClean

theorem countKept (schema : Json) (passes : Nat → Except SchemaFault Bool) (count : Nat) (vs : List Json) :
    Schema.Persists Eq (c.countKept scope schema passes count vs) (c'.countKept scope schema passes count vs) := by
  induction vs generalizing count
  case nil => exact .refl _
  case cons v vs ih =>
    refine (h.keeps ..).bind fun kept => ?_
    cases kept
    case false => exact ih _
    case true =>
      refine .bind_right _ fun passed => ?_
      cases passed
      case false => exact ih _
      case true  => exact .refl _

theorem isOfType (v : Json) (types : List Json) :
    Schema.Persists Eq (c.isOfType scope v types) (c'.isOfType scope v types) := by
  induction types
  case nil => exact .refl _
  case cons type types ih =>
    have first : Schema.Persists Eq (Checker.isOfType.isOf c scope v type) (Checker.isOfType.isOf c' scope v type) := by
      unfold Checker.isOfType.isOf
      split
      case h_1 => exact (h.checkInside ..).isCleanThroughout
      case h_2 => exact .refl _
    refine first.bind fun is => ?_
    cases is
    case false => exact ih
    case true  => exact .refl _

theorem someItems (schema : Json) (least most : Option Json) (vs : List Json) :
    (c.someItems scope schema least most vs).Persists (c'.someItems scope schema least most vs) := by
  refine .ofExcept (.bind_right _ fun _ => (h.countKept ..).bind fun counted => ?_)
  exact .same .refl _

theorem firstKept (v : Json) (schemas : List Json) :
    Schema.Persists Eq (c.firstKept scope v schemas) (c'.firstKept scope v schemas) := by
  induction schemas
  case nil => exact .refl _
  case cons schema schemas ih =>
    refine (h.checkInside ..).isCleanThroughout.bind fun clean => ?_
    cases clean
    case false => exact ih
    case true  => exact .refl _

theorem keepsOne (schemas : List Json) (v : Json) :
    (c.keepsOne scope schemas v).Persists (c'.keepsOne scope schemas v) := by
  refine .ofExcept ((h.firstKept ..).bind fun found => ?_)
  cases found
  case none => exact .same .refl _
  case some found =>
    exact .bind (.filterM (fun schema => h.keeps scope schema v) _) fun more => .same .refl _

theorem branch? (condition : Json) (thenSchema elseSchema : Option Json) (v : Json) :
    Schema.Persists Eq (c.branch? scope condition thenSchema elseSchema v)
      (c'.branch? scope condition thenSchema elseSchema v) :=
  (h.keeps ..).bind_left _

theorem unevaluatedKeys (schema : Json) (evaluated : List Text) (fields : Keyed Json) :
    Schema.Persists Eq (c.unevaluatedKeys scope schema evaluated fields)
      (c'.unevaluatedKeys scope schema evaluated fields) := by
  induction fields
  case nil => exact .refl _
  case cons field fields ih =>
    unfold Checker.unevaluatedKeys
    split
    case isTrue  => exact .bind_right _ fun violations => ih.bind_left _
    case isFalse => exact (h.checkInside ..).all.bind fun violations => ih.bind_left _

end Checker.Persists

variable {s : Schema} {c c' : Checker} {outside : Outside}

-- Whatever there is to be fetched, the schema says the same of the value.
def Settles (s : Schema) (v : Json) : Prop :=
  ∀ outside, s.verdict outside v = s.verdict .nothing v

end Schema
end TraitCatalog

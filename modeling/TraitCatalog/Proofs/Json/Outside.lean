import TraitCatalog.Proofs.Json.Codes

namespace TraitCatalog
namespace Json

-- Where in a text one is.
inductive Side
  | outside
  | inside
  -- In a string, behind a backslash.
  | escape
  deriving DecidableEq

def Side.next : Side → Code → Side
  | outside, c => if c = '"' then inside else outside
  | inside, c  => if c = '"' then outside else if c = '\\' then escape else inside
  | escape, _  => inside

-- The code points that do not have a string on both sides of them.
def outsideFrom (s : Side) : Text → Text
  | [] => []
  | c :: t =>
    if s = .outside ∨ s.next c = .outside then c :: outsideFrom (s.next c) t
    else outsideFrom (s.next c) t

-- A text without what stands between the quotes of its strings.
def outside (t : Text) : Text :=
  outsideFrom .outside t

-- However a text goes on behind `w`, that is outside of strings, and `rest` is what stands outside of strings before.
-- There is no semicolon in that.
structure Leaves (w rest : Text) : Prop where
  whole : ∀ t, outside (w ++ t) = rest ++ outside t
  unended : .char ';' ∉ rest

theorem Leaves.nil : Leaves [] [] :=
  ⟨fun _ => rfl, nofun⟩

theorem Leaves.append (h : Leaves v r) (h' : Leaves w s) : Leaves (v ++ w) (r ++ s) where
  whole t := by rw [List.append_assoc, h.whole, h'.whole, List.append_assoc]
  unended := by simpa using ⟨h.unended, h'.unended⟩

theorem outside_cons (h : c ≠ .char '"') (t : Text) : outside (c :: t) = c :: outside t := by
  simp [outside, outsideFrom, Side.next, h]

-- What is no quote and no semicolon stays as it is.
theorem Leaves.cons (quote : c ≠ .char '"') (semicolon : c ≠ .char ';') (h : Leaves w r) :
    Leaves (c :: w) (c :: r) where
  whole t := by rw [List.cons_append, outside_cons quote, h.whole, List.cons_append]
  unended := List.not_mem_cons_of_ne_of_not_mem semicolon.symm h.unended

theorem leaves_of_forall (w : Text) (h : ∀ c ∈ w, c ≠ .char '"' ∧ c ≠ .char ';') : Leaves w w := by
  induction w
  case nil => exact .nil
  case cons c w ih =>
    obtain ⟨⟨quote, semicolon⟩, others⟩ := List.forall_mem_cons.mp h
    exact .cons quote semicolon (ih others)

-- A string goes as far as the first quote without a backslash of its own.
theorem outsideFrom_inside (h : Guarded w) (t : Text) :
    outsideFrom .inside (w ++ .char '"' :: t) = .char '"' :: outside t := by
  induction h
  case nil => rfl
  case escaped ih => exact ih
  case plain quote backslash _ ih => simpa [outsideFrom, Side.next, quote, backslash] using ih

-- Of a string, there are only the quotes.
theorem SpellsText.leaves (h : SpellsText w t) : Leaves w (writeString []) where
  whole rest := by
    cases h with | quoted quotes
    rw [List.append_assoc]
    exact congrArg (Code.char '"' :: ·) (outsideFrom_inside quotes.guarded rest)
  unended := by decide

-- Of what is made of signs and strings, there is what there would be without the texts.
theorem Woven.leaves (h : Woven w r) : Leaves w r := by
  have plain : ∀ c ∈ signs, c ≠ .char '"' ∧ c ≠ .char ';' := by decide
  induction h
  case nil => exact .nil
  case sign mem _ ih =>
    obtain ⟨quote, semicolon⟩ := plain _ mem
    exact .cons quote semicolon ih
  case string ih => exact (spellsText_writeString _).leaves.append ih

end Json
end TraitCatalog

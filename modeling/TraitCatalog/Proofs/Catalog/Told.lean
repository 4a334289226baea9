import TraitCatalog.Proofs.Catalog.Built

namespace TraitCatalog

-- The flaw is that something else was expected in a place of what is called `context`.
def Flaw.IsOf (context : Text) (f : Flaw) : Prop :=
  ∃ place shape, f = .unexpected context place shape

namespace Json

theorem isOf_of_expectString {v : Json} (h : v.expectString context place = .error f) : f.IsOf context := by
  cases v <;> cases h <;> exact ⟨_, _, rfl⟩

theorem isOf_of_expectBool {v : Json} (h : v.expectBool context place = .error f) : f.IsOf context := by
  cases v <;> cases h <;> exact ⟨_, _, rfl⟩

theorem isOf_of_expectObject {v : Json} (h : v.expectObject context place = .error f) : f.IsOf context := by
  cases v <;> cases h <;> exact ⟨_, _, rfl⟩

theorem isOf_of_expectArray {v : Json} (h : v.expectArray context place = .error f) : f.IsOf context := by
  cases v <;> cases h <;> exact ⟨_, _, rfl⟩

theorem isOf_of_expectItems {items : List Json} {index : Nat}
    (h : expectItems context place index items = .error f) : f.IsOf context := by
  induction items generalizing index
  case nil => cases h
  case cons v items ih =>
    obtain first | ⟨t, -, h⟩ := Except.bind_eq_error_iff.mp h
    case inl => exact isOf_of_expectString first
    case inr =>
      obtain others | ⟨_, -, h⟩ := Except.bind_eq_error_iff.mp h
      case inl => exact ih others
      case inr => cases h

theorem isOf_of_expectStrings {v : Json} (h : v.expectStrings context place = .error f) : f.IsOf context := by
  cases v
  case array => exact isOf_of_expectItems h
  all_goals cases h; exact ⟨_, _, rfl⟩

end Json

-- The checks of the fields leave nothing to be refused to the making of an implementor.
theorem Implementor.isOf_of_ofFields {fields : Keyed Json} (h : ofFields context fields = .error f) :
    f.IsOf context := by
  simp only [ofFields, Except.bind_eq_error_iff] at h
  obtain h | ⟨text, -, h | ⟨synthetic, -, h | ⟨path, -, h⟩⟩⟩ := h
  · exact Json.isOf_of_expectString h
  · exact Json.isOf_of_expectBool h
  · exact Json.isOf_of_expectStrings h
  · split at h
    case isTrue =>
      cases h
      exact ⟨_, _, rfl⟩
    case isFalse nonempty =>
      split at h
      case h_1 =>
        cases h
        exact ⟨_, _, rfl⟩
      case h_2 whole =>
        have some : path ≠ [] := by simpa using nonempty
        have named : [] ∉ path := by
          intro mem
          simpa using List.findIdx?_eq_none_iff.mp whole [] mem
        rw [make, dif_neg some, dif_neg named] at h
        cases h

namespace Catalog

theorem isOf_of_implementor (h : ofFields.implementor context name item = .error f) :
    ∃ rest, f.IsOf (context ++ rest) := by
  obtain shape | ⟨fields, -, h⟩ := Except.bind_eq_error_iff.mp h
  case inl =>
    refine ⟨[], ?_⟩
    rw [List.append_nil]
    exact Json.isOf_of_expectObject shape
  case inr =>
    have inside := Implementor.isOf_of_ofFields h
    simp only [itemPlace, List.append_assoc] at inside
    exact ⟨_, inside⟩

-- Every flaw is one of a place within the context.
theorem isOf_of_ofFields {fields : Keyed Json} (h : ofFields context fields = .error f) :
    ∃ rest, f.IsOf (context ++ rest) := by
  obtain h | ⟨_, -, h⟩ := Except.bind_eq_error_iff.mp h
  case inr => cases h
  case inl =>
    obtain ⟨_, p, _, _, -, -, library⟩ := Except.mapM_eq_error_iff.mp h
    obtain shape | ⟨items, -, h⟩ := Except.bind_eq_error_iff.mp library
    case inl =>
      refine ⟨[], ?_⟩
      rw [List.append_nil]
      exact Json.isOf_of_expectArray shape
    case inr =>
      obtain h | ⟨_, -, h⟩ := Except.bind_eq_error_iff.mp h
      case inr => cases h
      case inl =>
        obtain ⟨_, item, _, _, -, -, implementor⟩ := Except.mapM_eq_error_iff.mp h
        exact isOf_of_implementor implementor

end Catalog
end TraitCatalog

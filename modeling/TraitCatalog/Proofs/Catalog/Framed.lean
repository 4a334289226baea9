import TraitCatalog.Implementor
import TraitCatalog.Proofs.Text.Segments

namespace TraitCatalog
namespace Text

variable {t : Text}

theorem isUnseparated_iff : t.IsUnseparated ↔ ¬("::" : Text) <:+: t := by
  rw [IsUnseparated, List.isChain_iff_forall_rel_of_append_cons_cons]
  constructor
  case mp =>
    rintro apart ⟨front, rest, parted⟩
    exact apart (parted.symm.trans (List.append_assoc ..)) ⟨rfl, rfl⟩
  case mpr =>
    rintro whole c d front rest rfl ⟨rfl, rfl⟩
    exact whole ⟨front, rest, List.append_assoc ..⟩

theorem not_isUnseparated_append (front rest : Text) :
    ¬IsUnseparated (front ++ .char ':' :: .char ':' :: rest) := by
  rw [isUnseparated_iff, not_not]
  exact ⟨front, rest, List.append_assoc ..⟩

theorem isUnseparated_beforeSeparator (t : Text) : t.beforeSeparator.IsUnseparated := by
  obtain ⟨unseparated, all⟩ | ⟨rest, -, unseparated⟩ := t.beforeSeparator_cases
  case inl => rwa [all]
  case inr => exact unseparated.left_of_append

theorem isUnseparated_afterLastSeparator (t : Text) : t.afterLastSeparator.IsUnseparated :=
  isUnseparated_reverse_iff.mpr (isUnseparated_beforeSeparator t.reverse)

theorem beforeSeparator_of_isUnseparated (h : t.IsUnseparated) : t.beforeSeparator = t := by
  obtain ⟨-, all⟩ | ⟨rest, parted, -⟩ := t.beforeSeparator_cases
  case inl => exact all
  case inr =>
    rw [parted] at h
    exact absurd h (not_isUnseparated_append _ rest)

theorem afterLastSeparator_of_isUnseparated (h : t.IsUnseparated) : t.afterLastSeparator = t := by
  rw [afterLastSeparator, beforeSeparator_of_isUnseparated (isUnseparated_reverse_iff.mpr h), List.reverse_reverse]

-- Wherever a separator stands, the first one does not begin behind it.
theorem beforeSeparator_prefix (front rest : Text) :
    beforeSeparator (front ++ .char ':' :: .char ':' :: rest) <+: front := by
  induction front
  case nil => exact List.nil_prefix
  case cons c front ih =>
    rw [List.cons_append]
    unfold beforeSeparator
    split
    case h_1 => exact List.nil_prefix
    case h_2 parted =>
      cases parted
      exact (List.prefix_cons_inj c).mpr ih
    case h_3 parted => nomatch parted

-- What stands between the two names begins with the first separator and ends with the last one, which can be the
-- same or have a colon in common.
theorem exists_between (h : ¬t.IsUnseparated) :
    ∃ m, t = t.beforeSeparator ++ m ++ t.afterLastSeparator ∧ ("::" : Text) <+: m ∧ ("::" : Text) <:+ m := by
  obtain ⟨unseparated, -⟩ | ⟨rest, first, -⟩ := t.beforeSeparator_cases
  case inl => exact absurd unseparated h
  obtain ⟨unseparated, -⟩ | ⟨front, last, -⟩ := t.afterLastSeparator_cases
  case inl => exact absurd unseparated h
  obtain ⟨between, parted⟩ : t.beforeSeparator <+: front := by
    rw [last]
    exact beforeSeparator_prefix front _
  have framed : t = t.beforeSeparator ++ (between ++ "::") ++ t.afterLastSeparator := by
    rw [← List.append_assoc, parted, List.append_assoc]
    exact last
  have behind : t.beforeSeparator ++ ("::" ++ rest) =
      t.beforeSeparator ++ (between ++ "::" ++ t.afterLastSeparator) := by
    rw [← List.append_assoc _ (between ++ _), ← framed]
    exact first.symm
  have begins : ("::" : Text) <+: between ++ "::" ++ t.afterLastSeparator := ⟨rest, List.append_cancel_left behind⟩
  refine ⟨between ++ "::", framed, ?_, List.suffix_append ..⟩
  exact List.prefix_of_prefix_length_le begins (List.prefix_append ..) (by simp)

end Text

namespace Implementor

-- The names of the crate and of the type have no separator in them. Either is the whole qualified name if that has
-- none, and otherwise they are its two ends.
theorem qualifiedName_framed (d : Implementor) :
    ¬("::" : Text) <:+: d.crateName ∧ ¬("::" : Text) <:+: d.typeName ∧
    (¬("::" : Text) <:+: d.qualifiedName → d.crateName = d.qualifiedName ∧ d.typeName = d.qualifiedName) ∧
    (("::" : Text) <:+: d.qualifiedName → ∃ m, d.qualifiedName = d.crateName ++ m ++ d.typeName ∧
      ("::" : Text) <+: m ∧ ("::" : Text) <:+ m) := by
  have crate := Text.isUnseparated_beforeSeparator d.qualifiedName
  have name := Text.isUnseparated_afterLastSeparator d.qualifiedName
  refine ⟨Text.isUnseparated_iff.mp crate, Text.isUnseparated_iff.mp name, fun h => ?whole, fun h => ?ends⟩
  case whole =>
    have single := Text.isUnseparated_iff.mpr h
    exact ⟨Text.beforeSeparator_of_isUnseparated single, Text.afterLastSeparator_of_isUnseparated single⟩
  case ends =>
    exact Text.exists_between fun single => Text.isUnseparated_iff.mp single h

-- Colons of the identifiers run into those that join them.
def ofColons : Implementor where
  text := "impl"
  synthetic := false
  path := ["a:", ":b", ":::c"]
  path_ne_nil := by decide
  nil_not_mem_path := by decide

theorem qualifiedName_framed_colons :
    ("::" : Text) <:+: ofColons.qualifiedName ∧ ofColons.crateName = "a" ∧ ofColons.typeName = "c" ∧
    ∃ m, "a::::b:::::c" = ("a" : Text) ++ m ++ "c" ∧ ("::" : Text) <+: m ∧ ("::" : Text) <:+ m := by
  have separated : ("::" : Text) <:+: ofColons.qualifiedName := by decide
  exact ⟨separated, by decide, by decide, (qualifiedName_framed ofColons).right.right.right separated⟩

end Implementor
end TraitCatalog

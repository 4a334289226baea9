import Mathlib.Data.List.Chain
import TraitCatalog.Proofs.Text.Encodable

namespace TraitCatalog
namespace Text

-- No two colons stand next to each other.
def IsUnseparated (t : Text) : Prop :=
  t.IsChain fun c d => ¬(c = .char ':' ∧ d = .char ':')

variable {t front last : Text}

theorem isUnseparated_cons_iff :
    IsUnseparated (c :: t) ↔ ¬(c = .char ':' ∧ t.head? = some (.char ':')) ∧ t.IsUnseparated := by
  cases t <;> simp [IsUnseparated]

theorem isUnseparated_reverse_iff : IsUnseparated t.reverse ↔ t.IsUnseparated := by
  simp only [IsUnseparated, List.isChain_reverse, and_comm]

-- The text in front of the first separator is all of it, or it ends where the separator begins.
theorem beforeSeparator_cases (t : Text) : t.IsUnseparated ∧ t.beforeSeparator = t ∨
    ∃ rest, t = t.beforeSeparator ++ .char ':' :: .char ':' :: rest ∧
      IsUnseparated (t.beforeSeparator ++ [.char ':']) := by
  fun_induction beforeSeparator t
  case case1 rest => exact .inr ⟨rest, rfl, .singleton _⟩
  case case2 c t h ih =>
    have single : ¬(c = .char ':' ∧ t.head? = some (.char ':')) := by
      rintro ⟨rfl, first⟩
      obtain ⟨rest, rfl⟩ := List.head?_eq_some_iff.mp first
      exact h rest rfl rfl
    obtain ⟨unseparated, all⟩ | ⟨rest, parted, unseparated⟩ := ih
    case inl => exact .inl ⟨isUnseparated_cons_iff.mpr ⟨single, unseparated⟩, by rw [all]⟩
    case inr =>
      refine .inr ⟨rest, congrArg (c :: ·) parted, isUnseparated_cons_iff.mpr ⟨?_, unseparated⟩⟩
      -- What comes behind `c` begins as before where the text is cut.
      rw [parted] at single
      revert single
      cases beforeSeparator t <;> exact id
  case case3 => exact .inl ⟨.nil, rfl⟩

-- The text behind the last separator is all of it, or it begins where the separator ends.
theorem afterLastSeparator_cases (t : Text) : t.IsUnseparated ∧ t.afterLastSeparator = t ∨
    ∃ front, t = front ++ .char ':' :: .char ':' :: t.afterLastSeparator ∧
      IsUnseparated (.char ':' :: t.afterLastSeparator) := by
  unfold afterLastSeparator
  obtain ⟨unseparated, all⟩ | ⟨rest, parted, unseparated⟩ := beforeSeparator_cases t.reverse
  case inl => exact .inl ⟨isUnseparated_reverse_iff.mp unseparated, by rw [all, List.reverse_reverse]⟩
  case inr =>
    refine .inr ⟨rest.reverse, ?parted, ?unseparated⟩
    case parted => simpa using congrArg List.reverse parted
    case unseparated =>
      rw [← isUnseparated_reverse_iff]
      simpa using unseparated

theorem afterLastSeparator_subset (t : Text) : t.afterLastSeparator ⊆ t := by
  obtain ⟨-, all⟩ | ⟨front, parted, -⟩ := t.afterLastSeparator_cases
  case inl => rw [all]; exact List.Subset.refl t
  case inr =>
    intro c hc
    rw [parted]
    exact List.mem_append_right _ (List.mem_cons_of_mem _ (List.mem_cons_of_mem _ hc))

theorem segments_separator (t : Text) : segments (.char ':' :: .char ':' :: t) = [] :: segments t := by
  rw [segments]

theorem segments_ne_nil (t : Text) : segments t ≠ [] := by
  fun_cases segments t <;> exact List.cons_ne_nil _ _

theorem segments_cons (h : ¬(c = .char ':' ∧ t.head? = some (.char ':'))) :
    segments (c :: t) = (segments t).modifyHead (c :: ·) := by
  have single : ∀ rest, c = .char ':' → t = .char ':' :: rest → False := by
    rintro rest rfl rfl
    exact h ⟨rfl, rfl⟩
  rw [segments.eq_2 _ _ single]
  cases parts : segments t
  case nil  => exact absurd parts (segments_ne_nil t)
  case cons => rfl

theorem segments_of_isUnseparated (h : t.IsUnseparated) : segments t = [t] := by
  induction t
  case nil => rfl
  case cons c t ih =>
    obtain ⟨single, others⟩ := isUnseparated_cons_iff.mp h
    rw [segments_cons single, ih others]
    rfl

-- Where no colon stands in front of a separator, it is found from the left as well.
theorem segments_append (h : front.getLast? ≠ some (.char ':')) (t : Text) :
    segments (front ++ .char ':' :: .char ':' :: t) = segments front ++ segments t := by
  fun_induction segments front
  case case1 front ih =>
    cases front
    case nil => simp at h
    case cons c front =>
      rw [List.getLast?_cons_cons, List.getLast?_cons_cons] at h
      rw [List.cons_append, List.cons_append, segments_separator, ih h, List.cons_append]
  case case2 => exact absurd ‹_› (segments_ne_nil _)
  case case3 c front single first others parts ih =>
    have apart : ¬(c = .char ':' ∧ (front ++ .char ':' :: .char ':' :: t).head? = some (.char ':')) := by
      rintro ⟨rfl, head⟩
      cases front
      case nil => exact h rfl
      case cons d front =>
        cases head
        exact single front rfl rfl
    have inner : front.getLast? ≠ some (.char ':') := by
      cases front
      case nil  => nofun
      case cons => rwa [List.getLast?_cons_cons] at h
    rw [List.cons_append, segments_cons apart, ih inner, parts]
    rfl
  case case4 => rw [List.nil_append, segments_separator, List.singleton_append]

theorem join_segments (t : Text) : join "::" (segments t) = t := by
  unfold join
  fun_induction segments t
  case case1 t ih => rw [List.intercalate_cons_of_ne_nil (segments_ne_nil t), ih]; rfl
  case case2 => exact absurd ‹_› (segments_ne_nil _)
  case case3 c t _ first others parts ih =>
    rw [parts] at ih
    cases others
    case nil => simpa using ih
    case cons next others =>
      rw [List.intercalate_cons_of_ne_nil (List.cons_ne_nil _ _)] at ih ⊢
      exact congrArg (c :: ·) ih
  case case4 => rfl

theorem segments_injective (h : segments t = segments u) : t = u := by
  rw [← join_segments t, h, join_segments]

-- The last of the segments.
def lastSegment (t : Text) : Text :=
  (segments t).getLastD []

theorem dropLast_segments_append (t : Text) : (segments t).dropLast ++ [t.lastSegment] = segments t := by
  rw [lastSegment, List.getLastD_eq_getLast?, List.getLast?_eq_some_getLast (segments_ne_nil t)]
  exact List.dropLast_concat_getLast (segments_ne_nil t)

theorem mem_of_mem_segments (hp : part ∈ segments t) (hc : c ∈ part) : c ∈ t := by
  rw [← join_segments t]
  exact mem_join_of_mem hp hc

theorem lastSegment_mem (t : Text) : t.lastSegment ∈ segments t := by
  rw [← dropLast_segments_append t]
  exact List.mem_append_right _ (List.mem_singleton.mpr rfl)

theorem lastSegment_of_isUnseparated (h : t.IsUnseparated) : t.lastSegment = t := by
  rw [lastSegment, segments_of_isUnseparated h]
  rfl

theorem lastSegment_append (h : front.getLast? ≠ some (.char ':')) (t : Text) :
    lastSegment (front ++ .char ':' :: .char ':' :: t) = t.lastSegment := by
  rw [lastSegment, segments_append h, List.getLastD_eq_getLast?, List.getLast?_append,
    List.getLast?_eq_some_getLast (segments_ne_nil t), lastSegment, List.getLastD_eq_getLast?,
    List.getLast?_eq_some_getLast (segments_ne_nil t)]
  rfl

-- Two colons each are taken off from the left.
theorem lastSegment_colons (h : IsUnseparated (.char ':' :: last)) (n : Nat) :
    lastSegment (List.replicate n (.char ':') ++ last) =
      if n % 2 = 0 then last else .char ':' :: last := by
  induction n using Nat.twoStepInduction
  case zero => exact lastSegment_of_isUnseparated (isUnseparated_cons_iff.mp h).right
  case one  => exact lastSegment_of_isUnseparated h
  case more n ih _ =>
    have nothing : ([] : Text).getLast? ≠ some (.char ':') := nofun
    have first := lastSegment_append nothing (List.replicate n (.char ':') ++ last)
    rw [List.nil_append, ih] at first
    rw [Nat.add_mod_right]
    exact first

-- An odd number of colons, which is more than one, stands in front of what is behind the last separator.
def HasStrayColon (t : Text) : Prop :=
  ∃ front n, t = front ++ List.replicate (2 * n + 3) (.char ':') ++ t.afterLastSeparator ∧
    front.getLast? ≠ some (.char ':')

theorem exists_colons (t : Text) :
    ∃ front n, t = front ++ List.replicate n (.char ':') ∧ front.getLast? ≠ some (.char ':') := by
  induction t using List.reverseRecOn
  case nil => exact ⟨[], 0, rfl, nofun⟩
  case append_singleton t c ih =>
    by_cases hc : c = .char ':'
    case neg => exact ⟨t ++ [c], 0, (List.append_nil _).symm, by simpa using hc⟩
    case pos =>
      obtain ⟨front, n, rfl, last⟩ := ih
      exact ⟨front, n + 1, by rw [hc, List.append_assoc, List.replicate_succ'], last⟩

theorem lastSegment_of_colons (h : t = front ++ List.replicate (n + 2) (.char ':') ++ t.afterLastSeparator)
    (hf : front.getLast? ≠ some (.char ':')) :
    t.lastSegment = if n % 2 = 0 then t.afterLastSeparator else .char ':' :: t.afterLastSeparator := by
  have single : IsUnseparated (.char ':' :: t.afterLastSeparator) := by
    obtain ⟨-, all⟩ | ⟨_, -, single⟩ := t.afterLastSeparator_cases
    case inl =>
      rw [all] at h
      have length := congrArg List.length h
      simp only [List.length_append, List.length_replicate] at length
      omega
    case inr => exact single
  calc t.lastSegment
      = lastSegment (front ++ .char ':' :: .char ':' ::
          (List.replicate n (.char ':') ++ t.afterLastSeparator)) := by
        rw [List.append_assoc] at h
        exact congrArg lastSegment h
    _ = lastSegment (List.replicate n (.char ':') ++ t.afterLastSeparator) := lastSegment_append hf _
    _ = _ := lastSegment_colons single n

theorem lastSegment_of_hasStrayColon (h : t.HasStrayColon) :
    t.lastSegment = .char ':' :: t.afterLastSeparator := by
  obtain ⟨front, n, parted, hf⟩ := h
  have odd : ¬(2 * n + 1) % 2 = 0 := by omega
  rw [lastSegment_of_colons (n := 2 * n + 1) parted hf, if_neg odd]

theorem lastSegment_of_not_hasStrayColon (h : ¬t.HasStrayColon) : t.lastSegment = t.afterLastSeparator := by
  obtain ⟨unseparated, all⟩ | ⟨front, parted, -⟩ := t.afterLastSeparator_cases
  case inl => rw [lastSegment_of_isUnseparated unseparated, all]
  case inr =>
    obtain ⟨front, n, rfl, hf⟩ := exists_colons front
    have colons : t = front ++ List.replicate (n + 2) (.char ':') ++ t.afterLastSeparator := by
      rw [List.replicate_add]
      simpa using parted
    rw [lastSegment_of_colons colons hf, if_pos]
    by_contra odd
    refine h ⟨front, n / 2, ?_, hf⟩
    rwa [show 2 * (n / 2) + 3 = n + 2 by omega]

end Text
end TraitCatalog

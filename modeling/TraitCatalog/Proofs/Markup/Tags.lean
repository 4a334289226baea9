import TraitCatalog.Markup.Tags

namespace TraitCatalog
namespace Markup

theorem scanTags_none_cons (h : c ≠ .char '<') (rest : Text) :
    scanTags none (c :: rest) = c :: scanTags none rest := by
  rw [scanTags]
  exact h

theorem scanTags_some_cons (h : c ≠ .char '>') (held rest : Text) :
    scanTags (some held) (c :: rest) = scanTags (some (c :: held)) rest := by
  rw [scanTags]
  exact h

theorem removeTags_append (h : .char '<' ∉ w) (rest : Text) : removeTags (w ++ rest) = w ++ removeTags rest := by
  induction w
  case nil => rfl
  case cons c w ih =>
    rw [List.mem_cons, not_or] at h
    obtain ⟨first, others⟩ := h
    rw [List.cons_append, removeTags, scanTags_none_cons (Ne.symm first), ← removeTags, ih others, List.cons_append]

-- What was read of a tag is given up at its end.
theorem scanTags_some_append (h : .char '>' ∉ inside) (held rest : Text) :
    scanTags (some held) (inside ++ .char '>' :: rest) = removeTags rest := by
  induction inside generalizing held
  case nil => rfl
  case cons c inside ih =>
    rw [List.mem_cons, not_or] at h
    obtain ⟨first, others⟩ := h
    rw [List.cons_append, scanTags_some_cons (Ne.symm first), ih others]

theorem removeTags_tag (h : .char '>' ∉ inside) (rest : Text) :
    removeTags (.char '<' :: inside ++ .char '>' :: rest) = removeTags rest :=
  scanTags_some_append h _ rest

-- What was held of a tag comes back only where no `>` follows.
theorem mem_of_mem_scanTags (h : c ∈ scanTags held t) : c ∈ t ∨ c ∈ held.getD [] := by
  fun_induction scanTags held t
  case case1 => cases h
  case case2 rest ih =>
    cases ih h
    case inl h => exact .inl (List.mem_cons_of_mem _ h)
    case inr h => exact .inl (List.mem_cons.mpr (.inl (List.mem_singleton.mp h)))
  case case3 d rest _ ih =>
    cases h
    case head   => exact .inl (List.mem_cons_self ..)
    case tail h => exact (ih h).imp_left (List.mem_cons_of_mem _)
  case case4 held => exact .inr (List.mem_reverse.mp h)
  case case5 rest held ih => exact .inl (List.mem_cons_of_mem _ ((ih h).resolve_right List.not_mem_nil))
  case case6 d rest held _ ih =>
    cases ih h
    case inl h => exact .inl (List.mem_cons_of_mem _ h)
    case inr h =>
      cases h
      case head   => exact .inl (List.mem_cons_self ..)
      case tail h => exact .inr h

theorem removeTags_subset (t : Text) : removeTags t ⊆ t := by
  intro c h
  exact (mem_of_mem_scanTags h).resolve_right List.not_mem_nil

end Markup
end TraitCatalog

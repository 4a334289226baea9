import Mathlib.Data.List.Basic
import TraitCatalog.Proofs.Markup.Tags

namespace TraitCatalog
namespace Markup

-- A `<`, code points other than `>`, and a `>`.
def IsTag (w : Text) : Prop :=
  ∃ inside, w = .char '<' :: inside ++ [.char '>'] ∧ .char '>' ∉ inside

-- A `>` stands somewhere behind a `<`.
def HasTag (t : Text) : Prop :=
  ∃ front behind, t = front ++ .char '<' :: behind ∧ .char '>' ∈ behind

-- What is left of a text when its tags are taken out, one after the other from left to right.
inductive Strips : Text → Text → Prop
  | nil : Strips [] []
  | keep (none : ∀ w, IsTag w → ¬w <+: c :: t) (rest : Strips t s) : Strips (c :: t) (c :: s)
  | drop (tag : IsTag w) (rest : Strips t s) : Strips (w ++ t) s

variable {t s : Text}

theorem not_hasTag_nil : ¬HasTag [] := by
  rintro ⟨front, behind, parted, -⟩
  cases front <;> cases parted

theorem hasTag_cons_iff : HasTag (c :: t) ↔ c = .char '<' ∧ .char '>' ∈ t ∨ HasTag t := by
  constructor
  case mp =>
    rintro ⟨front, behind, parted, closes⟩
    cases front
    case nil =>
      cases parted
      exact .inl ⟨rfl, closes⟩
    case cons =>
      cases parted
      exact .inr ⟨_, behind, rfl, closes⟩
  case mpr =>
    rintro (⟨rfl, closes⟩ | ⟨front, behind, rfl, closes⟩)
    case inl => exact ⟨[], t, rfl, closes⟩
    case inr => exact ⟨c :: front, behind, rfl, closes⟩

theorem exists_isTag_prefix_iff : (∃ w, IsTag w ∧ w <+: c :: t) ↔ c = .char '<' ∧ .char '>' ∈ t := by
  constructor
  case mp =>
    rintro ⟨_, ⟨inside, rfl, -⟩, rest, parted⟩
    cases parted
    exact ⟨rfl, by simp⟩
  case mpr =>
    rintro ⟨rfl, closes⟩
    obtain ⟨inside, rest, rfl, first⟩ := List.eq_append_cons_of_mem closes
    exact ⟨_, ⟨inside, rfl, first⟩, rest, by simp⟩

theorem exists_strips (t : Text) : ∃ s, Strips t s := by
  -- A tag takes several code points at once.
  induction hn : t.length using Nat.strongRecOn generalizing t
  case ind n ih =>
    subst hn
    cases t
    case nil => exact ⟨[], .nil⟩
    case cons c t =>
      by_cases tagged : ∃ w, IsTag w ∧ w <+: c :: t
      case pos =>
        obtain ⟨w, tag, rest, parted⟩ := tagged
        have shorter : rest.length < (c :: t).length := by
          obtain ⟨inside, rfl, -⟩ := tag
          rw [← parted, List.length_append, List.length_append, List.length_cons]
          omega
        obtain ⟨s, strips⟩ := ih _ shorter rest rfl
        exact ⟨s, parted ▸ .drop tag strips⟩
      case neg =>
        obtain ⟨s, strips⟩ := ih _ (Nat.lt_succ_self t.length) t rfl
        exact ⟨c :: s, .keep (fun w tag begins => tagged ⟨w, tag, begins⟩) strips⟩

theorem scanTags_some_of_not_mem (h : .char '>' ∉ t) (held : Text) :
    scanTags (some held) t = held.reverse ++ t := by
  induction t generalizing held
  case nil => simp [scanTags]
  case cons c t ih =>
    rw [List.mem_cons, not_or] at h
    rw [scanTags_some_cons (Ne.symm h.left), ih h.right, List.reverse_cons, List.append_assoc,
      List.singleton_append]

theorem removeTags_of_not_mem (h : .char '>' ∉ t) : removeTags t = t := by
  induction t
  case nil => rfl
  case cons c t ih =>
    rw [List.mem_cons, not_or] at h
    by_cases opens : c = .char '<'
    case pos =>
      subst opens
      exact scanTags_some_of_not_mem h.right _
    case neg => rw [removeTags, scanTags_none_cons opens, ← removeTags, ih h.right]

theorem removeTags_cons (none : ¬(c = .char '<' ∧ .char '>' ∈ t)) : removeTags (c :: t) = c :: removeTags t := by
  by_cases opens : c = .char '<'
  case pos =>
    subst opens
    have unclosed : .char '>' ∉ t := fun closes => none ⟨rfl, closes⟩
    rw [removeTags_of_not_mem unclosed]
    exact scanTags_some_of_not_mem unclosed _
  case neg => exact scanTags_none_cons opens t

namespace Strips

theorem removeTags_eq (h : Strips t s) : removeTags t = s := by
  induction h
  case nil => rfl
  case keep none _ ih =>
    rw [removeTags_cons, ih]
    rw [← exists_isTag_prefix_iff]
    rintro ⟨w, tag, begins⟩
    exact none w tag begins
  case drop tag _ ih =>
    obtain ⟨inside, rfl, first⟩ := tag
    rw [List.append_assoc, List.singleton_append, removeTags_tag first, ih]

theorem sublist (h : Strips t s) : s.Sublist t := by
  induction h
  case nil     => exact .slnil
  case keep ih => exact ih.cons_cons _
  case drop ih => exact ih.trans (List.sublist_append_right ..)

-- A `<` is kept only where no `>` stands behind it, so none stands behind it in what is left either.
theorem not_hasTag (h : Strips t s) : ¬HasTag s := by
  induction h
  case nil => exact not_hasTag_nil
  case keep none rest ih =>
    rw [hasTag_cons_iff, not_or]
    refine ⟨fun ⟨opens, closes⟩ => ?_, ih⟩
    obtain ⟨w, tag, begins⟩ := exists_isTag_prefix_iff.mpr ⟨opens, rest.sublist.subset closes⟩
    exact none w tag begins
  case drop ih => exact ih

theorem eq_of_not_hasTag (h : Strips t s) (untagged : ¬HasTag t) : s = t := by
  induction h
  case nil => rfl
  case keep ih =>
    rw [hasTag_cons_iff, not_or] at untagged
    rw [ih untagged.right]
  case drop tag _ _ =>
    obtain ⟨inside, rfl, -⟩ := tag
    exact absurd ⟨[], _, rfl, by simp⟩ untagged

end Strips

theorem strips_iff : Strips t s ↔ removeTags t = s := by
  constructor
  case mp => exact Strips.removeTags_eq
  case mpr =>
    rintro rfl
    obtain ⟨s, strips⟩ := exists_strips t
    rwa [strips.removeTags_eq]

theorem strips_removeTags (t : Text) : Strips t (removeTags t) :=
  strips_iff.mpr rfl

theorem removeTags_eq_self_iff : removeTags t = t ↔ ¬HasTag t := by
  have strips := strips_removeTags t
  constructor
  case mp =>
    intro same
    rw [← same]
    exact strips.not_hasTag
  case mpr => exact strips.eq_of_not_hasTag

-- Once all tags are taken out there is no tag left, and something is taken out just of texts with a tag.
theorem removeTags_leaves_none (t : Text) :
    (∀ s, Strips t s ↔ removeTags t = s) ∧ ¬HasTag (removeTags t) ∧ removeTags (removeTags t) = removeTags t ∧
    (removeTags t).length ≤ t.length ∧ (t.length - (removeTags t).length = 0 ↔ ¬HasTag t) := by
  have strips := strips_removeTags t
  have none : ¬HasTag (removeTags t) := strips.not_hasTag
  have shorter := strips.sublist.length_le
  refine ⟨fun s => strips_iff, none, removeTags_eq_self_iff.mpr none, shorter, ?_⟩
  rw [← removeTags_eq_self_iff, Nat.sub_eq_zero_iff_le]
  constructor
  case mp  => exact strips.sublist.eq_of_length_le
  case mpr => exact fun same => same.symm ▸ Nat.le_refl _

example : removeTags "a<<b>c>d<e" = "ac>d<e" := by decide

end Markup
end TraitCatalog

import TraitCatalog.Proofs.Text.Encodable
import TraitCatalog.Report.Line

namespace TraitCatalog
namespace Report

variable {t : Text}

theorem isEncodable_clean (h : t.IsEncodable) : (clean t).IsEncodable :=
  h.subset fun _ hc => (List.mem_filter.mp hc).left

theorem isEncodable_fill (h : t.IsEncodable) : (fill t).IsEncodable :=
  (h.append (Text.isEncodable_ofString _)).append (Text.isEncodable_replicate _ _)

theorem isEncodable_parts (h : t.IsEncodable) : ∀ part ∈ parts t, part.IsEncodable := by
  have between (part : Text) (hp : part ∈ t.splitOn (Code.char '\t')) : part.IsEncodable :=
    h.of_mem_splitOn hp
  intro part hp
  simp only [parts, List.mem_append, List.mem_map, Option.mem_toList] at hp
  obtain ⟨front, hf, rfl⟩ | last := hp
  · exact isEncodable_fill (between front ((List.dropLast_subset _) hf))
  · exact between part (List.mem_of_getLast? last)

theorem isEncodable_paint {color : Text} (hc : color.IsEncodable) (h : t.IsEncodable) :
    (paint color t).IsEncodable := by
  unfold paint
  split
  case isTrue  => exact .nil
  case isFalse =>
    have start := (Text.isEncodable_ofString "\x1b[").append hc
    exact ((start.append (Text.isEncodable_ofString _)).append h).append (Text.isEncodable_ofString _)

theorem isEncodable_badge (severity : Severity) : severity.badge.IsEncodable := by
  cases severity <;> exact Text.isEncodable_ofString _

theorem isEncodable_color (severity : Severity) : severity.color.IsEncodable := by
  cases severity <;> exact Text.isEncodable_ofString _

theorem isEncodable_line (look : Look) (terminal : Option Bool) (severity : Severity)
    (h : t.IsEncodable) : (line look terminal severity t).IsEncodable := by
  have badge : Text.IsEncodable (if look.emoji then severity.badge else []) := by
    split
    case isTrue  => exact isEncodable_badge severity
    case isFalse => exact .nil
  have whole : (clean ((if look.emoji then severity.badge else []) ++ t)).IsEncodable :=
    isEncodable_clean (badge.append h)
  refine Text.IsEncodable.join (Text.isEncodable_ofString _) fun shown hs => ?_
  obtain ⟨part, hp, rfl⟩ := List.mem_map.mp hs
  intro c hc
  obtain ⟨piece, hpiece, hc⟩ := List.mem_flatMap.mp hc
  have plain := isEncodable_parts (whole.of_mem_splitOn hp) piece hpiece
  split at hc
  case isTrue  => exact isEncodable_paint (isEncodable_color severity) plain c hc
  case isFalse => exact plain c hc

theorem isChar_of_isDropped {c : Code} (h : isDropped c = true) : c.IsChar := by
  cases c
  case char d => exact ⟨d, rfl⟩
  case lone n =>
    have large : 0xD800 ≤ (Code.lone n).toNat := Nat.le_add_right ..
    simp only [isDropped, Bool.or_eq_true, decide_eq_true_eq] at h
    omega

theorem isEncodable_of_clean (h : (clean t).IsEncodable) : t.IsEncodable := by
  intro c hc
  cases dropped : isDropped c
  case true  => exact isChar_of_isDropped dropped
  case false => exact h c (List.mem_filter.mpr ⟨hc, by rw [dropped]; rfl⟩)

theorem isEncodable_of_parts (h : ∀ part ∈ parts t, part.IsEncodable) : t.IsEncodable := by
  refine Text.isEncodable_of_splitOn '\t' fun part hp => ?_
  have ends := List.dropLast_concat_getLast (List.splitOn_ne_nil (Code.char '\t') t)
  rw [← ends, List.mem_append, List.mem_singleton] at hp
  obtain front | rfl := hp
  case inl =>
    have filled := h (fill part) (List.mem_append_left _ (List.mem_map_of_mem front))
    exact filled.subset fun c hc => List.mem_append_left _ (List.mem_append_left _ hc)
  case inr =>
    refine h _ (List.mem_append_right _ ?_)
    rw [Option.mem_toList]
    exact List.getLast?_eq_some_getLast _

theorem isEncodable_of_paint {color : Text} (h : (paint color t).IsEncodable) : t.IsEncodable := by
  unfold paint at h
  split at h
  case isTrue empty => exact List.isEmpty_iff.mp empty ▸ .nil
  case isFalse      => exact h.subset fun c hc => List.mem_append_left _ (List.mem_append_right _ hc)

-- A message loses nothing on its way to the line but control characters.
theorem isEncodable_line_iff (look : Look) (terminal : Option Bool) (severity : Severity) :
    (line look terminal severity t).IsEncodable ↔ t.IsEncodable := by
  refine ⟨fun h => ?of_line, isEncodable_line look terminal severity⟩
  case of_line =>
    have whole : ((if look.emoji then severity.badge else []) ++ t).IsEncodable := by
      refine isEncodable_of_clean (Text.isEncodable_of_splitOn '\n' fun shown hs => ?_)
      refine isEncodable_of_parts fun part hp => ?_
      have put : Text.IsEncodable
          (if look.color.getD (terminal.getD false) && terminal.getD false then paint severity.color part else part) :=
        h.subset fun c hc => Text.mem_join_of_mem (List.mem_map_of_mem hs) (List.mem_flatMap.mpr ⟨part, hp, hc⟩)
      split at put
      case isTrue  => exact isEncodable_of_paint put
      case isFalse => exact put
    exact whole.subset fun c hc => List.mem_append_right _ hc

end Report
end TraitCatalog

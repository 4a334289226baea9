import TraitCatalog.Proofs.Json.Woven

namespace TraitCatalog
namespace Json

variable {c : Code}

theorem Layout.mem_newline {l : Layout} (h : c ∈ l.newline depth) : c = ' ' ∨ c = '\n' := by
  cases l
  case compact  => contradiction
  case indented =>
    simp only [newline, List.mem_cons, List.mem_replicate] at h
    exact h.symm.imp And.right id

theorem Layout.mem_colon {l : Layout} (h : c ∈ l.colon) : c ∈ compact.colon ∨ c = ' ' := by
  cases l
  case compact  => exact .inl h
  case indented => simpa [colon, Text.ofString] using h

-- `c` stands in the compact text of a value or between the parts of it.
def FromCompact (c : Code) (w : Text) : Prop :=
  c ∈ w ∨ c = ' ' ∨ c = '\n'

theorem mem_writeItems {l : Layout} (d d' : Nat)
    (h : ∀ v ∈ items, c ∈ write l d v → FromCompact c (write .compact d' v))
    (hc : c ∈ writeItems l d items) : FromCompact c (writeItems .compact d' items) := by
  unfold FromCompact at *
  induction items
  case nil => exact .inl hc
  case cons v items ih =>
    have first := h v (List.mem_cons_self ..)
    have others := ih fun w hw => h w (List.mem_cons_of_mem _ hw)
    simp only [writeItems_cons, List.mem_cons, List.mem_append] at hc ⊢
    grind [Layout.mem_newline]

theorem mem_writeFields {l : Layout} (d d' : Nat)
    (h : ∀ p ∈ fields, c ∈ write l d p.2 → FromCompact c (write .compact d' p.2))
    (hc : c ∈ writeFields l d fields) : FromCompact c (writeFields .compact d' fields) := by
  unfold FromCompact at *
  induction fields
  case nil => exact .inl hc
  case cons p fields ih =>
    obtain ⟨key, v⟩ := p
    have first := h (key, v) (List.mem_cons_self ..)
    have others := ih fun p hp => h p (List.mem_cons_of_mem _ hp)
    simp only [writeFields_cons, List.mem_cons, List.mem_append] at hc ⊢
    grind [Layout.mem_newline, Layout.mem_colon]

theorem mem_write {l : Layout} (h : Plain n v) (d d' : Nat) (hc : c ∈ write l d v) :
    FromCompact c (write .compact d' v) := by
  induction h generalizing d d'
  case bool b => exact .inl (by cases b <;> exact hc)
  case string => exact .inl hc
  case array items _ _ ih =>
    cases items
    case nil => exact .inl hc
    case cons v items _ =>
      have first := ih v (List.mem_cons_self ..) (d + 1) (d' + 1)
      have others := mem_writeItems (l := l) (d + 1) (d' + 1)
        fun w hw => ih w (List.mem_cons_of_mem _ hw) (d + 1) (d' + 1)
      unfold FromCompact at *
      simp only [write_array, List.mem_cons, List.mem_append] at hc ⊢
      grind [Layout.mem_newline]
  case object fields _ _ _ ih =>
    cases fields
    case nil => exact .inl hc
    case cons p fields _ _ =>
      obtain ⟨key, v⟩ := p
      have first := ih (key, v) (List.mem_cons_self ..) (d + 1) (d' + 1)
      have others := mem_writeFields (l := l) (d + 1) (d' + 1)
        fun p hp => ih p (List.mem_cons_of_mem _ hp) (d + 1) (d' + 1)
      unfold FromCompact at *
      simp only [write_object, List.mem_cons, List.mem_append] at hc ⊢
      grind [Layout.mem_newline, Layout.mem_colon]

-- Code points that are no controls, and so no ends of lines.
def IsPrinted (c : Code) : Prop :=
  0x20 ≤ c.toNat

theorem isPrinted_of_mem (s : String) (hs : (s : Text).all (0x20 ≤ ·.toNat) = true)
    (h : c ∈ (s : Text)) : IsPrinted c := by
  simpa [IsPrinted] using List.all_eq_true.mp hs c h

theorem Woven.isPrinted (h : Woven w r) (hc : c ∈ w) : IsPrinted c := by
  induction h
  case nil => contradiction
  case sign mem _ ih =>
    obtain rfl | hc := List.mem_cons.mp hc
    · exact isPrinted_of_mem _ (by decide) mem
    · exact ih hc
  case string ih =>
    obtain hc | hc := List.mem_append.mp hc
    · exact not_control_of_mem_writeString hc
    · exact ih hc

theorem isPrinted_write (h : Plain n v) (d : Nat) (hc : c ∈ write .compact d v) : IsPrinted c :=
  (woven_write h d).isPrinted hc

-- There is no control character in a string, so it fits on a line.
theorem SpellsText.isPrinted (h : SpellsText w t) (hc : c ∈ w) : IsPrinted c := by
  cases h with | quoted quotes =>
  obtain ⟨_, passes, -⟩ := Quoted.takes_iff_quotes.mpr quotes
  rw [List.cons_append, List.mem_cons, List.mem_append, List.mem_singleton] at hc
  obtain rfl | hc | rfl := hc
  · exact isPrinted_of_mem "\"" (by decide) (List.mem_singleton.mpr rfl)
  · exact passes.not_control hc
  · exact isPrinted_of_mem "\"" (by decide) (List.mem_singleton.mpr rfl)

theorem SpellsText.feed_not_mem (h : SpellsText w t) : Code.char '\n' ∉ w := by
  intro feed
  have printed : 0x20 ≤ 0x0A := h.isPrinted feed
  exact absurd printed (by decide)

end Json
end TraitCatalog

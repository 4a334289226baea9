import TraitCatalog.Proofs.Json.Recognized
import TraitCatalog.Proofs.Text.Encodable

namespace TraitCatalog

namespace Json

-- So many arrays inside of each other, the last of which is empty.
def nested (n : Nat) : Text :=
  List.replicate n (.char '[') ++ List.replicate n (.char ']')

theorem nested_succ (n : Nat) : nested (n + 1) = .char '[' :: nested n ++ [.char ']'] := by
  rw [nested, nested, List.replicate_succ, List.replicate_succ']
  simp only [List.cons_append, List.append_assoc]

-- So many arrays that begin inside of each other, of which only one ends, behind a letter.
def unclosed (n : Nat) : Text :=
  List.replicate n (.char '[') ++ [.char 'N', .char ']']

theorem unclosed_succ (n : Nat) :
    unclosed (n + 1) = .char '[' :: (List.replicate n (.char '[') ++ [.char 'N']) ++ [.char ']'] := by
  simp only [unclosed, List.replicate_succ, List.cons_append, List.append_assoc, List.nil_append]

theorem exists_spells_nested (n : Nat) : ∃ items, Spells words (n + 1) (nested (n + 1)) (.array items) := by
  induction n
  case zero => exact ⟨[], .emptyArray nofun⟩
  case succ n ih =>
    obtain ⟨items, spells⟩ := ih
    let item : Padded Json := ⟨[], nested (n + 1), .array items, [], nofun, nofun⟩
    have outer := Spells.array [item] (List.cons_ne_nil _ _) (List.forall_mem_singleton.mpr spells)
    have text : Text.join [.char ','] ([item].map Padded.text) = nested (n + 1) := by
      simp [Text.join, Padded.text, item]
    rw [text, ← nested_succ] at outer
    exact ⟨_, outer⟩

theorem Awaits.nested (awaits : Awaits st u) (room : st.length + n ≤ Limit.mostContainers) :
    Awaits (List.replicate n (.item []) ++ st) (u ++ List.replicate n (.char '[')) := by
  induction n
  case zero => simpa using awaits
  case succ n ih =>
    have inside := ih (by omega)
    obtain ⟨m, hm⟩ := inside.exists_more_room (by simp; omega)
    have deeper := Awaits.item [] inside blank_nil hm nofun
    rw [List.append_nil] at deeper
    rw [List.replicate_succ, List.replicate_succ', ← List.append_assoc]
    exact deeper

theorem Awaits.exceeds_of_brackets (awaits : Awaits st u) (h : Limit.mostContainers < st.length + n)
    (rest : Text) : Exceeds .depth (u ++ List.replicate n (.char '[') ++ rest) := by
  obtain ⟨m, hm⟩ := awaits.exists_room
  obtain ⟨k, rfl⟩ : ∃ k, n = m + (k + 1) := ⟨n - m - 1, by omega⟩
  have full : (List.replicate m (Frame.item []) ++ st).length = Limit.mostContainers := by
    simp
    omega
  have exceeds : Exceeds .depth (_ ++ [] ++ .char '[' :: (List.replicate k (.char '[') ++ rest)) :=
    .depth (awaits.nested (Nat.le_of_eq hm)) blank_nil full (.inl rfl)
  rw [List.append_nil] at exceeds
  rw [← List.replicate_append_replicate, List.replicate_succ]
  simpa only [List.append_assoc, List.cons_append] using exceeds

theorem exceeds_of_brackets (h : Limit.mostContainers < n) (rest : Text) :
    Exceeds .depth (List.replicate n (.char '[') ++ rest) :=
  Awaits.start.exceeds_of_brackets (by simpa using h) rest

-- The beginning of an object up to its first value.
theorem awaits_first (hk : SpellsText key library) :
    Awaits [.member [] library] (.char '\x7b' :: key ++ [.char ':']) := by
  let name : Padded Text := ⟨[], key, library, [], blank_nil, blank_nil⟩
  have room : ([] : List Frame).length + (989 + 1) = Limit.mostContainers := rfl
  have awaits := (AwaitsKey.behind [] .start blank_nil room nofun nofun).member name hk
  simpa [openObject, Padded.text, Keyed.ofPairs, name] using awaits

theorem EndsWhole.bracket (rest : Text) : EndsWhole (.char ']' :: rest) where
  digits := by
    rintro _ _ ⟨⟩
    decide
  places := nofun
  power mark same := by
    cases mark
    all_goals
      obtain ⟨rfl, -⟩ := List.cons_eq_cons.mp same
      contradiction

theorem whole_ones (n : Nat) : Whole (List.replicate (n + 1) (.char '1')) := by
  refine ⟨⟨List.cons_ne_nil _ _, ?digits⟩, ?zero⟩
  case digits =>
    intro c hc
    rw [List.eq_of_mem_replicate hc]
    decide
  case zero => exact nofun

-- An array of one integer that is too long.
theorem Awaits.exceeds_of_digits (h : Awaits st u) (room : st.length < Limit.mostContainers)
    (whole : Whole d) (many : Limit.mostDigits < d.length) (rest : Text) :
    Exceeds .digits (u ++ (.char '[' :: d ++ [.char ']']) ++ rest) := by
  obtain ⟨n, hn⟩ := h.exists_more_room room
  have exceeds := Exceeds.digits (s := false) (Awaits.item [] h blank_nil hn nofun) blank_nil whole many
    (.bracket rest)
  simpa [minus, openArray] using exceeds

theorem Number.Grows.letter_not_mem (h : Grows n w n') : .char 'N' ∉ w := by
  induction w generalizing n
  case nil => exact List.not_mem_nil
  case cons c w ih =>
    unfold Grows at h
    rw [List.foldlM_cons] at h
    obtain ⟨n₁, one, others⟩ := Option.bind_eq_some_iff.mp h
    rw [List.mem_cons, not_or]
    refine ⟨?_, ih others⟩
    rintro rfl
    cases n <;> cases one

theorem Numeral.letter_not_mem (h : Numeral w v) : .char 'N' ∉ w := by
  obtain ⟨n, begun, -⟩ := Number.exists_begun h
  obtain ⟨c, w, n₁, rfl, start, others⟩ := begun.takes
  rw [List.mem_cons, not_or]
  refine ⟨?_, others.letter_not_mem⟩
  rintro rfl
  cases start

theorem Blank.letter_not_mem (h : Blank b) : .char 'N' ∉ b :=
  fun mem => absurd (h _ mem) (by decide)

theorem mem_bracketed {o d c : Code} (ho : c ≠ o) (hd : c ≠ d) : c ∈ o :: t ++ [d] ↔ c ∈ t := by
  simp [ho, hd]

theorem SpellsText.quote_mem (h : SpellsText w t) : .char '"' ∈ w := by
  cases h
  exact List.mem_cons_self ..

-- In the standard, a capital letter stands only in strings.
theorem Spells.quote_mem (h : Spells standardWords n w v) (letter : .char 'N' ∈ w) : .char '"' ∈ w := by
  induction h
  case word mem =>
    simp only [standardWords, List.mem_cons, Prod.mk.injEq, List.not_mem_nil, or_false] at mem
    obtain ⟨rfl, -⟩ | ⟨rfl, -⟩ | ⟨rfl, -⟩ := mem <;> revert letter <;> decide
  case number h => exact absurd letter h.letter_not_mem
  case string h => exact h.quote_mem
  case emptyArray hb =>
    rw [mem_bracketed (by decide) (by decide)] at letter
    exact absurd letter hb.letter_not_mem
  case array items _ _ ih =>
    rw [mem_bracketed (by decide) (by decide)] at letter ⊢
    obtain comma | ⟨part, hp, letter⟩ := Text.mem_join letter
    case inl => exact absurd comma (by decide)
    obtain ⟨p, mem, rfl⟩ := List.mem_map.mp hp
    simp only [Padded.text, List.mem_append, p.blank_before.letter_not_mem, p.blank_after.letter_not_mem,
      false_or, or_false] at letter
    refine Text.mem_join_of_mem hp ?_
    simp only [Padded.text, List.mem_append]
    exact .inl (.inr (ih p mem letter))
  case emptyObject hb =>
    rw [mem_bracketed (by decide) (by decide)] at letter
    exact absurd letter hb.letter_not_mem
  case object members ne keys _ _ =>
    rw [mem_bracketed (by decide) (by decide)]
    obtain ⟨m, others, rfl⟩ := List.exists_cons_of_ne_nil ne
    refine Text.mem_join_of_mem (List.mem_map_of_mem (List.mem_cons_self ..)) ?_
    have quote := (keys m (List.mem_cons_self ..)).quote_mem
    simp only [Member.text, Padded.text, List.mem_append]
    exact .inl (.inl (.inr quote))

end Json
end TraitCatalog

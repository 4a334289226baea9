import Mathlib.Data.List.TakeWhile
import TraitCatalog.Markup.References
import TraitCatalog.Proofs.Except
import TraitCatalog.Proofs.Text.Encodable

namespace TraitCatalog
namespace Markup

-- The text starts with a decimal reference that has too many digits.
def StartsOverlong (t : Text) : Prop :=
  ∃ digits rest, t = .char '&' :: .char '#' :: (digits ++ rest) ∧ (∀ d ∈ digits, d.isDigit) ∧
    Limit.mostDigits < digits.length

-- Such a reference stands somewhere in the text.
def HasOverlong (t : Text) : Prop :=
  ∃ start, start <:+ t ∧ StartsOverlong start

theorem not_hasOverlong_nil : ¬HasOverlong [] := by
  rintro ⟨start, suffix, digits, rest, rfl, -⟩
  exact List.cons_ne_nil _ _ (List.suffix_nil.mp suffix)

theorem hasOverlong_cons_iff : HasOverlong (c :: t) ↔ StartsOverlong (c :: t) ∨ HasOverlong t := by
  simp only [HasOverlong, List.suffix_cons_iff, or_and_right, exists_or, exists_eq_left]

theorem not_startsOverlong_cons (h : c ≠ .char '&') (t : Text) : ¬StartsOverlong (c :: t) := by
  rintro ⟨digits, rest, parted, -⟩
  exact h (List.cons.inj parted).left

theorem hasOverlong_append (h : .char '&' ∉ front) : HasOverlong (front ++ t) ↔ HasOverlong t := by
  induction front
  case nil => rfl
  case cons c front ih =>
    rw [List.mem_cons, not_or] at h
    rw [List.cons_append, hasOverlong_cons_iff, ih h.right]
    exact or_iff_right (not_startsOverlong_cons (Ne.symm h.left) _)

theorem not_hasOverlong_of_not_mem (h : .char '&' ∉ t) : ¬HasOverlong t := by
  have front := hasOverlong_append (t := []) h
  rw [List.append_nil] at front
  rw [front]
  exact not_hasOverlong_nil

theorem hasOverlong_drop (h : .char '&' ∉ t.take n) : HasOverlong (t.drop n) ↔ HasOverlong t := by
  rw [← hasOverlong_append h, List.take_append_drop]

namespace Reference

variable {r : Reference}

theorem take_takeWhile_length (p : Code → Bool) (t : Text) : t.take (t.takeWhile p).length = t.takeWhile p :=
  (List.prefix_iff_eq_take.mp (List.takeWhile_prefix p)).symm

theorem amp_not_mem_takeWhile {p : Code → Bool} (h : p (.char '&') = false) (t : Text) :
    .char '&' ∉ t.takeWhile p := by
  intro mem
  rw [List.mem_takeWhile_imp mem] at h
  cases h

-- The forms of a reference, each with the length of what is read for it.
theorem at?_cases (h : at? t = some (r, n)) :
    (∃ rest, t = .char '#' :: rest ∧ r = .decimal (rest.takeWhile Code.isDigit) ∧
      n = (rest.takeWhile Code.isDigit).length + 1) ∨
    (∃ x rest, t = .char '#' :: x :: rest ∧ x ≠ .char '&' ∧
      r = .hexadecimal (rest.takeWhile (·.hexDigit?.isSome)) ∧
      n = (rest.takeWhile (·.hexDigit?.isSome)).length + 2) ∨
    (r = .name ((t.take nameLimit).takeWhile isNameCode) ∧
      n = ((t.take nameLimit).takeWhile isNameCode).length) := by
  unfold at? at h
  split at h
  case h_1 rest =>
    dsimp only at h
    split at h
    case isFalse =>
      cases h
      exact .inl ⟨rest, rfl, rfl, rfl⟩
    case isTrue none =>
      cases rest
      case nil => cases h
      case cons x rest =>
        dsimp only at h
        split at h
        case isFalse => cases h
        case isTrue marked =>
          cases h
          refine .inr (.inl ⟨x, rest, rfl, ?_, rfl, rfl⟩)
          rintro rfl
          cases marked
  case h_2 =>
    dsimp only at h
    split at h
    case isTrue => cases h
    case isFalse =>
      cases h
      exact .inr (.inr ⟨rfl, rfl⟩)

theorem amp_not_mem_take (h : at? t = some (r, n)) : .char '&' ∉ t.take n := by
  obtain ⟨rest, rfl, -, rfl⟩ | ⟨x, rest, rfl, other, -, rfl⟩ | ⟨-, rfl⟩ := at?_cases h
  case inl =>
    rw [List.take_succ_cons, take_takeWhile_length, List.mem_cons, not_or]
    exact ⟨by decide, amp_not_mem_takeWhile rfl rest⟩
  case inr.inl =>
    rw [List.take_succ_cons, List.take_succ_cons, take_takeWhile_length]
    simp only [List.mem_cons, not_or]
    exact ⟨by decide, Ne.symm other, amp_not_mem_takeWhile rfl rest⟩
  case inr.inr =>
    have first : (t.take nameLimit).takeWhile isNameCode <+: t :=
      (List.takeWhile_prefix _).trans (List.take_prefix _ t)
    rw [← List.prefix_iff_eq_take.mp first]
    exact amp_not_mem_takeWhile rfl _

theorem startsOverlong_iff : StartsOverlong (.char '&' :: t) ↔
    ∃ digits n, at? t = some (.decimal digits, n) ∧ Limit.mostDigits < digits.length := by
  constructor
  case mp =>
    rintro ⟨digits, rest, parted, all, many⟩
    cases parted
    have read : (digits ++ rest).takeWhile Code.isDigit = digits ++ rest.takeWhile Code.isDigit :=
      List.takeWhile_append_of_pos all
    have longer : digits.length ≤ ((digits ++ rest).takeWhile Code.isDigit).length := by
      rw [read, List.length_append]
      exact Nat.le_add_right ..
    have some : ¬((digits ++ rest).takeWhile Code.isDigit).isEmpty = true := by
      rw [List.isEmpty_iff_length_eq_zero]
      omega
    have found : at? (.char '#' :: (digits ++ rest)) = Option.some (.decimal _, _) := if_neg some
    exact ⟨_, _, found, Nat.lt_of_lt_of_le many longer⟩
  case mpr =>
    rintro ⟨digits, n, found, many⟩
    obtain ⟨rest, rfl, ⟨⟩, -⟩ | ⟨_, _, -, -, ⟨⟩, -⟩ | ⟨⟨⟩, -⟩ := at?_cases found
    refine ⟨_, rest.dropWhile Code.isDigit, ?_, fun d hd => List.mem_takeWhile_imp hd, many⟩
    rw [List.takeWhile_append_dropWhile]

theorem text_eq_error_iff (closed : Bool) :
    r.text closed = .error .integerTooLong ↔
      ∃ digits, r = .decimal digits ∧ Limit.mostDigits < digits.length := by
  cases r
  case decimal digits =>
    by_cases many : Limit.mostDigits < digits.length <;> simp [text, many]
  case hexadecimal => simp [text]
  case name => simp [text]

end Reference

-- Decoding goes on behind the reference in front of the next ampersand.
theorem hasOverlong_behind (h : Reference.at? t = some (r, n)) :
    HasOverlong (t.drop (if (t.drop n).head?.any (·.is ';') then n + 1 else n)) ↔ HasOverlong t := by
  have plain := Reference.amp_not_mem_take h
  split
  case isFalse => exact hasOverlong_drop plain
  case isTrue closed =>
    apply hasOverlong_drop
    cases behind : t.drop n
    case nil => simp [behind] at closed
    case cons c rest =>
      have last : c = .char ';' := by simpa [behind, Code.is] using closed
      have there : t[n]? = some c := by rw [← List.head?_drop, behind]; rfl
      have read : t.take (n + 1) = t.take n ++ [c] := by rw [List.take_add_one, there]; rfl
      rw [read, List.mem_append, not_or, last]
      exact ⟨plain, by decide⟩

-- Decoding fails just of a decimal reference with too many digits. The induction follows the decoding, which goes
-- from one ampersand to the next and skips none.
theorem decode_eq_error_iff : decode t = .error .integerTooLong ↔ HasOverlong t := by
  fun_induction decode t
  case case1 => exact iff_of_false nofun not_hasOverlong_nil
  case case2 c rest amp none ih =>
    obtain rfl : c = .char '&' := by simpa [Code.is] using amp
    have plain : ¬StartsOverlong (.char '&' :: rest) := by
      rw [Reference.startsOverlong_iff, none]
      exact nofun
    rw [hasOverlong_cons_iff, or_iff_right plain]
    exact Except.bind_pure_eq_error_iff.trans ih
  case case3 c rest amp r n found closed ih =>
    obtain rfl : c = .char '&' := by simpa [Code.is] using amp
    have starts : StartsOverlong (.char '&' :: rest) ↔ r.text closed = .error .integerTooLong := by
      rw [Reference.startsOverlong_iff, Reference.text_eq_error_iff, found]
      simp
    rw [hasOverlong_cons_iff, starts, ← hasOverlong_behind found]
    cases r.text closed
    case error e => cases e; simp
    case ok t =>
      rw [Except.ok_bind, or_iff_right nofun]
      exact Except.bind_pure_eq_error_iff.trans ih
  case case4 c rest other ih =>
    have plain : c ≠ .char '&' := by simpa [Code.is] using other
    rw [hasOverlong_cons_iff, or_iff_right (not_startsOverlong_cons plain rest)]
    exact Except.bind_pure_eq_error_iff.trans ih

-- The tables name characters only.
theorem valid_legacyControls : ∀ n ∈ legacyControls, n.isValidChar := by
  decide

theorem valid_openNames : ∀ p ∈ openNames, p.2.isValidChar := by
  decide

theorem valid_closedNames : ∀ names ∈ closedNames, ∀ p ∈ names.2, ∀ n ∈ p.2, n.isValidChar := by
  decide +kernel

theorem mem_of_lookup [BEq α] [LawfulBEq α] {pairs : List (α × β)} (h : pairs.lookup a = some b) :
    (a, b) ∈ pairs := by
  obtain ⟨front, back, rfl, -⟩ := List.lookup_eq_some_iff.mp h
  simp

theorem isEncodable_singleton {n : Nat} (h : n.isValidChar) : Text.IsEncodable [Code.ofNat n] := by
  intro c hc
  rw [List.mem_singleton.mp hc]
  exact Code.isChar_ofNat h

theorem isEncodable_numbered (n : Nat) : (numbered n).IsEncodable := by
  have replacement : Text.IsEncodable [Code.ofNat 0xFFFD] := isEncodable_singleton (by decide)
  unfold numbered
  split
  case isTrue => exact replacement
  case isFalse =>
    split
    case isTrue legacy =>
      have inside : n - 0x80 < legacyControls.length := by
        have length : legacyControls.length = 32 := rfl
        omega
      refine isEncodable_singleton (valid_legacyControls _ ?_)
      rw [List.getD_eq_getElem?_getD, List.getElem?_eq_getElem inside]
      exact List.getElem_mem inside
    case isFalse =>
      split
      case isTrue => exact replacement
      case isFalse valid =>
        split
        case isTrue => exact .nil
        case isFalse =>
          apply isEncodable_singleton
          unfold Nat.isValidChar
          omega

theorem isEncodable_openName? (h : openName? name = some t) : t.IsEncodable := by
  simp only [openName?, Option.bind_eq_bind, Option.bind_eq_some_iff, Option.pure_def, Option.some.injEq] at h
  obtain ⟨s, -, n, found, rfl⟩ := h
  exact isEncodable_singleton (valid_openNames _ (mem_of_lookup found))

theorem isEncodable_closedName? (h : closedName? name = some t) : t.IsEncodable := by
  simp only [closedName?, Option.bind_eq_bind, Option.bind_eq_some_iff, Option.pure_def, Option.some.injEq] at h
  obtain ⟨s, -, c, -, names, found, numbers, found', rfl⟩ := h
  intro d hd
  obtain ⟨n, hn, rfl⟩ := List.mem_map.mp hd
  exact Code.isChar_ofNat (valid_closedNames _ (mem_of_lookup found) _ (mem_of_lookup found') n hn)

theorem isEncodable_openStart? (hn : name.IsEncodable) (h : openStart? name = some t) : t.IsEncodable := by
  obtain ⟨n, -, h⟩ := List.exists_of_findSome?_eq_some h
  obtain ⟨u, known, rfl⟩ := Option.map_eq_some_iff.mp h
  exact (isEncodable_openName? known).append (hn.subset fun _ => List.mem_of_mem_drop)

theorem isEncodable_whole (closed : Bool)
    (h : (if closed then openName? name <|> closedName? name else openName? name) = some t) : t.IsEncodable := by
  cases closed
  case false => exact isEncodable_openName? h
  case true =>
    cases known : openName? name
    case some u =>
      have same : some u = some t := by simpa [known] using h
      exact isEncodable_openName? (known.trans same)
    case none =>
      have other : closedName? name = some t := by simpa [known] using h
      exact isEncodable_closedName? other

theorem isEncodable_named (hn : name.IsEncodable) (closed : Bool) : (named name closed).IsEncodable := by
  have semicolon : (named.semicolon closed).IsEncodable := by
    cases closed
    case false => exact .nil
    case true  => exact Text.isEncodable_ofString ";"
  unfold named
  cases known : (if closed then openName? name <|> closedName? name else openName? name)
  case some t => exact isEncodable_whole closed known
  case none =>
    cases start : openStart? name
    case some t => exact (isEncodable_openStart? hn start).append semicolon
    case none   => exact ((Text.isEncodable_ofString "&").append hn).append semicolon

theorem Reference.isEncodable_text {t : Text} (ht : t.IsEncodable) (found : at? t = some (r, n)) (closed : Bool)
    (means : r.text closed = .ok u) : u.IsEncodable := by
  obtain ⟨rest, -, rfl, -⟩ | ⟨x, rest, -, -, rfl, -⟩ | ⟨rfl, -⟩ := at?_cases found
  case inl =>
    rw [text] at means
    split at means
    case isTrue => cases means
    case isFalse =>
      cases means
      exact isEncodable_numbered _
  case inr.inl =>
    cases means
    exact isEncodable_numbered _
  case inr.inr =>
    cases means
    refine isEncodable_named (ht.subset fun c hc => ?_) closed
    exact List.mem_of_mem_take ((List.takeWhile_subset _) hc)

theorem isEncodable_cons_of_ok {x : Except ReferenceError Text} {u : Text} (h : (do return c :: (← x)) = .ok u)
    (first : c.IsChar) (others : ∀ t, x = .ok t → t.IsEncodable) : u.IsEncodable := by
  obtain ⟨t, decoded, h⟩ := Except.bind_eq_ok_iff.mp h
  cases h
  exact List.forall_mem_cons.mpr ⟨first, others t decoded⟩

-- What a text with a UTF-8 form is decoded to has one.
theorem isEncodable_decode (h : decode t = .ok u) (ht : t.IsEncodable) : u.IsEncodable := by
  fun_induction decode t generalizing u
  case case1 =>
    cases h
    exact .nil
  case case2 c rest amp none ih =>
    obtain ⟨first, others⟩ := List.forall_mem_cons.mp ht
    exact isEncodable_cons_of_ok h first fun _ decoded => ih decoded others
  case case3 c rest amp r n found closed ih =>
    obtain ⟨-, others⟩ := List.forall_mem_cons.mp ht
    obtain ⟨t, means, h⟩ := Except.bind_eq_ok_iff.mp h
    obtain ⟨v, decoded, h⟩ := Except.bind_eq_ok_iff.mp h
    cases h
    have behind := ih decoded fun c hc => others c (List.mem_of_mem_drop hc)
    exact (Reference.isEncodable_text others found closed means).append behind
  case case4 c rest other ih =>
    obtain ⟨first, others⟩ := List.forall_mem_cons.mp ht
    exact isEncodable_cons_of_ok h first fun _ decoded => ih decoded others

end Markup
end TraitCatalog

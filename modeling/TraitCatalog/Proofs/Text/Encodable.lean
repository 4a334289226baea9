import Mathlib.Tactic.Common
import TraitCatalog.Text.Utf8

namespace TraitCatalog

-- A code point that is a character.
def Code.IsChar (c : Code) : Prop :=
  ∃ d, c = char d

instance : (c : Code) → Decidable c.IsChar
  | .char d => isTrue ⟨d, rfl⟩
  | .lone _ => isFalse nofun

theorem Code.isChar_ofNat {n : Nat} (h : n.isValidChar) : (ofNat n).IsChar :=
  ⟨Char.ofNatAux n h, dif_pos h⟩

namespace Text

def IsEncodable (t : Text) : Prop :=
  ∀ c ∈ t, c.IsChar

instance (t : Text) : Decidable t.IsEncodable :=
  inferInstanceAs (Decidable (∀ c ∈ t, c.IsChar))

variable {t u : Text}

theorem isSome_utf8?_iff : t.utf8?.isSome ↔ t.IsEncodable := by
  constructor
  case mp =>
    intro h c hc
    obtain ⟨bytes, h⟩ := Option.isSome_iff_exists.mp h
    obtain ⟨chars, rfl⟩ := exists_chars_of_utf8? h
    obtain ⟨d, -, rfl⟩ := List.mem_map.mp hc
    exact ⟨d, rfl⟩
  case mpr =>
    intro h
    obtain ⟨chars, rfl⟩ : ∃ chars : List Char, t = chars.map Code.char := by
      induction t
      case nil => exact ⟨[], rfl⟩
      case cons c t ih =>
        obtain ⟨d, rfl⟩ := h c (List.mem_cons_self ..)
        obtain ⟨chars, rfl⟩ := ih fun c hc => h c (List.mem_cons_of_mem _ hc)
        exact ⟨d :: chars, rfl⟩
    rw [utf8?_map_char]
    rfl

theorem IsEncodable.exists_utf8? (h : t.IsEncodable) : ∃ bytes, t.utf8? = some bytes :=
  Option.isSome_iff_exists.mp (isSome_utf8?_iff.mpr h)

theorem IsEncodable.nil : IsEncodable [] :=
  nofun

theorem IsEncodable.append (ht : t.IsEncodable) (hu : u.IsEncodable) : (t ++ u).IsEncodable := by
  intro c hc
  cases List.mem_append.mp hc
  case inl hc => exact ht c hc
  case inr hc => exact hu c hc

theorem IsEncodable.subset (ht : t.IsEncodable) (h : ∀ c ∈ u, c ∈ t) : u.IsEncodable :=
  fun c hc => ht c (h c hc)

theorem isEncodable_map_char (chars : List Char) : IsEncodable (chars.map Code.char) := by
  intro c hc
  obtain ⟨d, -, rfl⟩ := List.mem_map.mp hc
  exact ⟨d, rfl⟩

theorem isEncodable_ofString (s : String) : IsEncodable s :=
  isEncodable_map_char s.toList

theorem isEncodable_ofNat (n : Nat) : (ofNat n).IsEncodable :=
  isEncodable_map_char _

theorem isEncodable_replicate (n : Nat) (d : Char) : IsEncodable (List.replicate n (Code.char d)) := by
  intro c hc
  exact ⟨d, List.eq_of_mem_replicate hc⟩

theorem isEncodable_hex (width n : Nat) : (hex width n).IsEncodable :=
  (isEncodable_replicate _ _).append (isEncodable_map_char _)

-- What stands in joined parts stands in one of them or between them.
theorem mem_join {sep : Text} {parts : List Text} (h : c ∈ join sep parts) :
    c ∈ sep ∨ ∃ part ∈ parts, c ∈ part := by
  unfold join at h
  induction parts
  case nil => contradiction
  case cons part parts ih =>
    cases parts
    case nil => exact .inr ⟨part, List.mem_singleton.mpr rfl, by simpa using h⟩
    case cons next parts =>
      rw [List.intercalate_cons_of_ne_nil (List.cons_ne_nil _ _), List.mem_append, List.mem_append] at h
      obtain (h | h) | h := h
      · exact .inr ⟨part, List.mem_cons_self .., h⟩
      · exact .inl h
      · exact (ih h).imp_right fun ⟨p, hp, hc⟩ => ⟨p, List.mem_cons_of_mem _ hp, hc⟩

theorem mem_join_of_mem {sep : Text} {parts : List Text} (mem : part ∈ parts) (hc : c ∈ part) :
    c ∈ join sep parts := by
  unfold join
  induction parts
  case nil => cases mem
  case cons first parts ih =>
    cases parts
    case nil =>
      cases mem
      case head => simpa using hc
      case tail mem => cases mem
    case cons next parts =>
      rw [List.intercalate_cons_of_ne_nil (List.cons_ne_nil _ _), List.mem_append, List.mem_append]
      cases mem
      case head     => exact .inl (.inl hc)
      case tail mem => exact .inr (ih mem)

theorem IsEncodable.join {sep : Text} {parts : List Text} (hs : sep.IsEncodable)
    (h : ∀ part ∈ parts, part.IsEncodable) : (join sep parts).IsEncodable := by
  intro c hc
  obtain hc | ⟨part, hp, hc⟩ := mem_join hc
  · exact hs c hc
  · exact h part hp c hc

-- The parts between separators are made of what stands in the text.
theorem mem_of_mem_splitOn {sep : Code} {part : Text} (hp : part ∈ t.splitOn sep) (hc : c ∈ part) :
    c ∈ t := by
  induction t generalizing part
  case nil =>
    rw [List.splitOn_nil, List.mem_singleton] at hp
    rwa [hp] at hc
  case cons d t ih =>
    rw [List.splitOn_cons_eq_if_modifyHead] at hp
    split at hp
    case isTrue =>
      cases List.mem_cons.mp hp
      case inl hp => nomatch hp ▸ hc
      case inr hp => exact List.mem_cons_of_mem _ (ih hp hc)
    case isFalse =>
      cases parts : t.splitOn sep
      case nil => exact absurd parts (List.splitOn_ne_nil sep t)
      case cons first others =>
        rw [parts] at hp ih
        cases List.mem_cons.mp hp
        case inl hp =>
          subst hp
          cases List.mem_cons.mp hc
          case inl hc => exact hc ▸ List.mem_cons_self ..
          case inr hc => exact List.mem_cons_of_mem _ (ih (List.mem_cons_self ..) hc)
        case inr hp => exact List.mem_cons_of_mem _ (ih (List.mem_cons_of_mem _ hp) hc)

-- What stands in the text is a separator or stands in a part between separators.
theorem eq_or_exists_mem_splitOn (sep : Code) (hc : c ∈ t) : c = sep ∨ ∃ part ∈ t.splitOn sep, c ∈ part := by
  have whole : join [sep] (t.splitOn sep) = t := List.intercalate_splitOn sep
  obtain hc | inside := mem_join (whole.symm ▸ hc)
  · exact .inl (List.mem_singleton.mp hc)
  · exact .inr inside

theorem IsEncodable.of_mem_splitOn {sep : Code} {part : Text} (ht : t.IsEncodable)
    (hp : part ∈ t.splitOn sep) : part.IsEncodable :=
  ht.subset fun _ => mem_of_mem_splitOn hp

theorem isEncodable_of_splitOn (sep : Char)
    (h : ∀ part : Text, part ∈ t.splitOn (Code.char sep) → part.IsEncodable) : t.IsEncodable := by
  intro c hc
  obtain rfl | ⟨part, hp, hc⟩ := eq_or_exists_mem_splitOn (Code.char sep) hc
  · exact ⟨sep, rfl⟩
  · exact h part hp c hc

end Text
end TraitCatalog

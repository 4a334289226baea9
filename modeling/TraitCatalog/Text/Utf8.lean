import TraitCatalog.Text.Basic

namespace TraitCatalog

abbrev Bytes := List UInt8

namespace Code

def utf8? : Code → Option Bytes
  | char c => some (String.utf8EncodeChar c)
  | lone _ => none

def nameBytes? : Code → Option Bytes
  | char c => some (String.utf8EncodeChar c)
  | lone n => if 0xDC80 ≤ 0xD800 + n.val ∧ n.val < 0x500 then some [UInt8.ofNat (n.val % 0x100)] else none

end Code

namespace Text

def utf8? (t : Text) : Option Bytes :=
  (t.mapM Code.utf8?).map List.flatten

-- The bytes of a text in the name of a file: there, the surrogates from U+DC80 on stand for the single
-- bytes from 80 on.
def nameBytes? (t : Text) : Option Bytes :=
  (t.mapM Code.nameBytes?).map List.flatten

-- The text that strict UTF-8 bytes stand for.
def ofUtf8? (bytes : Bytes) : Option Text :=
  bytes.toByteArray.utf8Decode?.map fun chars => chars.toList.map Code.char

theorem utf8?_map_char (chars : List Char) :
    utf8? (chars.map Code.char) = some (chars.flatMap String.utf8EncodeChar) := by
  have h : (chars.map Code.char).mapM Code.utf8? = some (chars.map String.utf8EncodeChar) := by
    induction chars
    case nil => rfl
    case cons c chars ih => simp [ih, Code.utf8?]
  simp [utf8?, h, List.flatMap_def]

theorem ofUtf8?_map_char (chars : List Char) :
    ofUtf8? (chars.flatMap String.utf8EncodeChar) = some (chars.map Code.char) := by
  have h := List.utf8Decode?_utf8Encode (l := chars)
  simp only [List.utf8Encode] at h
  simp [ofUtf8?, h]

-- A text is made of characters alone if it has a UTF-8 form.
theorem exists_chars_of_utf8? {t : Text} (h : t.utf8? = some bytes) :
    ∃ chars : List Char, t = chars.map Code.char := by
  obtain ⟨parts, hparts, -⟩ := Option.map_eq_some_iff.mp h
  clear h
  induction t generalizing parts
  case nil => exact ⟨[], rfl⟩
  case cons c t ih =>
    cases c
    case lone => simp [Code.utf8?] at hparts
    case char c =>
      simp only [List.mapM_cons, Code.utf8?, Option.bind_eq_bind, Option.bind_some,
        Option.bind_eq_some_iff] at hparts
      obtain ⟨rest, hrest, -⟩ := hparts
      obtain ⟨chars, rfl⟩ := ih rest hrest
      exact ⟨c :: chars, rfl⟩

-- Reading the UTF-8 form of a text gives the text back.
theorem ofUtf8?_utf8? {t : Text} (h : t.utf8? = some bytes) : ofUtf8? bytes = some t := by
  obtain ⟨chars, rfl⟩ := exists_chars_of_utf8? h
  rw [utf8?_map_char, Option.some.injEq] at h
  rw [← h, ofUtf8?_map_char]

end Text
end TraitCatalog

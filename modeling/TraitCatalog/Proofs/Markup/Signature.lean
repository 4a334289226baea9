import TraitCatalog.Implementor
import TraitCatalog.Proofs.Except
import TraitCatalog.Proofs.Markup.Tags

namespace TraitCatalog
namespace Markup

-- The code points that could be taken for markup, and the references that are written for them.
def escapes : List (Code × Text) :=
  [('&', "amp"), ('<', "lt"), ('>', "gt"), ('"', "quot"), ('\x27', "#x27")]

def escapeCode (c : Code) : Text :=
  match escapes.find? (·.1 = c) with
  | some (_, name) => .char '&' :: (name ++ [.char ';'])
  | none           => [c]

def escape (t : Text) : Text :=
  t.flatMap escapeCode

theorem escapeCode_cases (c : Code) : (∃ name, (c, name) ∈ escapes ∧
      escapeCode c = .char '&' :: (name ++ [.char ';'])) ∨
    escapeCode c = [c] ∧ ∀ p ∈ escapes, p.1 ≠ c := by
  unfold escapeCode
  cases found : escapes.find? (·.1 = c)
  case none =>
    rw [List.find?_eq_none] at found
    exact .inr ⟨rfl, by simpa using found⟩
  case some p =>
    obtain rfl : p.1 = c := by simpa using List.find?_some found
    exact .inl ⟨p.2, List.mem_of_find?_eq_some found, rfl⟩

-- The references are known with their semicolons, and each of them stands for its own code point.
theorem exists_reference (h : (c, name) ∈ escapes) (rest : Text) : ∃ r : Reference,
    Reference.at? (name ++ .char ';' :: rest) = some (r, name.length) ∧ r.text true = .ok [c] := by
  simp only [escapes, List.mem_cons, Prod.mk.injEq, List.not_mem_nil, or_false] at h
  obtain ⟨rfl, rfl⟩ | ⟨rfl, rfl⟩ | ⟨rfl, rfl⟩ | ⟨rfl, rfl⟩ | ⟨rfl, rfl⟩ := h
  · exact ⟨.name "amp", rfl, rfl⟩
  · exact ⟨.name "lt", rfl, rfl⟩
  · exact ⟨.name "gt", rfl, rfl⟩
  · exact ⟨.name "quot", rfl, rfl⟩
  · exact ⟨.hexadecimal "27", rfl, rfl⟩

theorem decode_cons (h : c ≠ .char '&') (rest : Text) :
    decode (c :: rest) = do return c :: (← decode rest) := by
  have plain : ¬c.is '&' = true := by simpa [Code.is] using h
  rw [decode, if_neg plain]

-- A reference with its semicolon gives way to what it stands for, whatever follows.
theorem decode_reference {r : Reference}
    (found : Reference.at? (name ++ .char ';' :: rest) = some (r, name.length)) (means : r.text true = .ok t) :
    decode (.char '&' :: (name ++ .char ';' :: rest)) = do return t ++ (← decode rest) := by
  have amp : (Code.char '&').is '&' = true := rfl
  have closed : ((name ++ .char ';' :: rest).drop name.length).head?.any (·.is ';') = true := by
    rw [List.drop_left]
    rfl
  have behind : (name ++ .char ';' :: rest).drop (name.length + 1) = rest := by simp
  rw [decode, if_pos amp, found]
  simp only [closed, if_true, means, behind, Except.ok_bind]

theorem decode_escapeCode (c : Code) (rest : Text) :
    decode (escapeCode c ++ rest) = do return c :: (← decode rest) := by
  obtain ⟨name, mem, written⟩ | ⟨written, other⟩ := escapeCode_cases c
  case inl =>
    obtain ⟨r, found, means⟩ := exists_reference mem rest
    rw [written, List.cons_append, List.append_assoc, List.singleton_append]
    exact decode_reference found means
  case inr =>
    rw [written]
    exact decode_cons (Ne.symm (other (.char '&', "amp") (List.mem_cons_self ..))) rest

-- What is written for a text is decoded code point by code point, so that nothing runs into what follows.
theorem decode_escape_append (t rest : Text) :
    decode (escape t ++ rest) = do return t ++ (← decode rest) := by
  induction t
  case nil =>
    rw [escape, List.flatMap_nil, List.nil_append]
    cases decode rest <;> rfl
  case cons c t ih =>
    rw [escape, List.flatMap_cons, ← escape, List.append_assoc, decode_escapeCode, ih]
    simp

theorem decode_escape (t : Text) : decode (escape t) = .ok t := by
  have all := decode_escape_append t []
  rw [List.append_nil, decode] at all
  simpa using all

theorem lt_not_mem_escape (t : Text) : .char '<' ∉ escape t := by
  intro h
  obtain ⟨c, -, h⟩ := List.mem_flatMap.mp h
  obtain ⟨name, mem, written⟩ | ⟨written, other⟩ := escapeCode_cases c
  case inl =>
    have none : ∀ p ∈ escapes, .char '<' ∉ Code.char '&' :: (p.2 ++ [.char ';']) := by decide
    exact none (c, name) mem (written ▸ h)
  case inr =>
    rw [written, List.mem_singleton] at h
    exact other (.char '<', "lt") (by decide) h

-- A piece of a signature as it is written: a tag, which shows nothing, or a text, which is escaped.
inductive Piece
  | tag (inside : Text) (closes : Code.char '>' ∉ inside)
  | text (t : Text)

namespace Piece

def written : Piece → Text
  | tag inside _ => .char '<' :: inside ++ [.char '>']
  | text t       => escape t

def shown : Piece → Text
  | tag _ _ => []
  | text t  => t

end Piece

-- Without its tags a signature is the escaped text of what it shows.
theorem removeTags_written (pieces : List Piece) :
    removeTags (pieces.flatMap Piece.written) = escape (pieces.flatMap Piece.shown) := by
  induction pieces
  case nil => rfl
  case cons p pieces ih =>
    rw [List.flatMap_cons, List.flatMap_cons]
    cases p
    case tag inside closes =>
      rw [Piece.written, List.append_assoc, List.singleton_append, removeTags_tag closes, ih]
      rfl
    case text t =>
      rw [Piece.written, removeTags_append (lt_not_mem_escape t), ih, Piece.shown, escape, escape, escape,
        List.flatMap_append]

end Markup

namespace Implementor

open Markup (Piece)

-- The plain text of a signature is all that its pieces show, in their order.
theorem plainText_written (d : Implementor) (pieces : List Piece) :
    ({ d with text := pieces.flatMap Piece.written } : Implementor).plainText =
      .ok (pieces.flatMap Piece.shown) := by
  rw [plainText, Markup.removeTags_written, Markup.decode_escape]

end Implementor
end TraitCatalog

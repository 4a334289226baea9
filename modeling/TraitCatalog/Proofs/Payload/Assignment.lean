import TraitCatalog.Proofs.Json.Codes
import TraitCatalog.Proofs.Payload.Grammar

namespace TraitCatalog

namespace Script

open Json (Guarded SpellsText Spells allWords)

-- The quote that closes a string is the first one without a backslash of its own.
theorem splitAtQuote_append (h : Json.Guarded w) (rest : Text) :
    splitAtQuote (w ++ .char '"' :: rest) = some (w, rest) := by
  induction h
  case nil => rfl
  case escaped ih => simp [splitAtQuote, ih]
  case plain _ hb _ ih => simp [splitAtQuote, hb, ih]

theorem splitAtQuote_eq_some_iff : splitAtQuote t = some (w, rest) ↔ Guarded w ∧ t = w ++ .char '"' :: rest := by
  constructor
  case mpr =>
    rintro ⟨guarded, rfl⟩
    exact splitAtQuote_append guarded rest
  case mp =>
    fun_induction splitAtQuote t generalizing w
    case case1 => exact nofun
    case case2 => exact nofun
    case case3 t =>
      rintro ⟨⟩
      exact ⟨.nil, rfl⟩
    case case4 c t ih =>
      intro h
      obtain ⟨⟨w, rest⟩, first, same⟩ := Option.map_eq_some_iff.mp h
      cases same
      obtain ⟨guarded, rfl⟩ := ih first
      exact ⟨.escaped guarded, rfl⟩
    case case5 c t _ quote backslash ih =>
      intro h
      obtain ⟨⟨w, rest⟩, first, same⟩ := Option.map_eq_some_iff.mp h
      cases same
      obtain ⟨guarded, rfl⟩ := ih first
      obtain ⟨d, behind, more⟩ := List.exists_cons_of_ne_nil
        (show w ++ Code.char '"' :: rest ≠ [] from List.append_ne_nil_of_right_ne_nil _ nofun)
      exact ⟨.plain quote (fun same => backslash d behind same more) guarded, rfl⟩

-- Where a line is cut up, whatever it is that stands in the quotes and in the brackets.
theorem splitAssignment?_eq_some_iff : splitAssignment? line = some (key, value) ↔
    ∃ inside inner, Guarded inside ∧ key = .char '"' :: inside ++ [.char '"'] ∧ value = "[" ++ inner ++ "]" ∧
      line = statement key value := by
  simp only [splitAssignment?, Option.bind_eq_bind, Option.bind_eq_some_iff, Text.after?_eq_some_iff,
    Text.before?_eq_some_iff, Option.pure_def, Option.some.injEq, Prod.mk.injEq, statement]
  constructor
  case mp =>
    rintro ⟨_, rfl, ⟨inside, _⟩, cut, _, rfl, value, rfl, _, rfl, inner, rfl, rfl, rfl⟩
    obtain ⟨guarded, rfl⟩ := splitAtQuote_eq_some_iff.mp cut
    exact ⟨inside, inner, guarded, rfl, by rw [List.append_assoc], by simp [Text.ofString]⟩
  case mpr =>
    rintro ⟨inside, inner, guarded, rfl, rfl, rfl⟩
    let behind : Text := ("] = " : Text) ++ ((("[" : Text) ++ inner ++ ("]" : Text)) ++ (";" : Text))
    refine ⟨inside ++ .char '"' :: behind, by simp [Text.ofString, behind], (inside, behind),
      splitAtQuote_append guarded _, _, rfl, _, rfl, _, List.append_assoc .., inner, rfl, rfl, rfl⟩

-- The pair that is read for a library and its array.
def field (p : Text × List Json) : Text × Json :=
  (p.1, .array p.2)

theorem statement_ne_nil (key value : Text) : statement key value ≠ [] :=
  nofun

variable {key inside inner : Text}

theorem read_key_iff : Json.read (.char '"' :: inside ++ [.char '"']) = .ok (.string library) ↔
    SpellsText (.char '"' :: inside ++ [.char '"']) library := by
  have whole : Json.read (.char '"' :: inside ++ [.char '"']) = .ok (.string library) ↔ Spells allWords _ _ _ :=
    Json.read_eq_ok_iff_of_ends rfl (by decide) rfl (by decide)
  rw [whole, Json.spells_string_iff]

theorem read_array_iff : Json.read ("[" ++ inner ++ "]") = .ok v ↔ ∃ items, v = .array items ∧
    Spells allWords Limit.mostContainers ("[" ++ inner ++ "]") (.array items) := by
  have whole : Json.read ("[" ++ inner ++ "]") = .ok v ↔ Spells allWords _ _ _ :=
    Json.read_eq_ok_iff_of_ends rfl (by decide) rfl (by decide)
  rw [whole]
  constructor
  case mp =>
    intro spells
    obtain ⟨items, rfl⟩ := spells.exists_items rfl
    exact ⟨items, rfl, spells⟩
  case mpr =>
    rintro ⟨items, rfl, spells⟩
    exact spells

theorem SpellsText.exists_inside (h : SpellsText key library) :
    ∃ inside, Guarded inside ∧ key = .char '"' :: inside ++ [.char '"'] := by
  cases h with | quoted quotes => exact ⟨_, quotes.guarded, rfl⟩

theorem readAssignment_eq_ok_iff {p : Text × Json} : readAssignment number line = .ok p ↔
    ∃ q, p = field q ∧ Assigns allWords Limit.mostContainers line q := by
  constructor
  case mp =>
    intro h
    unfold readAssignment at h
    split at h
    case h_1 => cases h
    case h_2 key value cut =>
      obtain ⟨inside, inner, -, rfl, rfl, rfl⟩ := splitAssignment?_eq_some_iff.mp cut
      split at h
      case h_1 library v hk hv =>
        cases h
        obtain ⟨items, rfl, spells⟩ := read_array_iff.mp hv
        exact ⟨(library, items), rfl, .statement (read_key_iff.mp hk) spells⟩
      all_goals cases h
  case mpr =>
    rintro ⟨_, rfl, @⟨key, library, value, items, hk, spells⟩⟩
    obtain ⟨inside, guarded, rfl⟩ := SpellsText.exists_inside hk
    obtain ⟨inner, rfl⟩ := spells.exists_inner
    have cut := splitAssignment?_eq_some_iff.mpr ⟨inside, inner, guarded, rfl, rfl, rfl⟩
    have first := read_key_iff.mpr hk
    have second := read_array_iff.mpr ⟨items, rfl, spells⟩
    simp only [readAssignment, cut, first, second, field]

theorem readAssignment_eq_beyond_iff : readAssignment number line = .error (.beyond l) ↔ Overruns l line := by
  constructor
  case mp =>
    intro h
    unfold readAssignment at h
    split at h
    case h_1 => cases h
    case h_2 key value cut =>
      obtain ⟨inside, inner, -, rfl, rfl, rfl⟩ := splitAssignment?_eq_some_iff.mp cut
      split at h
      case h_2 library l' hk hv =>
        cases h
        exact .statement (read_key_iff.mp hk) (Json.read_eq_beyond_iff.mp hv)
      all_goals cases h
  case mpr =>
    rintro @⟨key, library, inner, hk, exceeds⟩
    obtain ⟨inside, guarded, rfl⟩ := SpellsText.exists_inside hk
    have cut := splitAssignment?_eq_some_iff.mpr ⟨inside, inner, guarded, rfl, rfl, rfl⟩
    have first := read_key_iff.mpr hk
    have second := Json.read_eq_beyond_iff.mpr exceeds
    simp only [readAssignment, cut, first, second]

theorem readAssignment_assignment (library : Text) (h : Json.Plain n (.array items))
    (hn : n ≤ Limit.mostContainers) (number : Nat) :
    readAssignment number (assignment library (.array items)) = .ok (library, .array items) := by
  have spells := (Json.spells_write .compact 0 h).of_standard hn
  exact readAssignment_eq_ok_iff.mpr ⟨(library, items), rfl, .statement (Json.spellsText_writeString library) spells⟩

-- An assignment is one line, with nothing around it that could be taken for padding.
theorem isPrinted_assignment (h : Json.Plain n v) (hc : c ∈ assignment library v) : Json.IsPrinted c := by
  simp only [assignment, List.mem_append, or_assoc] at hc
  obtain hc | hc | hc | hc | hc := hc
  · exact Json.isPrinted_of_mem _ (by decide) hc
  · exact Json.not_control_of_mem_writeString hc
  · exact Json.isPrinted_of_mem _ (by decide) hc
  · exact Json.isPrinted_write h 0 hc
  · exact Json.isPrinted_of_mem _ (by decide) hc

end Script
end TraitCatalog

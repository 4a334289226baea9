import TraitCatalog.Proofs.Json.Standard
import TraitCatalog.Proofs.Keyed
import TraitCatalog.Proofs.Payload.Grammar
import TraitCatalog.Proofs.Payload.Script

namespace TraitCatalog

namespace Script

open Json (SpellsText Spells allWords)

theorem Assigns.ne_nil (h : Assigns words n line p) : line ≠ [] := by
  cases h
  exact statement_ne_nil _ _

theorem Overruns.ne_nil (h : Overruns l line) : line ≠ [] := by
  cases h
  exact statement_ne_nil _ _

theorem readAssignments_eq_ok_iff : readAssignments number body = .ok qs ↔
    ∃ ps, qs = ps.map field ∧ Body allWords Limit.mostContainers body ps := by
  induction body generalizing number qs
  case nil =>
    constructor
    case mp =>
      rintro ⟨⟩
      exact ⟨[], rfl, .nil⟩
    case mpr =>
      rintro ⟨_, rfl, ⟨⟩⟩
      rfl
  case cons line rest ih =>
    by_cases empty : line = []
    case pos =>
      subst empty
      rw [readAssignments, ih]
      constructor
      case mp =>
        rintro ⟨ps, rfl, body⟩
        exact ⟨ps, rfl, .empty body⟩
      case mpr =>
        rintro ⟨ps, rfl, body | body | ⟨assigns, -⟩⟩
        · exact ⟨ps, rfl, body⟩
        · exact absurd rfl assigns.ne_nil
    case neg =>
      simp only [readAssignments_cons empty, Except.bind_eq_ok_iff, ih, readAssignment_eq_ok_iff,
        Except.pure_eq_ok, Except.ok.injEq]
      constructor
      case mp =>
        rintro ⟨_, ⟨p, rfl, assigns⟩, _, ⟨ps, rfl, body⟩, rfl⟩
        exact ⟨p :: ps, rfl, .assignment assigns body⟩
      case mpr =>
        rintro ⟨_, rfl, _ | _ | ⟨assigns, body⟩⟩
        · exact absurd rfl empty
        · exact ⟨_, ⟨_, rfl, assigns⟩, _, ⟨_, rfl, body⟩, rfl⟩

-- Lines are refused for the first one that is neither empty nor an assignment.
theorem readAssignments_eq_error_iff : readAssignments number body = .error f ↔
    ∃ front line rest ps, body = front ++ line :: rest ∧ Body allWords Limit.mostContainers front ps ∧
      line ≠ [] ∧ readAssignment (number + front.length) line = .error f := by
  induction body generalizing number
  case nil =>
    constructor
    case mp => exact nofun
    case mpr =>
      rintro ⟨front, line, rest, -, none, -⟩
      exact absurd none.symm (List.append_ne_nil_of_right_ne_nil _ (List.cons_ne_nil _ _))
  case cons first behind ih =>
    have shifted (front : List Text) : number + 1 + front.length = number + (front.length + 1) := by omega
    constructor
    case mp =>
      intro h
      by_cases empty : first = []
      case pos =>
        subst empty
        obtain ⟨front, line, rest, ps, rfl, body, more, error⟩ := ih.mp h
        exact ⟨[] :: front, line, rest, ps, rfl, .empty body, more, shifted front ▸ error⟩
      case neg =>
        rw [readAssignments_cons empty, Except.bind_eq_error_iff] at h
        obtain error | ⟨_, one, h⟩ := h
        · exact ⟨[], first, behind, [], rfl, .nil, empty, error⟩
        · obtain ⟨p, rfl, assigns⟩ := readAssignment_eq_ok_iff.mp one
          obtain error | ⟨_, -, error⟩ := Except.bind_eq_error_iff.mp h
          · obtain ⟨front, line, rest, ps, rfl, body, more, error⟩ := ih.mp error
            exact ⟨first :: front, line, rest, p :: ps, rfl, .assignment assigns body, more, shifted front ▸ error⟩
          · cases error
    case mpr =>
      rintro ⟨front, line, rest, ps, same, body, more, error⟩
      cases body
      case nil =>
        obtain ⟨rfl, rfl⟩ := List.cons_eq_cons.mp same
        rw [readAssignments_cons more]
        exact Except.bind_eq_error_iff.mpr (.inl error)
      case empty front body =>
        obtain ⟨rfl, rfl⟩ := List.cons_eq_cons.mp same
        exact ih.mpr ⟨front, line, rest, ps, rfl, body, more, shifted front ▸ error⟩
      case assignment p front ps assigns body =>
        obtain ⟨rfl, others⟩ := List.cons_eq_cons.mp same
        have one : readAssignment number first = .ok (field p) :=
          readAssignment_eq_ok_iff.mpr ⟨p, rfl, assigns⟩
        have behind : readAssignments (number + 1) behind = .error f :=
          ih.mpr ⟨front, line, rest, ps, others, body, more, shifted front ▸ error⟩
        rw [readAssignments_cons assigns.ne_nil, one, behind]
        rfl

theorem readAssignments_eq_beyond_iff : readAssignments number body = .error (.beyond l) ↔
    ∃ front line rest ps, body = front ++ line :: rest ∧ Body allWords Limit.mostContainers front ps ∧
      Overruns l line := by
  rw [readAssignments_eq_error_iff]
  simp only [readAssignment_eq_beyond_iff]
  constructor
  case mp =>
    rintro ⟨front, line, rest, ps, same, body, -, overruns⟩
    exact ⟨front, line, rest, ps, same, body, overruns⟩
  case mpr =>
    rintro ⟨front, line, rest, ps, same, body, overruns⟩
    exact ⟨front, line, rest, ps, same, body, overruns.ne_nil, overruns⟩

theorem read_of_not_laid (h : ¬∃ body, Laid t body) : read t = .error .notScript := by
  unfold read
  split
  case h_1 first rest second others cut =>
    split
    case isTrue ends =>
      obtain ⟨rfl, last⟩ := ends
      have whole := List.dropLast_append_getLast? _ last
      exact absurd ⟨_, laid_iff.mpr (by rw [cut, List.cons_append, whole])⟩ h
    case isFalse => rfl
  case h_2 => rfl

theorem keys_map_field (ps : List (Text × List Json)) : Keyed.keys (ps.map field) = Keyed.keys ps := by
  simp [Keyed.keys, field]

-- What is collected from assignments is what is left when they are made one after the other.
theorem collects_ofPairs (ps : List (Text × List Json)) : Collects ps (Keyed.ofPairs (ps.map field)) where
  libraries := by
    rw [Keyed.keys_ofPairs, keys_map_field]
    rfl
  last := by
    rintro front library items back rfl last
    have behind : library ∉ Keyed.keys (back.map field) := keys_map_field back ▸ last
    rw [List.map_append, List.map_cons]
    exact Keyed.get?_ofPairs_of_last behind _ _

theorem Collects.unique (h : Collects ps fields) (h' : Collects ps fields') (nodup : fields.keys.Nodup) :
    fields = fields' := by
  apply Keyed.eq_of_keys_of_get? nodup
  case keys => exact h.libraries.trans h'.libraries.symm
  case values =>
    intro library mem
    rw [h.libraries, List.mem_eraseDups] at mem
    obtain ⟨front, items, back, split, last⟩ := Keyed.exists_last_of_mem_keys mem
    exact (h.last split last).trans (h'.last split last).symm

theorem collects_iff : Collects ps fields ↔ fields = Keyed.ofPairs (ps.map field) := by
  constructor
  case mp => exact fun h => ((collects_ofPairs ps).unique h (Keyed.nodup_keys_ofPairs _)).symm
  case mpr =>
    rintro rfl
    exact collects_ofPairs ps

theorem read_eq_ok_iff : read t = .ok fields ↔
    ∃ ps, Follows allWords Limit.mostContainers t ps ∧ Collects ps fields := by
  simp only [collects_iff]
  constructor
  case mp =>
    intro h
    by_cases laid : ∃ body, Laid t body
    case neg => cases (read_of_not_laid laid).symm.trans h
    case pos =>
      obtain ⟨body, laid⟩ := laid
      rw [read_of_laid laid] at h
      obtain ⟨_, assigned, h⟩ := Except.bind_eq_ok_iff.mp h
      obtain ⟨ps, rfl, assigns⟩ := readAssignments_eq_ok_iff.mp assigned
      cases h
      exact ⟨ps, ⟨body, laid, assigns⟩, rfl⟩
  case mpr =>
    rintro ⟨ps, ⟨body, laid, assigns⟩, rfl⟩
    have assigned : readAssignments 2 body = .ok (ps.map field) :=
      readAssignments_eq_ok_iff.mpr ⟨ps, rfl, assigns⟩
    rw [read_of_laid laid, assigned]
    rfl

theorem read_eq_beyond_iff : read t = .error (.beyond l) ↔ GoesBeyond l t := by
  constructor
  case mp =>
    intro h
    by_cases laid : ∃ body, Laid t body
    case neg => cases (read_of_not_laid laid).symm.trans h
    case pos =>
      obtain ⟨body, laid⟩ := laid
      rw [read_of_laid laid] at h
      obtain error | ⟨_, -, error⟩ := Except.bind_eq_error_iff.mp h
      · obtain ⟨front, line, rest, ps, rfl, assigns, overruns⟩ := readAssignments_eq_beyond_iff.mp error
        exact ⟨front, line, rest, ps, laid, assigns, overruns⟩
      · cases error
  case mpr =>
    rintro ⟨front, line, rest, ps, laid, assigns, overruns⟩
    have error : readAssignments 2 (front ++ line :: rest) = .error (.beyond l) :=
      readAssignments_eq_beyond_iff.mpr ⟨front, line, rest, ps, rfl, assigns, overruns⟩
    rw [read_of_laid laid, error]
    rfl

theorem Collects.exists_array (h : Collects ps fields) (mem : p ∈ fields) : ∃ items, p.2 = .array items := by
  rw [collects_iff.mp h] at mem
  obtain ⟨q, -, rfl⟩ := List.mem_map.mp (Keyed.mem_of_mem_ofPairs mem)
  exact ⟨q.2, rfl⟩

-- A script is read just if its lines assign arrays to libraries in the grammar, and then each library has
-- the array of its last line, at the place of its first one. A script is refused for going beyond a limit
-- just if its first line that assigns nothing does so; every other one is not well formed. The limit of depth is that
-- of one depth of calls.
theorem read_recognizes (t : Text) :
    ((∃ fields, read t = .ok fields) ↔ ∃ ps, Follows allWords Limit.mostContainers t ps) ∧
    (∀ fields, read t = .ok fields ↔
      (∃ ps, Follows allWords Limit.mostContainers t ps ∧ Collects ps fields) ∧
      ∀ p ∈ fields, ∃ items, p.2 = .array items) ∧
    ∀ l, read t = .error (.beyond l) ↔ GoesBeyond l t := by
  refine ⟨?succeeds, ?result, ?beyond⟩
  case succeeds =>
    simp only [read_eq_ok_iff]
    constructor
    case mp  => exact fun ⟨_, ps, follows, _⟩ => ⟨ps, follows⟩
    case mpr => exact fun ⟨ps, follows⟩ => ⟨_, ps, follows, collects_ofPairs ps⟩
  case result =>
    intro fields
    rw [read_eq_ok_iff]
    constructor
    case mp =>
      intro all
      obtain ⟨ps, follows, collects⟩ := all
      exact ⟨⟨ps, follows, collects⟩, fun _ => collects.exists_array⟩
    case mpr => exact And.left
  case beyond => exact fun l => read_eq_beyond_iff

-- A script of one line.
def single (line : Text) : Text :=
  Text.join "\n" (prologue :: [line] ++ [epilogue])

theorem laid_single (hk : Code.char '\n' ∉ key) (hv : Code.char '\n' ∉ value) :
    Laid (single (statement key value)) [statement key value] :=
  laid_join (List.forall_mem_singleton.mpr (bare_statement hk hv))

-- In the standard, a line with a capital letter in its array assigns nothing.
theorem not_follows_of_letter (laid : Laid t [line]) (hs : splitAssignment? line = some (key, value))
    (letter : Code.char 'N' ∈ value) (unquoted : Code.char '"' ∉ value) :
    ¬∃ n ps, Follows Json.standardWords n t ps := by
  rintro ⟨n, ps, body, laid', assigned⟩
  obtain rfl : body = [line] := laid'.unique laid
  cases assigned
  case empty => cases hs
  case assignment assigns _ =>
    cases assigns with | statement hk spells =>
      obtain ⟨inside, guarded, rfl⟩ := SpellsText.exists_inside hk
      obtain ⟨inner, rfl⟩ := (spells.of_standard (Nat.le_refl _)).exists_inner
      have split := splitAssignment?_eq_some_iff.mpr ⟨inside, inner, guarded, rfl, rfl, rfl⟩
      cases split.symm.trans hs
      exact unquoted (spells.quote_mem letter)

theorem spellsText_a : SpellsText "\"a\"" "a" :=
  .quoted (.plain (by decide) (by decide) (by decide) .nil)

-- The limit for containers refuses what the grammar has, and the names of numbers are not in the standard.
theorem read_differs_from_standard :
    let deep := single (statement "\"a\"" (Json.nested 3000))
    let broken := single (statement "\"a\"" (Json.unclosed 3000))
    let named := single (statement "\"a\"" "[NaN]")
    ((∃ n ps, Follows Json.standardWords n deep ps) ∧ read deep = .error (.beyond .depth)) ∧
    (¬(∃ n ps, Follows Json.standardWords n broken ps) ∧ read broken = .error (.beyond .depth)) ∧
    ¬(∃ n ps, Follows Json.standardWords n named ps) ∧ read named = .ok [("a", .array [.float .nan])] := by
  intro deep broken named
  have key : Code.char '\n' ∉ ("\"a\"" : Text) := by decide
  have beyond {t inner} (laid : Laid t [statement "\"a\"" ("[" ++ inner ++ "]")])
      (exceeds : Json.Exceeds .depth ("[" ++ inner ++ "]")) : read t = .error (.beyond .depth) :=
    read_eq_beyond_iff.mpr ⟨[], _, [], [], laid, .nil, .statement spellsText_a exceeds⟩
  refine ⟨?deep, ?broken, ?named⟩
  case deep =>
    have value : Code.char '\n' ∉ Json.nested 3000 := by
      simp only [Json.nested, List.mem_append, List.mem_replicate]
      decide
    have laid : Laid deep _ := laid_single key value
    have exceeds : Json.Exceeds .depth (Json.nested 3000) := Json.exceeds_of_brackets (by decide) _
    obtain ⟨items, spells⟩ := Json.exists_spells_nested 2999
    refine ⟨⟨3000, [("a", items)], _, laid, .assignment (.statement spellsText_a spells) .nil⟩, ?_⟩
    rw [Json.nested_succ] at laid exceeds
    exact beyond laid exceeds
  case broken =>
    have value : Code.char '\n' ∉ Json.unclosed 3000 ∧ Code.char '"' ∉ Json.unclosed 3000 := by
      simp only [Json.unclosed, List.mem_append, List.mem_replicate]
      decide
    have letter : Code.char 'N' ∈ Json.unclosed 3000 := List.mem_append_right _ (by decide)
    have laid : Laid broken _ := laid_single key value.left
    have exceeds : Json.Exceeds .depth (Json.unclosed 3000) := Json.exceeds_of_brackets (by decide) _
    have split : splitAssignment? (statement "\"a\"" (Json.unclosed 3000)) =
        some (("\"a\"" : Text), Json.unclosed 3000) :=
      splitAssignment?_eq_some_iff.mpr
        ⟨"a", _, .plain (by decide) (by decide) .nil, rfl, Json.unclosed_succ 2999, rfl⟩
    refine ⟨not_follows_of_letter laid split letter value.right, ?_⟩
    rw [Json.unclosed_succ] at laid exceeds
    exact beyond laid exceeds
  case named =>
    have laid : Laid named _ := laid_single key (by decide)
    refine ⟨not_follows_of_letter laid rfl (by decide) (by decide), ?_⟩
    rw [read_of_laid laid]
    rfl

end Script
end TraitCatalog

import TraitCatalog.Proofs.Json.Outside
import TraitCatalog.Proofs.Payload.Script

namespace TraitCatalog
namespace Script

open Json (SpellsText standardWords)

-- A line has one key, whatever is assigned to it.
theorem statement_injective (hk : SpellsText key library) (hk' : SpellsText key' library')
    (h : statement key value = statement key' value') : key = key' ∧ value = value' := by
  obtain ⟨inside, guarded, rfl⟩ := SpellsText.exists_inside hk
  obtain ⟨inside', guarded', rfl⟩ := SpellsText.exists_inside hk'
  simp only [statement, List.append_assoc, List.cons_append, List.nil_append, List.append_cancel_left_eq,
    List.cons.injEq, true_and] at h
  have cut := congrArg splitAtQuote h
  rw [splitAtQuote_append guarded, splitAtQuote_append guarded', Option.some.injEq, Prod.mk.injEq] at cut
  obtain ⟨rfl, behind⟩ := cut
  exact ⟨rfl, List.append_cancel_right (List.append_cancel_left behind)⟩

-- A line that assigns an array to a library and does nothing else.
structure OnlyAssigns (line : Text) (p : Text × List Json) : Prop where
  assigns : Assigns standardWords 3 line p
  -- There is one way to find an assignment in it.
  cut : ∃! parts : Text × Text, line = statement parts.1 parts.2 ∧ ∃ library, SpellsText parts.1 library
  -- Its strings apart, it is the line for a library and an array without texts.
  outside : Json.outside line = assignment [] (Json.array p.2).hollow
  -- Its strings apart, it has a semicolon at its end and no other one.
  ends : ∃ front, Json.outside line = front ++ ";" ∧ .char ';' ∉ front

theorem leaves_assigned (library : Text) (h : Json.Plain n v) :
    Json.Leaves ("implementors[" ++ Json.writeString library ++ "] = " ++ v.compact)
      ("implementors[" ++ Json.writeString [] ++ "] = " ++ v.hollow.compact) := by
  have name := Json.leaves_of_forall "implementors[" (by decide)
  have equals := Json.leaves_of_forall "] = " (by decide)
  have key := (Json.spellsText_writeString library).leaves
  exact ((name.append key).append equals).append (Json.woven_write h 0).leaves

theorem onlyAssigns_assignment (library : Text) (ds : List Implementor) :
    OnlyAssigns (assignment library (.array (ds.map Implementor.toJson))) (library, ds.map Implementor.toJson) := by
  have plain := Catalog.plain_library ds
  have key := Json.spellsText_writeString library
  have leaves := leaves_assigned library plain
  have outside := leaves.whole ";"
  refine ⟨.statement key (Json.spells_write .compact 0 plain), ?cut, outside, _, outside, leaves.unended⟩
  case cut =>
    refine ⟨(Json.writeString library, _), ⟨rfl, library, key⟩, ?_⟩
    rintro ⟨key', value'⟩ ⟨same, library', hk'⟩
    obtain ⟨rfl, rfl⟩ := statement_injective key hk' same
    rfl

variable (c : Catalog)

-- Cutting the script at its line feeds gives back its lines.
theorem splitOn_render : (render c).splitOn (.char '\n') = prologue :: assignments c ++ [epilogue] := by
  refine List.splitOn_intercalate (Code.char '\n') ?_ (List.cons_ne_nil _ _)
  intro line hl
  rw [List.mem_append, List.mem_cons, List.mem_singleton] at hl
  obtain (rfl | hl) | rfl := hl
  · exact bare_prologue.whole
  · exact (bare_assignments hl).whole
  · exact bare_epilogue.whole

theorem count_feed_render : (render c).count (.char '\n') = c.entries.length + 1 := by
  have lines := Text.length_splitOn (.char '\n') (render c)
  rw [splitOn_render] at lines
  simpa [assignments, Catalog.toFields, Keyed.mapValues] using lines.symm

-- The script of a catalog has a line for each library, and there is nothing on it but the assignment of its
-- implementors, whatever the texts in the catalog are.
theorem render_contained :
    (render c).count (.char '\n') = c.entries.length + 1 ∧
    (∀ x ∈ render c, x ≠ .char '\n' → 0x20 ≤ x.toNat) ∧
    ∃ body, (render c).splitOn (.char '\n') = prologue :: body ++ [epilogue] ∧
      List.Forall₂ (fun line p => OnlyAssigns line (p.1, p.2.map Implementor.toJson)) body c.entries := by
  refine ⟨count_feed_render c, fun x hx feed => (isPrinted_of_mem_render hx).resolve_left feed,
    assignments c, splitOn_render c, ?_⟩
  rw [assignments, Catalog.toFields, Keyed.mapValues, List.map_map, List.forall₂_map_left_iff, List.forall₂_same]
  exact fun p _ => onlyAssigns_assignment p.1 p.2

end Script
end TraitCatalog

import TraitCatalog.Payload.Loading
import TraitCatalog.Proofs.Catalog.Rebuilt
import TraitCatalog.Proofs.Payload.Assignment
import TraitCatalog.Proofs.Payload.Lines
import TraitCatalog.Proofs.Text.Encodable

namespace TraitCatalog

-- An implementor is an object with a text, a truth value and a list of texts.
theorem Implementor.plain_toJson (d : Implementor) : Json.Plain 2 d.toJson := by
  have keys : (["text", "synthetic", "types"] : List Text).Nodup := by decide
  refine .object keys ?_
  simp only [toFields, List.forall_mem_cons, List.not_mem_nil, false_implies, implies_true, and_true]
  refine ⟨.string, .bool, .array ?_⟩
  simp only [List.forall_mem_map]
  exact fun t _ => .string

theorem Catalog.plain_library (ds : List Implementor) :
    Json.Plain 3 (.array (ds.map Implementor.toJson)) :=
  .array (by simpa using fun d _ => d.plain_toJson)

namespace Script

-- The lines between the first and the last one.
def assignments (c : Catalog) : List Text :=
  c.toFields.map fun (l, v) => assignment l v

theorem exists_mem_assignments (h : line ∈ assignments c) :
    ∃ library, ∃ ds : List Implementor, line = assignment library (.array (ds.map Implementor.toJson)) := by
  simp only [assignments, Catalog.toFields, Keyed.mapValues, List.map_map, List.mem_map] at h
  obtain ⟨p, -, rfl⟩ := h
  exact ⟨p.1, p.2, rfl⟩

theorem bare_assignments (h : line ∈ assignments c) : Bare line := by
  obtain ⟨library, ds, rfl⟩ := exists_mem_assignments h
  apply bare_statement
  case hk =>
    intro feed
    have printed : 0x20 ≤ 0x0A := Json.not_control_of_mem_writeString feed
    exact absurd printed (by decide)
  case hv =>
    intro feed
    have printed : 0x20 ≤ 0x0A := Json.isPrinted_write (Catalog.plain_library ds) 0 feed
    exact absurd printed (by decide)

-- Apart from the line feeds between the lines, no control character stands in a script.
theorem isPrinted_of_mem_render {c : Catalog} (h : x ∈ render c) : x = .char '\n' ∨ Json.IsPrinted x := by
  obtain feed | ⟨line, hl, h⟩ := Text.mem_join h
  case inl => exact .inl (List.mem_singleton.mp feed)
  case inr =>
    rw [List.mem_append, List.mem_cons, List.mem_singleton] at hl
    obtain (rfl | hl) | rfl := hl
    · exact .inr (Json.isPrinted_of_mem _ (by decide) h)
    · obtain ⟨library, ds, rfl⟩ := exists_mem_assignments hl
      exact .inr (isPrinted_assignment (Catalog.plain_library ds) h)
    · obtain h | h := List.mem_append.mp h
      · exact .inr (Json.isPrinted_of_mem _ (by decide) h)
      · exact .inr (Json.isPrinted_of_mem _ (by decide) h)

theorem laid_render (c : Catalog) : Laid (render c) (assignments c) :=
  laid_join fun _ => bare_assignments

theorem readAssignments_cons (h : line ≠ []) (number : Nat) (rest : List Text) :
    readAssignments number (line :: rest) = do
      let a ← readAssignment number line
      return a :: (← readAssignments (number + 1) rest) := by
  cases line
  case nil  => contradiction
  case cons => rfl

theorem readAssignments_assignments (c : Catalog) (number : Nat) :
    readAssignments number (assignments c) = .ok c.toFields := by
  unfold assignments Catalog.toFields Keyed.mapValues
  induction c.entries generalizing number
  case nil => rfl
  case cons p entries ih =>
    have hne : assignment p.1 (.array (p.2.map Implementor.toJson)) ≠ [] := List.cons_ne_nil _ _
    have first := readAssignment_assignment p.1 (Catalog.plain_library p.2) (by decide) number
    simp only [List.map_cons, readAssignments_cons hne, first, ih, Except.ok_bind, Except.pure_eq_ok]

-- The lines between the first and the last one are read for assignments.
theorem read_of_laid (h : Laid t body) :
    read t = do return Keyed.ofPairs (← readAssignments 2 body) := by
  have ends : (body ++ [epilogue]).getLast? = some epilogue := by simp
  have between : (body ++ [epilogue]).dropLast = body := by simp
  obtain ⟨second, others, cut⟩ := List.exists_cons_of_ne_nil (show body ++ [epilogue] ≠ [] by simp)
  rw [read, laid_iff.mp h, List.cons_append, cut]
  simp only [← cut, ends, between, and_self, if_true]

-- A script gives back the data that it was written from.
theorem read_render_eq (c : Catalog) : read (render c) = .ok c.toFields := by
  have nodup : c.toFields.keys.Nodup := by
    rw [Catalog.toFields, Keyed.keys_mapValues]
    exact c.nodup_keys
  simp only [read_of_laid (laid_render c), readAssignments_assignments, Except.ok_bind,
    Except.pure_eq_ok, Keyed.ofPairs_of_nodup nodup]

-- Reading the script of a catalog gives its data in the same order, building from that gives the same
-- catalog, and the same script is written for it.
theorem render_round_trip (c : Catalog) (context : Text) :
    Payload.read context (render c) .script = .ok c.toFields ∧
    ∃ d, Payload.scriptCatalog context (render c) = .ok d ∧ d.entries = c.entries ∧
      render d = render c := by
  have data : Payload.read context (render c) .script = .ok c.toFields := by
    simp [Payload.read, read_render_eq]
  refine ⟨data, c, ?_, rfl, rfl⟩
  simp [Payload.scriptCatalog, data, Catalog.ofFields_toFields]

end Script
end TraitCatalog

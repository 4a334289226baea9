import TraitCatalog.Proofs.Catalog.Built

namespace TraitCatalog

theorem Implementor.describedBy_toFields (d : Implementor) : d.DescribedBy d.toFields where
  text      := rfl
  synthetic := rfl
  types     := rfl

theorem Implementor.ofFields_toFields (context : Text) (d : Implementor) :
    ofFields context d.toFields = .ok d :=
  (ofFields_eq_ok_iff context).mpr d.describedBy_toFields

namespace Catalog

theorem library_toFields (context : Text) (p : Text × List Implementor) :
    ofFields.library context (p.1, .array (p.2.map Implementor.toJson)) = .ok p := by
  have items : (p.2.map Implementor.toJson).zipIdx.mapM (ofFields.implementor context p.1) =
      .ok p.2 := by
    rw [List.zipIdx_map, List.mapM_map, Except.mapM_eq_ok_of_forall (g := Prod.fst)]
    · simp
    · exact fun d _ => Implementor.ofFields_toFields _ d.1
  rw [ofFields.library, Json.expectArray, Except.ok_bind, items]
  rfl

theorem ofFields_toFields (context : Text) (c : Catalog) : ofFields context c.toFields = .ok c := by
  have libraries : c.toFields.mapM (ofFields.library context) = .ok c.entries := by
    rw [toFields, Keyed.mapValues, List.mapM_map, Except.mapM_eq_ok_of_forall (g := id)]
    · simp
    · exact fun p _ => library_toFields context p
  have same : ofPairs c.entries = c := by
    simp [ofPairs, Keyed.ofPairs_of_nodup c.nodup_keys]
  simp [ofFields, libraries, same]

end Catalog
end TraitCatalog

import TraitCatalog.Payload.Loading
import TraitCatalog.Proofs.Schema.Bundled

namespace TraitCatalog

-- No implementor that stands in `v` has fields other than its own ones.
def Json.HasNoExtraKeys (v : Json) : Prop :=
  ∀ libraries : Keyed Json, v = .object libraries → ∀ p ∈ libraries, ∀ items, p.2 = .array items →
    ∀ fields : Keyed Json, .object fields ∈ items →
      ∀ key ∈ fields.keys, key ∈ (["text", "synthetic", "types"] : List Text)

theorem Catalog.exists_ofJson_iff {v : Json} (context : Text) :
    (∃ c, ofJson context v = .ok c) ↔ ∃ libraries : Keyed Json, v = .object libraries ∧
      ∀ p ∈ libraries, ∃ items, p.2 = .array items ∧ ∀ item ∈ items, ∃ fields : Keyed Json,
        item = .object fields ∧ ∃ d : Implementor, d.DescribedBy fields := by
  simp only [← exists_ofFields_iff context, ofJson, Except.bind_eq_ok_iff,
    Json.expectObject_eq_ok_iff]
  constructor
  case mp  => exact fun ⟨c, fields, object, hc⟩ => ⟨fields, object, c, hc⟩
  case mpr => exact fun ⟨fields, object, c, hc⟩ => ⟨c, fields, object, hc⟩

theorem Schema.catalog_kept_iff {outside : Outside} {v : Json} (context : Text) :
    catalog.verdict outside v = .kept ↔ (∃ c, Catalog.ofJson context v = .ok c) ∧ v.HasNoExtraKeys := by
  rw [catalog_passes, Catalog.exists_ofJson_iff]
  constructor
  case mp =>
    rintro ⟨libraries, rfl, h⟩
    refine ⟨⟨libraries, rfl, fun p hp => ?built⟩, ?known⟩
    case built =>
      obtain ⟨items, array, h⟩ := h p hp
      refine ⟨items, array, fun item hi => ?_⟩
      obtain ⟨fields, object, described, -⟩ := h item hi
      exact ⟨fields, object, described⟩
    case known =>
      rintro _ ⟨⟩ p hp items array fields hi
      obtain ⟨items', array', h⟩ := h p hp
      cases array.symm.trans array'
      obtain ⟨fields', object, -, known⟩ := h _ hi
      cases object
      exact known
  case mpr =>
    rintro ⟨⟨libraries, rfl, h⟩, known⟩
    refine ⟨libraries, rfl, fun p hp => ?_⟩
    obtain ⟨items, array, h⟩ := h p hp
    refine ⟨items, array, fun item hi => ?_⟩
    obtain ⟨fields, rfl, described⟩ := h item hi
    exact ⟨fields, rfl, described, known libraries rfl p hp items array fields hi⟩

namespace Loader

-- A loader without a schema of its own, before or after it has come to validate.
def bundled (validates hasValidated : Bool) : Loader :=
  ⟨none, validates, if hasValidated then some Schema.catalog else none⟩

theorem new_eq_bundled (validates : Bool) : new none validates = bundled validates false := rfl

theorem schema_bundled (validates hasValidated : Bool) (tree : FileTree) :
    (bundled validates hasValidated).schema tree = .ok Schema.catalog := by
  cases hasValidated
  case false => rfl
  case true  => rfl

theorem validate_bundled_iff {validates hasValidated : Bool} {tree : FileTree} {v : Json}
    (source : Text) : (bundled validates hasValidated).validate tree source v = .ok ⟨⟩ ↔
      Schema.catalog.verdict tree.outside v = .kept := by
  rw [validate, schema_bundled, Except.ok_bind]
  cases Schema.catalog.verdict tree.outside v <;> simp

-- What is read from a file is checked only if the loader validates.
theorem loadFields_bundled_iff {validates hasValidated : Bool} {fields : Keyed Json} :
    (bundled validates hasValidated).loadFields tree path format = .ok fields ↔
      Payload.fieldsAt tree path (format.getD (.ofPath path)) = .ok fields ∧
        (validates = true → Schema.catalog.verdict tree.outside (.object fields) = .kept) := by
  rw [loadFields, Except.bind_eq_ok_iff]
  cases validates
  case false => simp [bundled]
  case true =>
    have checks : (bundled true hasValidated).validates = true := rfl
    simp only [checks, if_true, Except.bind_eq_ok_iff, forall_const]
    constructor
    case mp =>
      rintro ⟨_, read, ⟨⟩, kept, ⟨⟩⟩
      exact ⟨read, (validate_bundled_iff _).mp kept⟩
    case mpr =>
      rintro ⟨read, kept⟩
      exact ⟨fields, read, ⟨⟩, (validate_bundled_iff _).mpr kept, rfl⟩

theorem loadCatalog_eq_ok_iff {l : Loader} {c : Catalog} :
    l.loadCatalog tree path format = .ok c ↔
      ∃ fields, l.loadFields tree path format = .ok fields ∧
        Catalog.ofFields path.text fields = .ok c := by
  simp only [loadCatalog, Except.bind_eq_ok_iff, Except.mapError_eq_ok_iff]

-- A value keeps the schema if a catalog can be built from it and no implementor has a field too many.
-- So loaders with and without validation load the same catalogs from the files without such fields, and
-- what has passed the validation can always be built. What the schema says of a value is what its rules come to by
-- `Schema.verdict`.
theorem bundled_agrees (hasValidated hasValidated' : Bool) :
    (∀ outside context v, Schema.catalog.verdict outside v = .kept ↔
      (∃ c, Catalog.ofJson context v = .ok c) ∧ v.HasNoExtraKeys) ∧
    ∀ tree path format,
      (∀ c, (bundled true hasValidated).loadCatalog tree path format = .ok c ↔
        (bundled false hasValidated').loadCatalog tree path format = .ok c ∧
          ∀ fields, Payload.fieldsAt tree path (format.getD (.ofPath path)) = .ok fields →
            Json.HasNoExtraKeys (.object fields)) ∧
      ∀ fields, (bundled true hasValidated).loadFields tree path format = .ok fields →
        ∃ c, Catalog.ofFields path.text fields = .ok c := by
  refine ⟨fun _ context v => Schema.catalog_kept_iff context, fun tree path format => ⟨fun c => ?loads, ?validated⟩⟩
  case loads =>
    simp only [loadCatalog_eq_ok_iff, loadFields_bundled_iff, Schema.catalog_kept_iff path.text]
    constructor
    case mp =>
      rintro ⟨fields, ⟨read, kept⟩, built⟩
      refine ⟨⟨fields, ⟨read, nofun⟩, built⟩, fun fields' read' => ?_⟩
      cases read.symm.trans read'
      exact (kept trivial).right
    case mpr =>
      rintro ⟨⟨fields, ⟨read, -⟩, built⟩, known⟩
      exact ⟨fields, ⟨read, fun _ => ⟨⟨c, built⟩, known fields read⟩⟩, built⟩
  case validated =>
    intro fields loaded
    have kept := (loadFields_bundled_iff.mp loaded).right rfl
    exact ((Schema.catalog_kept_iff path.text).mp kept).left

end Loader
end TraitCatalog

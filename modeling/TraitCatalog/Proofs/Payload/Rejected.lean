import TraitCatalog.Payload.Loading
import TraitCatalog.Proofs.Except

namespace TraitCatalog
namespace Loader

-- A loader that validates finds the data in a file wanting, or has no schema to hold it against.
inductive Objects (l : Loader) (tree : FileTree) (source : Text) (v : Json) : LoadError → Prop
  | schema (broken : l.schema tree = .error e) : Objects l tree source v e
  | violation (schema : l.schema tree = .ok s) (broken : s.verdict tree.outside v = .broken violation) :
    Objects l tree source v (.violation source violation)
  | unanswered (schema : l.schema tree = .ok s) (fault : s.verdict tree.outside v = .unanswered f) :
    Objects l tree source v (.unusable f)

-- Why there is no catalog to be had from a file.
inductive Rejects (l : Loader) (tree : FileTree) (path : Path) (format : Option Format) : LoadError → Prop
  | unreadable (fault : tree.readText path = .error f) : Rejects l tree path format (.file path f)
  | unread (text : tree.readText path = .ok t)
    (fault : Payload.read path.text t (format.getD (.ofPath path)) = .error e) :
    Rejects l tree path format e
  | invalid (data : Payload.fieldsAt tree path (format.getD (.ofPath path)) = .ok fields)
    (validates : l.validates = true) (objects : l.Objects tree path.text (.object fields) e) :
    Rejects l tree path format e
  | flawed (data : l.loadFields tree path format = .ok fields)
    (flaw : Catalog.ofFields path.text fields = .error f) : Rejects l tree path format (.flaw f)

variable {l : Loader} {tree : FileTree} {path : Path} {format : Option Format} {e : LoadError}

theorem validate_eq_error_iff {source : Text} {v : Json} :
    l.validate tree source v = .error e ↔ l.Objects tree source v e := by
  constructor
  case mp =>
    intro h
    obtain broken | ⟨s, schema, h⟩ := Except.bind_eq_error_iff.mp h
    case inl => exact .schema broken
    case inr =>
      split at h <;> cases h
      case h_2 violation broken => exact .violation schema broken
      case h_3 fault unanswered => exact .unanswered schema unanswered
  case mpr =>
    intro h
    cases h
    case schema broken => exact Except.bind_eq_error_iff.mpr (.inl broken)
    case violation schema broken =>
      refine Except.bind_eq_error_iff.mpr (.inr ⟨_, schema, ?_⟩)
      simp only [broken]
      rfl
    case unanswered schema fault =>
      refine Except.bind_eq_error_iff.mpr (.inr ⟨_, schema, ?_⟩)
      simp only [fault]
      rfl

theorem fieldsAt_eq_error_iff {form : Format} : Payload.fieldsAt tree path form = .error e ↔
    (∃ f, tree.readText path = .error f ∧ .file path f = e) ∨
      ∃ t, tree.readText path = .ok t ∧ Payload.read path.text t form = .error e := by
  simp only [Payload.fieldsAt, Except.bind_eq_error_iff, Except.mapError_eq_error_iff,
    Except.mapError_eq_ok_iff]

theorem loadFields_eq_error_iff : l.loadFields tree path format = .error e ↔
    Payload.fieldsAt tree path (format.getD (.ofPath path)) = .error e ∨
      ∃ fields, Payload.fieldsAt tree path (format.getD (.ofPath path)) = .ok fields ∧
        l.validates = true ∧ l.Objects tree path.text (.object fields) e := by
  rw [loadFields, Except.bind_eq_error_iff]
  refine or_congr_right (exists_congr fun fields => and_congr_right fun _ => ?_)
  cases l.validates
  case false => simp
  case true  => simp [Except.bind_eq_error_iff, validate_eq_error_iff]

theorem loadCatalog_eq_error_iff :
    l.loadCatalog tree path format = .error e ↔ l.Rejects tree path format e := by
  simp only [loadCatalog, Except.mapError_eq_error_iff, Except.bind_eq_error_iff, loadFields_eq_error_iff,
    fieldsAt_eq_error_iff]
  constructor
  case mp =>
    rintro (((⟨f, fault, rfl⟩ | ⟨t, text, fault⟩) | ⟨fields, data, validates, objects⟩) |
      ⟨fields, data, f, flaw, rfl⟩)
    · exact .unreadable fault
    · exact .unread text fault
    · exact .invalid data validates objects
    · exact .flawed data flaw
  case mpr =>
    intro h
    cases h
    case unreadable f fault        => exact .inl (.inl (.inl ⟨f, fault, rfl⟩))
    case unread t text fault       => exact .inl (.inl (.inr ⟨t, text, fault⟩))
    case flawed fields f data flaw => exact .inr ⟨fields, data, f, flaw, rfl⟩
    case invalid fields data validates objects =>
      exact .inl (.inr ⟨fields, data, validates, objects⟩)

end Loader
end TraitCatalog

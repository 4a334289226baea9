import TraitCatalog.Command.Session
import TraitCatalog.Proofs.Catalog.Told
import TraitCatalog.Proofs.Payload.Rejected

namespace TraitCatalog

theorem FileTree.find_eq_error {tree : FileTree} (h : tree.find path = .error fault) : fault = .tooLong := by
  unfold find at h
  split at h <;> cases h
  rfl

theorem FileTree.readText_eq_missing_iff {tree : FileTree} :
    tree.readText path = .error .missing ↔ tree.find path = .ok none := by
  rw [readText]
  cases found : tree.find path
  case error fault => simp [find_eq_error found]
  case ok node =>
    cases node
    case none => simp
    case some n =>
      cases n
      case directory    => simp [contentOf]
      case file content => cases text : Text.ofUtf8? content <;> simp [contentOf, text]

namespace Violation

theorem s_mem_tooSmallWords (m : Measure) (least : Number) : .char 's' ∈ tooSmallWords m least := by
  unfold tooSmallWords
  cases least.same (.whole 1) <;> cases m <;> decide

theorem s_mem_tooLargeWords (m : Measure) (most : Number) : .char 's' ∈ tooLargeWords m most := by
  unfold tooLargeWords
  cases most.same (.whole 0) <;> cases m <;> decide

-- Every violation is told with an `s`.
theorem s_mem_message (v : Violation) : .char 's' ∈ v.message := by
  cases v
  case tooSmall v m least               => exact List.mem_append_right _ (s_mem_tooSmallWords m least)
  case tooLarge v m most                => exact List.mem_append_right _ (s_mem_tooLargeWords m most)
  case unevaluatedFields keys forbidden => cases forbidden <;> simp [message, Text.ofString]
  all_goals simp [message, Text.ofString]

end Violation

namespace Command

variable {s : Settings} {tree : FileTree} {path : Path} {e : LoadError} {r : Refusal}

-- The catalog in a file, in the form that is given, if one is.
def loadCatalogAs (s : Settings) (tree : FileTree) (path : Path) (format : Option Format) :
    Except Failure Catalog :=
  ((loader s).loadCatalog tree path format).mapError (loadFailure path)

theorem loadCatalogAs_none (s : Settings) (tree : FileTree) (path : Path) :
    loadCatalogAs s tree path none = loadCatalog s tree path := rfl

theorem loadCatalogAs_eq_error_iff : loadCatalogAs s tree path format = .error f ↔
    ∃ e, (loader s).Rejects tree path format e ∧ loadFailure path e = f := by
  simp only [loadCatalogAs, Except.mapError_eq_error_iff, Loader.loadCatalog_eq_error_iff]

-- A refusal is told in the words of what went wrong, unless a file is missing.
theorem eq_of_loadFailure (refused : loadFailure path e = .refused r) (found : ∀ file, e ≠ .file file .missing) :
    r = .rejected e := by
  unfold loadFailure at refused
  split at refused <;> cases refused
  case h_1 file => exact absurd rfl (found file)
  case h_7      => rfl

-- The fault is told behind the path, in words with a letter that is not in what is said of a payload that is not
-- found.
structure ToldOf (path : Path) (e : LoadError) : Prop where
  found : ∀ file, e ≠ .file file .missing
  told : ∃ words c, e.message = path.text ++ words ∧ c ∈ words ∧ c ∉ ("payload not found: " : Text)

theorem ToldOf.message_ne (told : ToldOf path e) (refused : loadFailure path e = .refused r) :
    r.message ≠ (Refusal.payloadNotFound path).message := by
  obtain ⟨found, words, c, told, mem, other⟩ := told
  rw [eq_of_loadFailure refused found]
  intro same
  have mixed : List.Perm (path.text ++ words) (path.text ++ "payload not found: ") :=
    (List.Perm.of_eq (told.symm.trans same)).trans List.perm_append_comm
  exact other (((List.perm_append_left_iff _).mp mixed).mem_iff.mp mem)

theorem toldOf_document (path : Path) (fault : Document.Fault) : ToldOf path (.document path.text fault) := by
  refine ⟨nofun, ?_⟩
  cases fault
  case malformed => exact ⟨_, .char 'e', List.append_assoc .., by decide, by decide⟩
  case notObject => exact ⟨_, .char 'e', rfl, by decide, by decide⟩
  case beyond l  => exact ⟨_, .char 'e', List.append_assoc .., by cases l <;> decide, by decide⟩

theorem toldOf_script (path : Path) (fault : Script.Fault) : ToldOf path (.script path.text fault) := by
  have numbered (n : Nat) (words : Text) : path.text ++ ":" ++ Text.ofNat n ++ words =
      path.text ++ (":" ++ Text.ofNat n ++ words) := by
    simp
  refine ⟨nofun, ?_⟩
  cases fault
  case notScript => exact ⟨_, .char 'e', rfl, by decide, by decide⟩
  case unexpectedStatement n =>
    exact ⟨_, .char 'e', numbered n _, List.mem_append_right _ (by decide), by decide⟩
  case malformedLiteral n =>
    exact ⟨_, .char 'e', numbered n _, List.mem_append_right _ (by decide), by decide⟩
  case beyond l => exact ⟨_, .char 'e', List.append_assoc .., by cases l <;> decide, by decide⟩

theorem toldOf_of_read {form : Format} (h : Payload.read path.text t form = .error e) : ToldOf path e := by
  cases form
  case json =>
    obtain ⟨fault, -, rfl⟩ := Except.mapError_eq_error_iff.mp h
    exact toldOf_document path fault
  case script =>
    obtain ⟨fault, -, rfl⟩ := Except.mapError_eq_error_iff.mp h
    exact toldOf_script path fault

theorem toldOf_violation (path : Path) (v : Violation) : ToldOf path (.violation path.text v) :=
  ⟨nofun, _, .char 's', List.append_assoc .., List.mem_append_right _ v.s_mem_message, by decide⟩

theorem toldOf_flaw (h : Catalog.ofFields path.text fields = .error flaw) : ToldOf path (.flaw flaw) := by
  obtain ⟨rest, place, shape, rfl⟩ := Catalog.isOf_of_ofFields h
  refine ⟨nofun, rest ++ (": expected '" ++ place ++ "' to be " ++ shape.words), .char 'x', ?_, ?_, by decide⟩
  · simp [LoadError.message, Flaw.message]
  · simp [Text.ofString]

theorem schema_eq_error_iff : (loader s).schema tree = .error e ↔
    ∃ directory, s.schemaRoot = some directory ∧
      Schema.readAt tree (directory.child Schema.fileName) = .error e := by
  cases root : s.schemaRoot <;> simp [loader, Loader.new, Loader.schema, root]

theorem readAt_eq_error_iff : Schema.readAt tree file = .error e ↔
    Schema.fieldsAt tree file = .error e ∨
      ∃ fields, Schema.fieldsAt tree file = .ok fields ∧ ∃ f, Schema.ofFields fields = .error f ∧ .unusable f = e := by
  simp only [Schema.readAt, Except.bind_eq_error_iff, Except.mapError_eq_error_iff]

theorem schemaFieldsAt_eq_error_iff : Schema.fieldsAt tree file = .error e ↔
    (∃ f, tree.readText file = .error f ∧ .file file f = e) ∨
      ∃ t, tree.readText file = .ok t ∧ ∃ fault, Document.read t = .error fault ∧ .schema file fault = e := by
  simp only [Schema.fieldsAt, Except.bind_eq_error_iff, Except.mapError_eq_error_iff,
    Except.mapError_eq_ok_iff]

-- A file to check the payload with is only asked for when the payload has been read.
inductive AsksFor (s : Settings) (tree : FileTree) (path : Path) (format : Option Format) : Path → Prop
  | own (data : Payload.fieldsAt tree path (format.getD (.ofPath path)) = .ok fields)
    (validates : s.validatesSchema = true) (root : s.schemaRoot = some directory) :
    AsksFor s tree path format (directory.child Schema.fileName)

-- Why it is said that the payload is not found.
inductive CalledMissing (s : Settings) (tree : FileTree) (path : Path) (format : Option Format) : Prop
  | payload (nothing : tree.find path = .ok none)
  | schema (asks : AsksFor s tree path format file) (nothing : tree.find file = .ok none)
  -- What is said of a schema that is no schema begins with its path, which can be anything.
  | namesake (asks : AsksFor s tree path format file) (broken : Schema.fieldsAt tree file = .error (.schema file fault))
    (within : ∀ l, fault ≠ .beyond l)
    (same : (LoadError.schema file fault).message = (Refusal.payloadNotFound path).message)

theorem calledMissing_of_schema (asks : AsksFor s tree path format file) (broken : Schema.readAt tree file = .error e)
    (refused : loadFailure path e = .refused r) (called : r.message = (Refusal.payloadNotFound path).message) :
    CalledMissing s tree path format := by
  obtain broken | ⟨_, -, f, -, rfl⟩ := readAt_eq_error_iff.mp broken
  case inr => cases refused
  case inl =>
    obtain ⟨f, unreadable, rfl⟩ | ⟨t, -, fault, -, rfl⟩ := schemaFieldsAt_eq_error_iff.mp broken
    case inl =>
      cases f <;> cases refused
      exact .schema asks (FileTree.readText_eq_missing_iff.mp unreadable)
    case inr =>
      refine .namesake asks broken ?_ ?_
      · rintro l rfl
        cases refused
      · rwa [eq_of_loadFailure refused nofun] at called

-- Nothing that is said of a payload that is there could be mistaken for that, but its schema has no name of its own
-- when it is missing.
theorem calledMissing_of_rejects (rejects : (loader s).Rejects tree path format e)
    (refused : loadFailure path e = .refused r) (called : r.message = (Refusal.payloadNotFound path).message) :
    CalledMissing s tree path format := by
  cases rejects
  case unreadable f fault =>
    cases f <;> cases refused
    exact .payload (FileTree.readText_eq_missing_iff.mp fault)
  case unread text fault         => exact absurd called ((toldOf_of_read fault).message_ne refused)
  case flawed fields f data flaw => exact absurd called ((toldOf_flaw flaw).message_ne refused)
  case invalid fields data validates objects =>
    cases objects
    case schema broken =>
      obtain ⟨directory, root, broken⟩ := schema_eq_error_iff.mp broken
      exact calledMissing_of_schema (.own data validates root) broken refused called
    case violation v _ _ => exact absurd called ((toldOf_violation path v).message_ne refused)
    case unanswered      => cases refused

theorem rejects_of_asksFor (asks : AsksFor s tree path format file) (broken : Schema.fieldsAt tree file = .error e) :
    (loader s).Rejects tree path format e := by
  cases asks with | own data validates root
  have broken := schema_eq_error_iff.mpr ⟨_, root, readAt_eq_error_iff.mpr (.inl broken)⟩
  exact .invalid data validates (.schema broken)

-- It is said that a payload is not found just if it or the schema to check it with is missing, or the schema has a
-- path that makes it seem so.
theorem calledMissing_iff :
    (∃ r, loadCatalogAs s tree path format = .error (.refused r) ∧
      r.message = "payload not found: " ++ path.text) ↔ CalledMissing s tree path format := by
  simp only [loadCatalogAs_eq_error_iff]
  constructor
  case mp =>
    rintro ⟨r, ⟨e, rejects, refused⟩, called⟩
    exact calledMissing_of_rejects rejects refused called
  case mpr =>
    rintro (nothing | ⟨asks, nothing⟩ | ⟨asks, broken, within, same⟩)
    case payload =>
      have unreadable := FileTree.readText_eq_missing_iff.mpr nothing
      exact ⟨_, ⟨_, .unreadable unreadable, rfl⟩, rfl⟩
    case schema =>
      have unreadable := FileTree.readText_eq_missing_iff.mpr nothing
      have broken := schemaFieldsAt_eq_error_iff.mpr (.inl ⟨_, unreadable, rfl⟩)
      exact ⟨_, ⟨_, rejects_of_asksFor asks broken, rfl⟩, rfl⟩
    case namesake fault =>
      refine ⟨.rejected (.schema _ fault), ⟨_, rejects_of_asksFor asks broken, ?_⟩, same⟩
      cases fault
      case beyond l => exact absurd rfl (within l)
      all_goals rfl

-- An empty payload that is to be checked with a schema that is not there.
def unschooled : FileTree :=
  ⟨[(⟨.above 0, ["p.json"]⟩, .file [0x7B, 0x7D])]⟩

theorem loadCatalog_misnamed :
    let s := { Settings.standard with schemaRoot := some (.ofText "schemas") }
    let path := Path.ofText "p.json"
    ∃ r, loadCatalog s unschooled path = .error (.refused r) ∧ r.message = "payload not found: " ++ path.text ∧
      unschooled.find path = .ok (some (.file [0x7B, 0x7D])) :=
  ⟨.payloadNotFound (.ofText "p.json"), rfl, rfl, rfl⟩

end Command
end TraitCatalog

import TraitCatalog.Proofs.Catalog.Checksum
import TraitCatalog.Proofs.Command.Validation
import TraitCatalog.Proofs.Files.Written
import TraitCatalog.Proofs.Payload.Agreement
import TraitCatalog.Proofs.Payload.Stored

namespace TraitCatalog

theorem Catalog.hasNoExtraKeys_toJson (c : Catalog) : c.toJson.HasNoExtraKeys := by
  rintro _ ⟨⟩ p hp items array fields object key hk
  obtain ⟨ds, hds⟩ := exists_mem_toFields hp
  cases hds.symm.trans array
  obtain ⟨d, -, hd⟩ := List.mem_map.mp object
  cases hd
  exact hk

theorem Catalog.toJson_kept (c : Catalog) (outside : Outside) :
    Schema.catalog.verdict outside c.toJson = .kept := by
  have built : Catalog.ofJson literalContext c.toJson = .ok c := by
    simp [ofJson, toJson, Json.expectObject, ofFields_toFields]
  exact (Schema.catalog_kept_iff literalContext).mpr ⟨⟨c, built⟩, c.hasNoExtraKeys_toJson⟩

-- A loader without a schema of its own loads a catalog from the data that was written for it.
theorem Loader.loadCatalog_of_fieldsAt {tree : FileTree} {path : Path} {c : Catalog}
    (validates hasValidated : Bool) (fields : Payload.fieldsAt tree path (.ofPath path) = .ok c.toFields) :
    (bundled validates hasValidated).loadCatalog tree path none = .ok c := by
  have loaded : (bundled validates hasValidated).loadFields tree path none = .ok c.toFields :=
    loadFields_bundled_iff.mpr ⟨fields, fun _ => c.toJson_kept _⟩
  exact loadCatalog_eq_ok_iff.mpr ⟨c.toFields, loaded, Catalog.ofFields_toFields _ c⟩

theorem Loader.loadCatalog_of_node {tree : FileTree} {path : Path} {c : Catalog}
    (validates hasValidated : Bool)
    (encoded : (Command.fileText (Payload.render c (.ofPath path)) (.ofPath path)).utf8? = some bytes)
    (node : tree.node path = .ok (.file bytes)) :
    (bundled validates hasValidated).loadCatalog tree path none = .ok c := by
  have text := FileTree.readText_of_node node encoded
  rw [Catalog.unifyNewlines_fileText] at text
  apply loadCatalog_of_fieldsAt
  simp [Payload.fieldsAt, text, Catalog.read_fileText]

-- A file can be written at the path.
def FileTree.Admits (tree : FileTree) (path : Path) : Prop :=
  (Change.run (Change.write path []) tree).1 = .ok ⟨⟩

theorem FileTree.Admits.exists_write {tree : FileTree} {path : Path} (h : tree.Admits path)
    (content : Bytes) : ∃ tree', Change.run (Change.write path content) tree = (.ok ⟨⟩, tree') := by
  rw [Admits, Change.run_write] at h
  rw [Change.run_write]
  split at h
  case h_1 => cases h
  case h_2 =>
    split at h
    case h_1 => cases h
    case h_2 => cases h
    case h_3 =>
      split at h
      case isTrue      => cases h
      case isFalse hp => exact ⟨_, if_neg hp⟩

namespace Command

-- Converts a payload into one file after the other, each one from the one before and in the form that
-- its suffix tells.
def convertAll (s : Settings) (path : Path) : List Path → Command Path
  | [] => return path
  | output :: outputs => do
    let _ ← render s path (.ofPath output) (some output)
    convertAll s output outputs

-- The outputs can be written, each one when it is its turn.
def Admits (s : Settings) (session : Session) (path : Path) : List Path → Prop
  | [] => True
  | output :: outputs =>
    session.tree.Admits output ∧
      Admits s (run (render s path (.ofPath output) (some output)) session).2 output outputs

variable {s : Settings} {session : Session} {path output : Path} {c : Catalog}

theorem loader_eq_bundled (h : s.schemaRoot = none) : loader s = .bundled s.validatesSchema false := by
  simp [loader, h, Loader.new_eq_bundled]

theorem loadCatalog_eq_ok_iff (h : s.schemaRoot = none) : loadCatalog s tree path = .ok c ↔
    (Loader.bundled s.validatesSchema false).loadCatalog tree path none = .ok c := by
  rw [loadCatalog, loader_eq_bundled h, Except.mapError_eq_ok_iff]

theorem run_catalogAt (loaded : loadCatalog s session.tree path = .ok c) :
    run (catalogAt s path) session = (.ok c, session) := by
  rw [catalogAt, run_get_bind, loaded]
  rfl

theorem run_catalogAt_error (unloaded : loadCatalog s session.tree path = .error f) :
    run (catalogAt s path) session = (.error f, session) := by
  rw [catalogAt, run_get_bind, unloaded]
  rfl

-- A text that is put into a file changes nothing but the files.
theorem run_writeText (path : Path) (t : Text) (session : Session) :
    run (writeText path t) session = match Change.run (Change.writeText path t) session.tree with
      | (.ok _, tree)        => (.ok ⟨⟩, { session with tree })
      | (.error fault, tree) => (.error (.file path fault), { session with tree }) := by
  rw [writeText, run_get_bind]
  cases Change.run (Change.writeText path t) session.tree with | mk result tree
  cases result <;> rfl

theorem run_render_of_loaded (loaded : loadCatalog s session.tree path = .ok c) (format : Format) (out : Path) :
    run (render s path format (some out)) session =
      match Change.run (Change.writeText out (fileText (Payload.render c format) format)) session.tree with
      | (.ok _, tree)        => (.ok (Payload.render c format), { session with tree })
      | (.error fault, tree) => (.error (.file out fault), { session with tree }) := by
  have put := run_writeText out (fileText (Payload.render c format) format) session
  cases written : Change.run (Change.writeText out (fileText (Payload.render c format) format)) session.tree
    with | mk result tree
  rw [written] at put
  rw [render, run_bind_ok (run_catalogAt loaded)]
  cases result
  case error => exact run_bind_error put
  case ok    => exact run_bind_ok put

-- A catalog that has a UTF-8 form is written to the output, from where it is loaded again.
theorem run_render (bundled : s.schemaRoot = none) (loaded : loadCatalog s session.tree path = .ok c)
    (encodable : c.IsEncodable) (admits : session.tree.Admits output) :
    ∃ tree, run (render s path (.ofPath output) (some output)) session =
        (.ok (Payload.render c (.ofPath output)), { session with tree }) ∧
      loadCatalog s tree output = .ok c := by
  obtain ⟨bytes, utf8⟩ := (encodable.fileText (.ofPath output)).exists_utf8?
  obtain ⟨tree, written⟩ := admits.exists_write bytes
  have again : loadCatalog s tree output = .ok c :=
    (loadCatalog_eq_ok_iff bundled).mpr
      (Loader.loadCatalog_of_node _ _ utf8 (Change.node_of_write written))
  refine ⟨tree, ?_, again⟩
  rw [run_render_of_loaded loaded, Change.run_writeText utf8, written]

theorem run_convertAll (bundled : s.schemaRoot = none) (encodable : c.IsEncodable)
    (loaded : loadCatalog s session.tree path = .ok c) (admits : Admits s session path outputs) :
    ∃ tree, run (convertAll s path outputs) session =
        (.ok (outputs.getLastD path), { session with tree }) ∧
      loadCatalog s tree (outputs.getLastD path) = .ok c := by
  induction outputs generalizing path session
  case nil => exact ⟨session.tree, rfl, loaded⟩
  case cons output outputs ih =>
    obtain ⟨first, others⟩ := admits
    obtain ⟨tree, rendered, again⟩ := run_render bundled loaded encodable first
    rw [rendered] at others
    have there : loadCatalog s ({ session with tree } : Session).tree output = .ok c := again
    obtain ⟨tree', converted, last⟩ := ih there others
    refine ⟨tree', ?converted, ?loaded⟩
    case converted => rw [convertAll, run_bind_ok rendered, converted, List.getLastD_cons]
    case loaded    => rwa [List.getLastD_cons]

-- The payload at the path is reported as good, for the catalog `c`. Nothing but the name of the path can still keep
-- the report from being put out.
structure Certifies (s : Settings) (session : Session) (path : Path) (c : Catalog) (summary : Text) :
    Prop where
  loaded   : loadCatalog s session.tree path = .ok c
  reported : run (validate s [path]) session = run (reportGood s path summary) session
  good     : (run (validate s [path]) session).1 = .ok true ↔
    (session.output.encoded = true → path.text.IsEncodable)

theorem certifies_of_loaded {summary : Text} (loaded : loadCatalog s session.tree path = .ok c)
    (summed : c.summary = .ok summary) : Certifies s session path c summary := by
  have reported : run (validate s [path]) session = run (reportGood s path summary) session := by
    rw [validate_singleton, run_validateOne loaded summed]
  refine ⟨loaded, reported, ?good⟩
  case good =>
    rw [reported]
    exact run_reportGood_eq_ok_iff s path (Catalog.isEncodable_summary summed)

-- What is reported as good is converted to either form, and to one file after the other, and is reported
-- with the same catalog and the same checksum there.
theorem validate_keeps (bundled : s.schemaRoot = none)
    (valid : (run (validate s [path]) session).1 = .ok true) :
    ∃ c summary, c.summary = .ok summary ∧ Certifies s session path c summary ∧
      (∀ format output, Format.ofPath output = format → session.tree.Admits output →
        ∃ tree, run (render s path format (some output)) session =
            (.ok (Payload.render c format), { session with tree }) ∧
          Certifies s { session with tree } output c summary) ∧
      ∀ outputs, Admits s session path outputs →
        ∃ tree, run (convertAll s path outputs) session =
            (.ok (outputs.getLastD path), { session with tree }) ∧
          Certifies s { session with tree } (outputs.getLastD path) c summary := by
  rw [validate_singleton] at valid
  obtain ⟨c, summary, loaded, summed⟩ := exists_of_validateOne valid
  have encodable := Catalog.exists_checksum_iff.mp (Catalog.exists_checksum_of_summary summed)
  refine ⟨c, summary, summed, certifies_of_loaded loaded summed, ?once, ?often⟩
  case once =>
    rintro _ output rfl admits
    obtain ⟨tree, rendered, again⟩ := run_render bundled loaded encodable admits
    exact ⟨tree, rendered, certifies_of_loaded again summed⟩
  case often =>
    intro outputs admits
    obtain ⟨tree, converted, again⟩ := run_convertAll bundled encodable loaded admits
    exact ⟨tree, converted, certifies_of_loaded again summed⟩

theorem loadCatalog_empty (json : Format.ofPath path = .json)
    (node : tree.node path = .ok (.file [0x7B, 0x7D, 0x0A])) : loadCatalog .standard tree path = .ok .empty := by
  have encoded : (fileText (Payload.render .empty .json) .json).utf8? = some [0x7B, 0x7D, 0x0A] := rfl
  exact (loadCatalog_eq_ok_iff rfl).mpr (Loader.loadCatalog_of_node true false (json ▸ encoded) node)

-- A session in which the file `empty.json` holds an empty catalog.
def Session.ofEmpty : Session :=
  .initial ⟨[(⟨.above 0, ["empty.json"]⟩, .file [0x7B, 0x7D, 0x0A])]⟩ ⟨none, true⟩ []

-- Quotes, a carriage return, a backslash and a letter beyond ASCII stand in this catalog, and its file spells and lays
-- it out in another way than it would be written.
def awkward : Catalog :=
  .ofPairs [("é", []), ("\"r\"", [⟨"R\r'\\", true, ["r::R"], by decide, by decide⟩])]

def awkwardText : Text :=
  "\x7b\"\\u00e9\": [],\r\n\"\\\"r\\\"\":[\x7b\"text\":\"R\\r'\\\\\",\"synthetic\":true,\"types\":[\"r::R\"]\x7d]\x7d"

-- A session in which the file `p.json` holds that catalog.
def Session.ofAwkward : Session :=
  .initial ⟨[(⟨.above 0, ["p.json"]⟩, .file (awkwardText.utf8?.getD []))]⟩ ⟨none, true⟩ []

theorem read_awkward : Json.read awkwardText.unifyNewlines = .ok (.object awkward.toFields) := by
  rfl

theorem loadCatalog_ofAwkward : loadCatalog .standard Session.ofAwkward.tree (.ofText "p.json") = .ok awkward := by
  have encoded : awkwardText.utf8? = some (awkwardText.utf8?.getD []) := by decide +kernel
  have text : Session.ofAwkward.tree.readText (.ofText "p.json") = .ok awkwardText.unifyNewlines :=
    FileTree.readText_of_node rfl encoded
  have fields : Payload.fieldsAt Session.ofAwkward.tree (.ofText "p.json") .json = .ok awkward.toFields := by
    rw [Payload.fieldsAt, text]
    simp only [Payload.read, Document.read, read_awkward, Except.mapError, Except.ok_bind]
  exact (loadCatalog_eq_ok_iff rfl).mpr (Loader.loadCatalog_of_fieldsAt _ _ fields)

theorem isEncodable_awkward : awkward.IsEncodable :=
  Catalog.isEncodable_of_texts (by decide)

theorem admits_ofAwkward : Admits .standard .ofAwkward (.ofText "p.json") [.ofText "é.js", .ofText "q.json"] := by
  have first : Session.ofAwkward.tree.Admits (.ofText "é.js") := by
    rfl
  refine ⟨first, ?second, trivial⟩
  case second =>
    obtain ⟨bytes, utf8⟩ := (isEncodable_awkward.fileText .script).exists_utf8?
    obtain ⟨tree, written⟩ := first.exists_write bytes
    have rendered := run_render_of_loaded loadCatalog_ofAwkward .script (.ofText "é.js")
    rw [Change.run_writeText utf8, written] at rendered
    have same : Format.ofPath (.ofText "é.js") = .script := rfl
    rw [same, rendered]
    cases written
    rfl

theorem validate_keeps_awkward :
    Settings.standard.schemaRoot = none ∧
    (run (validate .standard [.ofText "p.json"]) .ofAwkward).1 = .ok true ∧
    Admits .standard .ofAwkward (.ofText "p.json") [.ofText "é.js", .ofText "q.json"] ∧
    ∃ summary, awkward.summary = .ok summary ∧
      Certifies .standard .ofAwkward (.ofText "p.json") awkward summary ∧
      (∃ tree, run (render .standard (.ofText "p.json") .script (some (.ofText "é.js"))) .ofAwkward =
          (.ok (Payload.render awkward .script), { Session.ofAwkward with tree }) ∧
        Certifies .standard { Session.ofAwkward with tree } (.ofText "é.js") awkward summary) ∧
      ∃ tree, run (convertAll .standard (.ofText "p.json") [.ofText "é.js", .ofText "q.json"]) .ofAwkward =
          (.ok (.ofText "q.json"), { Session.ofAwkward with tree }) ∧
        Certifies .standard { Session.ofAwkward with tree } (.ofText "q.json") awkward summary := by
  have named : Text.IsEncodable (Path.text (.ofText "p.json")) := Text.isEncodable_ofString "p.json"
  obtain ⟨summary, summed⟩ := isEncodable_awkward.exists_summary
  have valid : (run (validate .standard [.ofText "p.json"]) .ofAwkward).1 = .ok true :=
    (certifies_of_loaded loadCatalog_ofAwkward summed).good.mpr fun _ => named
  obtain ⟨c, summary', summed', certified, once, often⟩ := validate_keeps rfl valid
  cases certified.loaded.symm.trans loadCatalog_ofAwkward
  obtain ⟨tree, rendered, again⟩ := once .script (.ofText "é.js") rfl admits_ofAwkward.left
  obtain ⟨tree', converted, last⟩ := often _ admits_ofAwkward
  exact ⟨rfl, valid, admits_ofAwkward, summary', summed', certified, ⟨tree, rendered, again⟩, tree', converted, last⟩

-- The name of this file is no text: it begins with the byte 80.
def straySuffixed : Path :=
  .ofText (.ofNat 0xDC80 :: ".js")

-- The payload is good and is written to that file, and the catalog is loaded again from there. But an output that
-- takes nothing without a UTF-8 form cannot be told of the file.
theorem validate_loses_name :
    (run (validate .standard [.ofText "empty.json"]) .ofEmpty).1 = .ok true ∧
    Format.ofPath straySuffixed = .script ∧ Session.ofEmpty.tree.Admits straySuffixed ∧
    ∃ tree, run (render .standard (.ofText "empty.json") .script (some straySuffixed)) .ofEmpty =
        (.ok (Payload.render .empty .script), { Session.ofEmpty with tree }) ∧
      loadCatalog .standard tree straySuffixed = .ok .empty ∧
      run (validate .standard [straySuffixed]) { Session.ofEmpty with tree } =
        (.error (.encode .loneSurrogate), { Session.ofEmpty with tree }) := by
  have loaded : loadCatalog .standard Session.ofEmpty.tree (.ofText "empty.json") = .ok .empty :=
    loadCatalog_empty rfl rfl
  have valid : (run (validate .standard [.ofText "empty.json"]) .ofEmpty).1 = .ok true :=
    (certifies_of_loaded loaded rfl).good.mpr fun _ => Text.isEncodable_ofString "empty.json"
  have admits : Session.ofEmpty.tree.Admits straySuffixed := by
    rfl
  obtain ⟨tree, rendered, again⟩ := run_render rfl loaded nofun admits
  refine ⟨valid, rfl, admits, tree, rendered, again, ?unshown⟩
  case unshown =>
    have unshown (summary : Text) : ¬Text.IsEncodable (straySuffixed.text ++ ": " ++ summary) := by
      intro whole
      obtain ⟨d, hd⟩ := whole (.ofNat 0xDC80) (List.mem_cons_self ..)
      cases hd
    have certified : Certifies .standard { Session.ofEmpty with tree } straySuffixed .empty _ :=
      certifies_of_loaded again rfl
    rw [certified.reported, reportGood, run_bind_error (run_report_unshown _ _ rfl (unshown _))]

end Command
end TraitCatalog

import TraitCatalog.Proofs.Catalog.Texts
import TraitCatalog.Proofs.Command.Survey
import TraitCatalog.Proofs.Files.Kept

namespace TraitCatalog
namespace Change

variable {tree tree' : FileTree} {path : Path} {t : Text}

-- A text that cannot be written takes something away only where a file could be written in its place.
theorem keeps_of_writeText_error (h : run (writeText path t) tree = (.error fault, tree'))
    (clear : tree.Admits path → t.IsEncodable) : tree.Keeps tree' := by
  cases encoded : t.utf8?
  case some bytes =>
    rw [run_writeText encoded] at h
    exact keeps_of_write_error h
  case none =>
    cases written : run (write path []) tree with | mk result tree₁
    cases result
    case error fault' =>
      have opened : run (write path (t.utf8?.getD [])) tree = (.error fault', tree₁) := by
        rw [encoded]
        exact written
      cases (run_writeText_error opened).symm.trans h
      exact keeps_of_write_error written
    case ok =>
      have admits : tree.Admits path := congrArg Prod.fst written
      have some := Text.isSome_utf8?_iff.mpr (clear admits)
      rw [encoded] at some
      cases some

theorem exists_run_writeText (unencodable : ¬t.IsEncodable) (admits : tree.Admits path) :
    ∃ tree', run (writeText path t) tree = (.error .unencodable, tree') ∧ tree.Rewrites tree' path [] := by
  obtain ⟨tree', written⟩ := admits.exists_write []
  have none : t.utf8? = none := by
    rw [← Option.not_isSome_iff_eq_none, Text.isSome_utf8?_iff]
    exact unencodable
  exact ⟨tree', run_writeText_unencodable none written, rewrites_of_write written⟩

end Change

namespace Command

-- The render comes to write to the output, but a text of the catalog has no UTF-8 form.
structure Empties (s : Settings) (session : Session) (path out : Path) : Prop where
  admits : session.tree.Admits out
  loaded : ∃ c, loadCatalog s session.tree path = .ok c ∧ ∃ t ∈ c.texts, ¬t.IsEncodable

variable {s : Settings} {session session' : Session} {path out : Path} {output : Option Path} {c : Catalog}

theorem run_render_of_unloaded (unloaded : loadCatalog s session.tree path = .error f) (format : Format)
    (output : Option Path) : run (render s path format output) session = (.error f, session) := by
  rw [render, run_bind_error (run_catalogAt_error unloaded)]

theorem isEncodable_of_not_empties (loaded : loadCatalog s session.tree path = .ok c)
    (clear : ¬Empties s session path out) (admits : session.tree.Admits out) : c.IsEncodable := by
  rw [Catalog.isEncodable_iff]
  intro t ht
  by_contra lone
  exact clear ⟨admits, c, loaded, t, ht, lone⟩

theorem keeps_of_render_error (failed : run (render s path format output) session = (.error f, session'))
    (clear : ∀ out, output = some out → ¬Empties s session path out) : session.tree.Keeps session'.tree := by
  cases loaded : loadCatalog s session.tree path
  case error e =>
    cases (run_render_of_unloaded loaded format output).symm.trans failed
    exact .refl _
  case ok c =>
    cases output
    case none =>
      have made : run (render s path format none) session = (.ok (Payload.render c format), session) := by
        rw [render, run_bind_ok (run_catalogAt loaded)]
        rfl
      cases made.symm.trans failed
    case some out =>
      rw [run_render_of_loaded loaded] at failed
      cases written : Change.run (Change.writeText out (fileText (Payload.render c format) format)) session.tree
        with | mk result tree
      rw [written] at failed
      cases result
      case ok => cases failed
      case error fault =>
        cases failed
        refine Change.keeps_of_writeText_error written fun admits => ?_
        exact (isEncodable_of_not_empties loaded (clear out rfl) admits).fileText format

theorem Empties.run_render (h : Empties s session path out) (format : Format) :
    ∃ tree, run (render s path format (some out)) session =
        (.error (.file out .unencodable), { session with tree }) ∧ session.tree.Rewrites tree out [] := by
  obtain ⟨c, loaded, t, ht, lone⟩ := h.loaded
  have unencodable : ¬(fileText (Payload.render c format) format).IsEncodable := by
    rw [Catalog.isEncodable_fileText_iff, Catalog.isEncodable_iff]
    exact fun all => lone (all t ht)
  obtain ⟨tree, written, rewrites⟩ := Change.exists_run_writeText unencodable h.admits
  refine ⟨tree, ?_, rewrites⟩
  rw [run_render_of_loaded loaded, written]

-- All files stay as they were when a render fails, unless its output is the one file that is emptied.
theorem render_fails_keeping (s : Settings) (session : Session) (path : Path) (format : Format)
    (output : Option Path) :
    (∀ f session', run (render s path format output) session = (.error f, session') →
      (∀ out, output = some out → ¬Empties s session path out) → session.tree.Keeps session'.tree) ∧
    ∀ out, output = some out → Empties s session path out →
      ∃ tree, run (render s path format output) session =
          (.error (.file out .unencodable), { session with tree }) ∧ session.tree.Rewrites tree out [] := by
  constructor
  case left => exact fun f session' failed clear => keeps_of_render_error failed clear
  case right =>
    rintro out rfl empties
    exact empties.run_render format

-- A catalog with one library, whose name is a lone surrogate.
def loneCatalog : Catalog :=
  .ofPairs [([.lone 0], [])]

-- A session in which the file `p.json` holds that catalog, with an escape for the name.
def Session.ofLone : Session :=
  .initial ⟨[(⟨.above 0, ["p.json"]⟩, .file [0x7B, 0x22, 0x5C, 0x75, 0x64, 0x38, 0x30, 0x30, 0x22, 0x3A,
    0x20, 0x5B, 0x5D, 0x7D])]⟩ ⟨none, true⟩ []

-- The escape alone stands for a high surrogate, which is held back until the quote behind it.
theorem read_loneCatalog : Json.read "\x7b\"\\ud800\": []\x7d" = .ok (.object loneCatalog.toFields) := by
  have name : ("\x7b\"\\ud800" : Text).foldlM Json.State.step .initial =
      .ok ⟨.keyText [] (.plain [] (some 0xD800)), []⟩ := by
    rfl
  have rest : ("\": []\x7d" : Text).foldlM Json.State.step ⟨.keyText [] (.plain [] (some 0xD800)), []⟩ =
      .ok ⟨.done (.object [([.lone 0], .array [])]), []⟩ := by
    rfl
  have whole : ("\x7b\"\\ud800\": []\x7d" : Text) = "\x7b\"\\ud800" ++ "\": []\x7d" := rfl
  rw [Json.read, whole, List.foldlM_append, name]
  exact congrArg (· >>= Json.State.finish) rest

theorem loadCatalog_ofLone :
    loadCatalog .standard Session.ofLone.tree (.ofText "p.json") = .ok loneCatalog := by
  have text : Session.ofLone.tree.readText (.ofText "p.json") = .ok "\x7b\"\\ud800\": []\x7d" := by
    rfl
  have fields : Payload.fieldsAt Session.ofLone.tree (.ofText "p.json") .json = .ok loneCatalog.toFields := by
    rw [Payload.fieldsAt, text]
    simp only [Payload.read, Document.read, read_loneCatalog, Except.mapError, Except.ok_bind]
  exact (loadCatalog_eq_ok_iff rfl).mpr (Loader.loadCatalog_of_fieldsAt _ _ fields)

theorem empties_ofLone : Empties .standard .ofLone (.ofText "p.json") (.ofText "p.json") where
  admits := by rfl
  loaded := ⟨loneCatalog, loadCatalog_ofLone, [.lone 0], by decide, by
    intro encodable
    obtain ⟨d, hd⟩ := encodable _ (List.mem_singleton.mpr rfl)
    cases hd⟩

-- A render of a payload that is missing keeps the file at its output, and one of the lone surrogate empties it.
theorem render_fails_keeping_ofLone :
    (∃ f session', run (render .standard (.ofText "q.json") .script (some (.ofText "p.json"))) .ofLone =
        (.error f, session') ∧ Session.ofLone.tree.Keeps session'.tree) ∧
    ∃ tree, run (render .standard (.ofText "p.json") .json (some (.ofText "p.json"))) .ofLone =
        (.error (.file (.ofText "p.json") .unencodable), { Session.ofLone with tree }) ∧
      Session.ofLone.tree.Rewrites tree (.ofText "p.json") [] := by
  have missing : Payload.fieldsAt Session.ofLone.tree (.ofText "q.json") (.ofPath (.ofText "q.json")) =
      .error (.file (.ofText "q.json") .missing) := by
    rfl
  have unloaded := loadCatalog_of_fieldsAt (s := .standard) missing
  have failed := run_render_of_unloaded unloaded .script (some (.ofText "p.json"))
  have clear : ∀ out, some (.ofText "p.json") = some out →
      ¬Empties .standard .ofLone (.ofText "q.json") out := by
    rintro out - empties
    obtain ⟨c, loaded, -⟩ := empties.loaded
    cases unloaded.symm.trans loaded
  have kept := (render_fails_keeping .standard .ofLone (.ofText "q.json") .script _).left _ _ failed clear
  have emptied := (render_fails_keeping .standard .ofLone (.ofText "p.json") .json _).right _ rfl empties_ofLone
  exact ⟨⟨_, _, failed, kept⟩, emptied⟩

-- The payload is lost that was to be written in its own place.
theorem render_emptied :
    ∃ tree, run (render .standard (.ofText "p.json") .json (some (.ofText "p.json"))) .ofLone =
        (.error (.file (.ofText "p.json") .unencodable), { Session.ofLone with tree }) ∧
      tree.node (.ofText "p.json") = .ok (.file []) ∧ ¬Session.ofLone.tree.Keeps tree := by
  have written : Change.run
      (Change.writeText (.ofText "p.json") (fileText (Payload.render loneCatalog .json) .json))
      Session.ofLone.tree = (.error .unencodable, ⟨[(⟨.above 0, ["p.json"]⟩, .file [])]⟩) := by
    rfl
  refine ⟨⟨[(⟨.above 0, ["p.json"]⟩, .file [])]⟩, ?rendered, rfl, fun keeps => ?lost⟩
  case rendered => rw [run_render_of_loaded loadCatalog_ofLone, written]
  case lost => nomatch keeps ⟨.above 0, ["p.json"]⟩ _ rfl

end Command
end TraitCatalog

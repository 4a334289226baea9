import TraitCatalog.Proofs.Command.Conversion
import TraitCatalog.Proofs.Payload.Recognized
import TraitCatalog.Proofs.Payload.Rejected
import TraitCatalog.Proofs.Schema.Answered

namespace TraitCatalog
namespace Payload

-- A text in the given form goes beyond a limit.
def GoesBeyond (l : Limit) (t : Text) : Format → Prop
  | .json   => Json.Exceeds l t
  | .script => Script.GoesBeyond l t

def beyond (context : Text) (l : Limit) : Format → LoadError
  | .json   => .document context (.beyond l)
  | .script => .script context (.beyond l)

theorem read_of_goesBeyond (h : GoesBeyond l t format) (context : Text) :
    read context t format = .error (beyond context l format) := by
  cases format
  case json =>
    have error := Json.read_eq_beyond_iff.mpr h
    rw [read, Document.read, error]
    rfl
  case script =>
    have error := Script.read_eq_beyond_iff.mpr h
    rw [read, error]
    rfl

end Payload

namespace Command

-- What is refused is told to the user.
def IsTold (path : Path) (e : LoadError) : Prop :=
  ∃ r, loadFailure path e = .refused r

theorem goesBeyond_or_told (h : Payload.read context t format = .error e) (path : Path) :
    (∃ l, Payload.GoesBeyond l t format ∧ e = Payload.beyond context l format) ∨ IsTold path e := by
  cases format
  case json =>
    cases read : Document.read t
    case ok => simp [Payload.read, read] at h
    case error fault =>
      obtain rfl : .document context fault = e := by simpa [Payload.read, read] using h
      cases fault
      case malformed => exact .inr ⟨_, rfl⟩
      case notObject => exact .inr ⟨_, rfl⟩
      case beyond l =>
        have exceeds : Json.read t = .error (.beyond l) := by
          unfold Document.read at read
          split at read <;> cases read
          assumption
        exact .inl ⟨l, Json.read_eq_beyond_iff.mp exceeds, rfl⟩
  case script =>
    cases read : Script.read t
    case ok => simp [Payload.read, read] at h
    case error fault =>
      obtain rfl : .script context fault = e := by simpa [Payload.read, read] using h
      cases fault
      case beyond l => exact .inl ⟨l, Script.read_eq_beyond_iff.mp read, rfl⟩
      all_goals exact .inr ⟨_, rfl⟩

end Command

-- Why a catalog cannot be loaded from a file.
inductive Loader.Fails (tree : FileTree) (path : Path) (format : Format) : LoadError → Prop
  | unreadable : tree.readText path = .error fault → Fails tree path format (.file path fault)
  | unread     : tree.readText path = .ok t → Payload.read path.text t format = .error e →
    Fails tree path format e
  | broken     : Fails tree path format (.violation path.text v)
  | flawed     : Fails tree path format (.flaw f)

theorem Loader.fails_of_loadCatalog {validates hasValidated : Bool} {tree : FileTree} {path : Path}
    (h : (bundled validates hasValidated).loadCatalog tree path none = .error e) :
    Fails tree path (.ofPath path) e := by
  cases loadCatalog_eq_error_iff.mp h
  case unreadable fault unreadable => exact .unreadable unreadable
  case unread t text unread        => exact .unread text unread
  case flawed                      => exact .flawed
  case invalid objects =>
    cases objects
    case schema broken =>
      rw [schema_bundled] at broken
      cases broken
    case violation => exact .broken
    case unanswered f schema fault =>
      rw [schema_bundled] at schema
      cases schema
      exact absurd fault (Schema.catalog_answers _ f)

namespace Command

variable {s : Settings} {tree : FileTree} {path : Path} {output : Output} {session : Session}

-- What is reported of a payload.
inductive Reports (s : Settings) (tree : FileTree) (path : Path) : Severity → (message : Text) → Prop
  | good : loadCatalog s tree path = .ok c → c.summary = .ok summary →
    Reports s tree path .ok (path.text ++ ": " ++ summary)
  | bad  : loadCatalog s tree path = .error (.refused r) → Reports s tree path .fail r.message

-- The line for what is reported.
def reported (s : Settings) (output : Output) (severity : Severity) (message : Text) : Printed :=
  .line (Report.line (look s) output.terminal severity message)

-- What keeps a payload from being reported on, and how the survey fails of it.
inductive Obstacle (s : Settings) (tree : FileTree) (output : Output) (path : Path) : Failure → Prop
  | unreadable : tree.readText path = .error fault → fault ≠ .missing →
    Obstacle s tree output path (.load (.file path fault))
  | beyond     : tree.readText path = .ok t → Payload.GoesBeyond l t (.ofPath path) →
    Obstacle s tree output path (.load (Payload.beyond path.text l (.ofPath path)))
  | surrogate  : loadCatalog s tree path = .ok c → ¬c.IsEncodable →
    Obstacle s tree output path (.encode .loneSurrogate)
  | unshown    : Reports s tree path severity message → output.encoded = true →
    ¬(Report.line (look s) output.terminal severity message).IsEncodable →
    Obstacle s tree output path (.encode .loneSurrogate)

theorem loadCatalog_of_fieldsAt (error : Payload.fieldsAt tree path (.ofPath path) = .error e) :
    loadCatalog s tree path = .error (loadFailure path e) := by
  have fields : (loader s).loadFields tree path none = .error e := Except.bind_eq_error_iff.mpr (.inl error)
  have catalog : (loader s).loadCatalog tree path none = .error e :=
    Except.bind_eq_error_iff.mpr (.inl fields)
  rw [loadCatalog, catalog]
  rfl

theorem loadCatalog_of_unreadable (unreadable : tree.readText path = .error fault)
    (there : fault ≠ .missing) : loadCatalog s tree path = .error (.load (.file path fault)) := by
  have error : Payload.fieldsAt tree path (.ofPath path) = .error (.file path fault) := by
    rw [Payload.fieldsAt, unreadable]
    rfl
  rw [loadCatalog_of_fieldsAt error]
  cases fault
  case missing => exact absurd rfl there
  all_goals rfl

theorem loadCatalog_of_beyond (text : tree.readText path = .ok t)
    (beyond : Payload.GoesBeyond l t (.ofPath path)) :
    loadCatalog s tree path = .error (.load (Payload.beyond path.text l (.ofPath path))) := by
  have error : Payload.fieldsAt tree path (.ofPath path) =
      .error (Payload.beyond path.text l (.ofPath path)) := by
    rw [Payload.fieldsAt, text]
    exact Payload.read_of_goesBeyond beyond path.text
  rw [loadCatalog_of_fieldsAt error]
  cases Format.ofPath path <;> rfl

-- A payload that is not loaded is refused, or it cannot be read.
theorem refused_or_obstacle (bundled : s.schemaRoot = none) (failed : loadCatalog s tree path = .error f)
    (output : Output) : (∃ r, f = .refused r) ∨ Obstacle s tree output path f := by
  have reason := failed
  rw [loadCatalog, loader_eq_bundled bundled] at reason
  obtain ⟨e, error, rfl⟩ := Except.mapError_eq_error_iff.mp reason
  cases Loader.fails_of_loadCatalog error
  case unreadable fault unreadable =>
    by_cases missing : fault = .missing
    case pos => exact .inl ⟨.payloadNotFound path, by rw [missing]; rfl⟩
    case neg =>
      rw [Except.error.inj (failed.symm.trans (loadCatalog_of_unreadable unreadable missing))]
      exact .inr (.unreadable unreadable missing)
  case unread t text unread =>
    obtain ⟨l, beyond, -⟩ | refused := goesBeyond_or_told unread path
    case inl =>
      rw [Except.error.inj (failed.symm.trans (loadCatalog_of_beyond text beyond))]
      exact .inr (.beyond text beyond)
    case inr => exact .inl refused
  case broken => exact .inl ⟨_, rfl⟩
  case flawed => exact .inl ⟨_, rfl⟩

-- A payload that is loaded is good or has no checksum, and one that is not is refused or cannot be read.
theorem exists_reports_or_obstacle (bundled : s.schemaRoot = none) (tree : FileTree) (output : Output)
    (path : Path) :
    (∃ severity message, Reports s tree path severity message) ∨ ∃ f, Obstacle s tree output path f := by
  cases loaded : loadCatalog s tree path
  case ok c =>
    obtain ⟨-, summary, summed⟩ | ⟨not, -⟩ := c.summary_cases
    · exact .inl ⟨_, _, .good loaded summed⟩
    · exact .inr ⟨_, .surrogate loaded not⟩
  case error f =>
    obtain ⟨r, rfl⟩ | obstacle := refused_or_obstacle bundled loaded output
    · exact .inl ⟨_, _, .bad loaded⟩
    · exact .inr ⟨_, obstacle⟩

-- The session with some lines of the report more.
def Session.withReports (session : Session) (s : Settings) (reports : List (Severity × Text)) : Session :=
  { session with printed := session.printed ++ reports.map fun r => reported s session.output r.1 r.2 }

theorem Session.withReports_nil (session : Session) (s : Settings) : session.withReports s [] = session := by
  simp [withReports]

theorem Session.withReports_cons (session : Session) (s : Settings) (r : Severity × Text)
    (reports : List (Severity × Text)) :
    (session.withReports s [r]).withReports s reports = session.withReports s (r :: reports) := by
  simp [withReports]

-- On a payload with a line of its own, that line is put out.
theorem run_validateOne_of_reports (h : Reports s session.tree path severity message) :
    run (validateOne s path) session =
      run (report (look s) severity message >>= fun _ => pure (decide (severity = .ok))) session := by
  cases h
  case good c summary loaded summed => exact run_validateOne loaded summed
  case bad r refused =>
    rw [validateOne, run_get_bind, refused]
    rfl

theorem run_validateOne_obstructed (h : Obstacle s session.tree session.output path f) :
    run (validateOne s path) session = (.error f, session) := by
  cases h
  case unreadable fault unreadable there =>
    rw [validateOne, run_get_bind, loadCatalog_of_unreadable unreadable there]
    rfl
  case beyond t l text beyond =>
    rw [validateOne, run_get_bind, loadCatalog_of_beyond text beyond]
    rfl
  case surrogate c loaded not =>
    obtain ⟨encodable, -⟩ | ⟨-, summed⟩ := c.summary_cases
    · exact absurd encodable not
    · rw [validateOne, run_get_bind, loaded]
      simp only [summed]
      rfl
  case unshown severity message h encoded unshown =>
    rw [run_validateOne_of_reports h]
    refine run_bind_error ?_
    rw [report, run_get_bind]
    exact run_print_unshown encoded (List.mem_singleton.mpr rfl) unshown

theorem run_validateOne_shown (h : Reports s session.tree path severity message)
    (shown : session.output.encoded = true →
      (Report.line (look s) session.output.terminal severity message).IsEncodable) :
    run (validateOne s path) session =
      (.ok (decide (severity = .ok)), session.withReports s [(severity, message)]) := by
  rw [run_validateOne_of_reports h]
  refine run_bind_ok (a := ⟨⟩) ?_
  rw [report, run_get_bind]
  refine run_print _ session fun encoded t ht => ?_
  rw [List.mem_singleton.mp ht]
  exact shown encoded

theorem run_validateOne_clear (bundled : s.schemaRoot = none)
    (clear : ∀ f, ¬Obstacle s session.tree session.output path f) :
    ∃ severity message, Reports s session.tree path severity message ∧ run (validateOne s path) session =
      (.ok (decide (severity = .ok)), session.withReports s [(severity, message)]) := by
  obtain ⟨severity, message, h⟩ | ⟨f, obstacle⟩ :=
    exists_reports_or_obstacle bundled session.tree session.output path
  case inr => exact absurd obstacle (clear f)
  case inl =>
    refine ⟨severity, message, h, run_validateOne_shown h fun encoded => ?_⟩
    exact Classical.byContradiction fun not => clear _ (.unshown h encoded not)

-- Only the output can still keep a payload from being reported on for which there is a line.
theorem Reports.clear (h : Reports s tree path severity message) (plain : output.encoded = false) (f : Failure) :
    ¬Obstacle s tree output path f := by
  intro obstacle
  cases obstacle
  case unreadable unreadable there =>
    have broken := loadCatalog_of_unreadable (s := s) unreadable there
    cases h
    case good loaded _ => cases loaded.symm.trans broken
    case bad refused   => cases refused.symm.trans broken
  case beyond text beyond =>
    have broken := loadCatalog_of_beyond (s := s) text beyond
    cases h
    case good loaded _ => cases loaded.symm.trans broken
    case bad refused   => cases refused.symm.trans broken
  case surrogate c loaded not =>
    cases h
    case good loaded' summed =>
      cases loaded.symm.trans loaded'
      exact not (Catalog.exists_checksum_iff.mp (Catalog.exists_checksum_of_summary summed))
    case bad refused => cases loaded.symm.trans refused
  case unshown encoded _ => cases plain.symm.trans encoded

-- Nothing keeps the payloads at the paths from being reported on.
def Clear (s : Settings) (session : Session) (paths : List Path) : Prop :=
  ∀ path ∈ paths, ∀ f, ¬Obstacle s session.tree session.output path f

-- There is one report for each path, in the order of the paths.
def ReportsAll (s : Settings) (session : Session) (paths : List Path) (reports : List (Severity × Text)) :
    Prop :=
  List.Forall₂ (fun path r => Reports s session.tree path r.1 r.2) paths reports

theorem run_validate_clear (bundled : s.schemaRoot = none) (clear : Clear s session paths) :
    ∃ reports, ReportsAll s session paths reports ∧ run (validate s paths) session =
      (.ok (reports.all (·.1 = .ok)), session.withReports s reports) := by
  induction paths generalizing session
  case nil => exact ⟨[], .nil, by rw [Session.withReports_nil]; rfl⟩
  case cons path paths ih =>
    obtain ⟨here, others⟩ := List.forall_mem_cons.mp clear
    obtain ⟨severity, message, reports, ran⟩ := run_validateOne_clear bundled here
    have there : Clear s (session.withReports s [(severity, message)]) paths := others
    obtain ⟨rest, reportsAll, ranAll⟩ := ih there
    refine ⟨(severity, message) :: rest, .cons reports reportsAll, ?_⟩
    rw [validate, run_bind_ok ran, run_bind_ok ranAll, Session.withReports_cons]
    rfl

-- A survey comes as far as the first payload that cannot be reported on.
theorem run_validate_obstructed (bundled : s.schemaRoot = none) (clear : Clear s session front)
    (obstacle : Obstacle s session.tree session.output path f) (back : List Path) :
    ∃ reports, ReportsAll s session front reports ∧ run (validate s (front ++ path :: back)) session =
      (.error f, session.withReports s reports) := by
  induction front generalizing session
  case nil =>
    refine ⟨[], .nil, ?_⟩
    rw [Session.withReports_nil]
    exact run_bind_error (run_validateOne_obstructed obstacle)
  case cons first front ih =>
    obtain ⟨here, others⟩ := List.forall_mem_cons.mp clear
    obtain ⟨severity, message, reports, ran⟩ := run_validateOne_clear bundled here
    have there : Clear s (session.withReports s [(severity, message)]) front := others
    obtain ⟨rest, reportsAll, broken⟩ := ih there obstacle
    refine ⟨(severity, message) :: rest, .cons reports reportsAll, ?_⟩
    rw [List.cons_append, validate, run_bind_ok ran, run_bind_error broken, Session.withReports_cons]

-- Where every payload can be reported on, a survey reports on all of them in order and answers whether
-- all are good. Otherwise it reports on those in front of the first one that cannot be reported on, and
-- fails of that one. The limits are those of one depth of calls, and what a schema finds wrong can always be told
-- (`Violation.message`), also of values that come close to these limits.
theorem validate_surveys (bundled : s.schemaRoot = none) (paths : List Path) (session : Session) :
    (Clear s session paths → ∃ reports, ReportsAll s session paths reports ∧
      run (validate s paths) session =
        (.ok (reports.all (·.1 = .ok)), session.withReports s reports)) ∧
    ∀ front path back f, paths = front ++ path :: back → Clear s session front →
      Obstacle s session.tree session.output path f →
        ∃ reports, ReportsAll s session front reports ∧
          run (validate s paths) session = (.error f, session.withReports s reports) := by
  constructor
  case left => exact run_validate_clear bundled
  case right =>
    rintro front path back f rfl clear obstacle
    exact run_validate_obstructed bundled clear obstacle back

-- A session with an empty catalog in one file and with no text in another one.
def Session.ofBroken : Session :=
  .initial ⟨[(⟨.above 0, ["bad.json"]⟩, .file [0xFF]),
    (⟨.above 0, ["good.json"]⟩, .file [0x7B, 0x7D, 0x0A])]⟩ ⟨none, false⟩ []

theorem reports_good : ∃ message,
    Reports .standard Session.ofBroken.tree (.ofText "good.json") .ok message := by
  have loaded : loadCatalog .standard Session.ofBroken.tree (.ofText "good.json") = .ok .empty :=
    loadCatalog_empty rfl rfl
  obtain ⟨-, summary, summed⟩ | ⟨not, -⟩ := Catalog.empty.summary_cases
  · exact ⟨_, .good loaded summed⟩
  · exact absurd nofun not

theorem reports_missing : ∃ message,
    Reports .standard Session.ofBroken.tree (.ofText "missing.json") .fail message := by
  have missing : Payload.fieldsAt Session.ofBroken.tree (.ofText "missing.json") .json =
    .error (.file (.ofText "missing.json") .missing) := rfl
  exact ⟨_, .bad (loadCatalog_of_fieldsAt missing)⟩

theorem obstacle_bad : Obstacle .standard Session.ofBroken.tree Session.ofBroken.output (.ofText "bad.json")
    (.load (.file (.ofText "bad.json") .undecodable)) := by
  have unreadable : Session.ofBroken.tree.readText (.ofText "bad.json") = .error .undecodable := rfl
  exact .unreadable unreadable nofun

theorem clear_of_goodMissing :
    Clear .standard .ofBroken [.ofText "good.json", .ofText "missing.json"] := by
  obtain ⟨_, good⟩ := reports_good
  obtain ⟨_, missing⟩ := reports_missing
  have plain : Session.ofBroken.output.encoded = false := rfl
  simp only [Clear, List.forall_mem_cons]
  exact ⟨good.clear plain, missing.clear plain, nofun⟩

theorem validate_surveys_missing :
    let paths : List Path := [.ofText "good.json", .ofText "missing.json"]
    Settings.standard.schemaRoot = none ∧ Clear .standard .ofBroken paths ∧
    (∃ reports, ReportsAll .standard .ofBroken paths reports ∧
      run (validate .standard paths) .ofBroken =
        (.ok (reports.all (·.1 = .ok)), Session.ofBroken.withReports .standard reports)) ∧
    ∃ reports, ReportsAll .standard .ofBroken paths reports ∧
      run (validate .standard (paths ++ [.ofText "bad.json"])) .ofBroken =
        (.error (.load (.file (.ofText "bad.json") .undecodable)),
          Session.ofBroken.withReports .standard reports) := by
  intro paths
  have bundled : Settings.standard.schemaRoot = none := rfl
  have clear : Clear .standard .ofBroken paths := clear_of_goodMissing
  have all := (validate_surveys bundled paths .ofBroken).left clear
  have broken := (validate_surveys bundled (paths ++ [.ofText "bad.json"]) .ofBroken).right paths
    (.ofText "bad.json") [] _ rfl clear obstacle_bad
  exact ⟨bundled, clear, all, broken⟩

-- A file that holds no text keeps the good payload behind it from being reported on.
theorem validate_incomplete :
    run (validate .standard [.ofText "bad.json", .ofText "good.json"]) .ofBroken =
      (.error (.load (.file (.ofText "bad.json") .undecodable)), .ofBroken) ∧
    ∃ message, Reports .standard Session.ofBroken.tree (.ofText "good.json") .ok message ∧
      run (validate .standard [.ofText "good.json"]) .ofBroken =
        (.ok true, Session.ofBroken.withReports .standard [(.ok, message)]) := by
  constructor
  case left =>
    have failed : run (validateOne .standard (.ofText "bad.json")) .ofBroken = (.error _, .ofBroken) :=
      run_validateOne_obstructed obstacle_bad
    rw [validate, run_bind_error failed]
  case right =>
    obtain ⟨message, good⟩ := reports_good
    refine ⟨message, good, ?_⟩
    rw [validate_singleton]
    exact run_validateOne_shown good fun encoded => absurd encoded Bool.false_ne_true

end Command
end TraitCatalog

import Mathlib.Algebra.GroupWithZero.Nat
import TraitCatalog.Command.Tables
import TraitCatalog.Proofs.Catalog.Texts
import TraitCatalog.Proofs.Command.Survey
import TraitCatalog.Proofs.Markup.References
import TraitCatalog.Proofs.Markup.Tags
import TraitCatalog.Proofs.Text.Segments

namespace TraitCatalog
namespace Implementor

variable {d : Implementor}

-- The signature can be shown: without its tags, no decimal reference in it has too many digits.
def IsLegible (d : Implementor) : Prop :=
  ¬Markup.HasOverlong (Markup.removeTags d.text)

-- Every one of the signatures can be.
def AllLegible (ds : List Implementor) : Prop :=
  ∀ d ∈ ds, d.IsLegible

theorem plainText_eq_error_iff : d.plainText = .error .integerTooLong ↔ ¬d.IsLegible := by
  rw [plainText, Markup.decode_eq_error_iff, IsLegible, not_not]

theorem exists_plainText_iff : (∃ plain, d.plainText = .ok plain) ↔ d.IsLegible := by
  rw [← not_iff_not, ← plainText_eq_error_iff]
  cases d.plainText
  case ok plain => simp
  case error e  => cases e; simp

theorem isEncodable_plainText (h : d.text.IsEncodable) (shown : d.plainText = .ok plain) : plain.IsEncodable :=
  Markup.isEncodable_decode shown (h.subset fun _ hc => Markup.removeTags_subset _ hc)

theorem isEncodable_qualifiedName (h : ∀ name ∈ d.path, name.IsEncodable) : d.qualifiedName.IsEncodable :=
  Text.IsEncodable.join (Text.isEncodable_ofString "::") h

end Implementor

namespace Command

open Implementor (AllLegible)

-- What is to stand on an implementor, with its number and the plain text of its signature.
def Table.rowOf (number : Nat) (d : Implementor) (plain : Text) : List Text :=
  [Text.ofNat number, Report.clean d.typeName, Report.clean d.qualifiedName,
    if d.synthetic then "yes" else "no", Report.clean plain]

-- What the table of a library is to show: every implementor in a row of its own, in their order.
structure Table.Shows (t : Table) (traitName library : Text) (ds : List Implementor) : Prop where
  title  : t.title = Report.clean (library ++ ": " ++ traitName ++ " implementors")
  length : t.rows.length = ds.length
  row    : ∀ i d, ds[i]? = some d →
    ∃ plain, d.plainText = .ok plain ∧ t.rows[i]? = some (Table.rowOf (i + 1) d plain)

variable {t : Table}

theorem Table.row_eq_ok_iff :
    Table.row number d = .ok texts ↔ ∃ plain, d.plainText = .ok plain ∧ Table.rowOf number d plain = texts := by
  simp only [Table.row, Table.rowOf, Except.bind_eq_ok_iff, Except.pure_eq_ok, Except.ok.injEq]

theorem Table.shows_of_ofLibrary (made : Table.ofLibrary library traitName ds = .ok t) :
    t.Shows traitName library ds := by
  obtain ⟨rows, listed, h⟩ := Except.bind_eq_ok_iff.mp made
  cases h
  obtain ⟨length, each⟩ := List.forall₂_iff_get.mp (Except.mapM_eq_ok_iff.mp listed)
  rw [List.length_zipIdx] at length
  refine ⟨rfl, length.symm, fun i d hd => ?_⟩
  obtain ⟨hi, rfl⟩ := List.getElem?_eq_some_iff.mp hd
  have numbered := each i (by rwa [List.length_zipIdx]) (by rwa [← length])
  simp only [List.get_eq_getElem, List.getElem_zipIdx] at numbered
  obtain ⟨plain, shown, same⟩ := Table.row_eq_ok_iff.mp numbered
  refine ⟨plain, shown, ?_⟩
  rw [List.getElem?_eq_getElem (by rwa [← length]), ← same, Nat.add_comm]

theorem Table.exists_ofLibrary_iff (library traitName : Text) :
    (∃ t, Table.ofLibrary library traitName ds = .ok t) ↔ AllLegible ds := by
  have each : (∃ rows, (ds.zipIdx 1).mapM (fun p => Table.row p.2 p.1) = .ok rows) ↔
      AllLegible ds := by
    rw [AllLegible, ← List.forall_mem_zipIdx_iff 1, Except.exists_mapM_eq_ok_iff]
    refine forall₂_congr fun p _ => ?_
    rw [← Implementor.exists_plainText_iff]
    constructor
    case mp  => exact fun ⟨_, h⟩ => (Table.row_eq_ok_iff.mp h).imp fun _ h => h.left
    case mpr => exact fun ⟨plain, h⟩ => ⟨_, Table.row_eq_ok_iff.mpr ⟨plain, h, rfl⟩⟩
  rw [← each]
  constructor
  case mp  => exact fun ⟨_, h⟩ => (Except.bind_eq_ok_iff.mp h).imp fun _ h => h.left
  case mpr => exact fun ⟨rows, h⟩ => ⟨_, Except.bind_eq_ok_iff.mpr ⟨rows, h, rfl⟩⟩

theorem Table.ofLibrary_of_not_legible (h : ¬AllLegible ds) (library traitName : Text) :
    Table.ofLibrary library traitName ds = .error .integerTooLong := by
  rw [← Table.exists_ofLibrary_iff library traitName] at h
  cases made : Table.ofLibrary library traitName ds
  case ok t    => exact absurd ⟨t, made⟩ h
  case error e => cases e; rfl

-- The texts of a catalog that stand in one library.
def textsOf (entry : Text × List Implementor) : List Text :=
  entry.1 :: entry.2.flatMap fun d => d.text :: d.path

theorem Table.Shows.exists_of_mem (h : t.Shows traitName library ds) (mem : texts ∈ t.rows) :
    ∃ d ∈ ds, ∃ number plain, d.plainText = .ok plain ∧ texts = Table.rowOf number d plain := by
  obtain ⟨i, hi, there⟩ := List.getElem_of_mem mem
  rw [h.length] at hi
  have some : t.rows[i]? = some texts := List.getElem?_eq_some_iff.mpr ⟨_, there⟩
  obtain ⟨plain, shown, row⟩ := h.row i ds[i] (List.getElem?_eq_getElem hi)
  cases some.symm.trans row
  exact ⟨ds[i], List.getElem_mem hi, _, plain, shown, rfl⟩

theorem Table.isEncodable_rowOf {d : Implementor} (shown : d.plainText = .ok plain)
    (encodable : ∀ u ∈ d.text :: d.path, u.IsEncodable) (number : Nat) :
    ∀ u ∈ Table.rowOf number d plain, u.IsEncodable := by
  obtain ⟨text, path⟩ := List.forall_mem_cons.mp encodable
  have qualified := Implementor.isEncodable_qualifiedName path
  have type : d.typeName.IsEncodable := qualified.subset fun _ hc => Text.afterLastSeparator_subset _ hc
  have word : Text.IsEncodable (if d.synthetic then "yes" else "no") := by
    split <;> exact Text.isEncodable_ofString _
  simp only [Table.rowOf, List.forall_mem_cons, List.not_mem_nil, false_implies, implies_true, and_true]
  exact ⟨Text.isEncodable_ofNat number, Report.isEncodable_clean type, Report.isEncodable_clean qualified, word,
    Report.isEncodable_clean (Implementor.isEncodable_plainText text shown)⟩

theorem Table.Shows.isEncodable (h : t.Shows traitName library ds) (named : traitName.IsEncodable)
    (encodable : ∀ u ∈ textsOf (library, ds), u.IsEncodable) :
    ∀ u ∈ (Printed.table t).texts, u.IsEncodable := by
  obtain ⟨name, inside⟩ := List.forall_mem_cons.mp encodable
  refine List.forall_mem_cons.mpr ⟨?title, fun u hu => ?rows⟩
  case title =>
    rw [h.title]
    exact Report.isEncodable_clean (((name.append (Text.isEncodable_ofString ": ")).append named).append
      (Text.isEncodable_ofString " implementors"))
  case rows =>
    obtain ⟨texts, mem, hu⟩ := List.mem_flatten.mp hu
    obtain ⟨d, hd, number, plain, shown, rfl⟩ := h.exists_of_mem mem
    have own : ∀ u ∈ d.text :: d.path, u.IsEncodable :=
      fun u hu => inside u (List.mem_flatMap.mpr ⟨d, hd, hu⟩)
    exact Table.isEncodable_rowOf shown own number u hu

-- The session with something more put out.
def Session.withPrinted (session : Session) (ps : List Printed) : Session :=
  { session with printed := session.printed ++ ps }

theorem Session.withPrinted_nil (session : Session) : session.withPrinted [] = session := by
  simp [withPrinted]

theorem Session.withPrinted_append (session : Session) (ps qs : List Printed) :
    (session.withPrinted ps).withPrinted qs = session.withPrinted (ps ++ qs) := by
  simp [withPrinted]

-- One table for each library, in their order.
def ShowsAll (traitName : Text) (entries : List (Text × List Implementor)) (tables : List Table) : Prop :=
  List.Forall₂ (fun entry t => t.Shows traitName entry.1 entry.2) entries tables

-- The output takes the texts of the libraries.
def CanShow (output : Output) (traitName : Text) (entries : List (Text × List Implementor)) : Prop :=
  output.encoded = true → traitName.IsEncodable ∧ ∀ entry ∈ entries, ∀ u ∈ textsOf entry, u.IsEncodable

theorem CanShow.behind (h : CanShow output traitName (entry :: entries)) : CanShow output traitName entries :=
  fun encoded => (h encoded).imp_right fun all => (List.forall_mem_cons.mp all).right

variable {session : Session}

-- A library whose signatures are legible has its table, and the others come behind it.
theorem run_printLibraries_cons (legible : AllLegible ds)
    (can : CanShow session.output traitName ((library, ds) :: rest)) :
    ∃ t : Table, t.Shows traitName library ds ∧
      run (printLibraries traitName ((library, ds) :: rest)) session =
        run (printLibraries traitName rest >>= fun n => pure (t.rows.length + n))
          (session.withPrinted [.table t]) := by
  obtain ⟨t, made⟩ := (Table.exists_ofLibrary_iff library traitName).mpr legible
  have shows := Table.shows_of_ofLibrary made
  have put : run (print (.table t)) session = (.ok ⟨⟩, session.withPrinted [.table t]) :=
    run_print _ session fun encoded =>
      shows.isEncodable (can encoded).left ((can encoded).right _ (List.mem_cons_self ..))
  refine ⟨t, shows, ?_⟩
  rw [printLibraries, made, shows.length]
  exact run_bind_ok put

-- What comes of the others is added to the rows of the libraries in front of them.
theorem run_printLibraries_append (legible : ∀ entry ∈ front, AllLegible entry.2)
    (can : CanShow session.output traitName (front ++ back)) :
    ∃ tables : List Table, ShowsAll traitName front tables ∧ ∀ result session',
      run (printLibraries traitName back) (session.withPrinted (tables.map .table)) = (result, session') →
        run (printLibraries traitName (front ++ back)) session =
          (result.map ((tables.map (·.rows.length)).sum + ·), session') := by
  induction front generalizing session
  case nil =>
    refine ⟨[], .nil, fun result session' ran => ?_⟩
    rw [List.map_nil, Session.withPrinted_nil] at ran
    rw [List.nil_append, ran]
    cases result <;> simp [Except.map]
  case cons entry front ih =>
    obtain ⟨library, ds⟩ := entry
    obtain ⟨(here : AllLegible ds), others⟩ := List.forall_mem_cons.mp legible
    rw [List.cons_append] at can ⊢
    obtain ⟨t, shows, ran⟩ := run_printLibraries_cons here can
    have there : CanShow (session.withPrinted [.table t]).output traitName (front ++ back) := can.behind
    obtain ⟨tables, all, ranAll⟩ := ih others there
    refine ⟨t :: tables, .cons shows all, fun result session' last => ?_⟩
    have behind := ranAll result session' (by rw [Session.withPrinted_append]; exact last)
    rw [ran, run_bind, behind]
    cases result
    case error => rfl
    case ok n =>
      have total : t.rows.length + ((tables.map (·.rows.length)).sum + n) =
          ((t :: tables).map (·.rows.length)).sum + n := by
        rw [List.map_cons, List.sum_cons, Nat.add_assoc]
      exact congrArg (fun total => (Except.ok total, session')) total

theorem run_printLibraries (legible : ∀ entry ∈ entries, AllLegible entry.2)
    (can : CanShow session.output traitName entries) :
    ∃ tables, ShowsAll traitName entries tables ∧ run (printLibraries traitName entries) session =
      (.ok (tables.map (·.rows.length)).sum, session.withPrinted (tables.map .table)) := by
  rw [← List.append_nil entries] at can
  obtain ⟨tables, all, ran⟩ := run_printLibraries_append legible can
  have shown := ran (.ok 0) _ rfl
  rw [List.append_nil] at shown
  exact ⟨tables, all, shown⟩

-- A library with a signature that is not legible has no table, and ends the output.
theorem run_printLibraries_broken (legible : ∀ entry ∈ front, AllLegible entry.2)
    (broken : ¬AllLegible ds) (can : CanShow session.output traitName (front ++ (library, ds) :: back)) :
    ∃ tables, ShowsAll traitName front tables ∧
      run (printLibraries traitName (front ++ (library, ds) :: back)) session =
        (.error (.reference .integerTooLong), session.withPrinted (tables.map .table)) := by
  obtain ⟨tables, all, ran⟩ := run_printLibraries_append legible can
  refine ⟨tables, all, ran (.error _) _ ?_⟩
  rw [printLibraries, Table.ofLibrary_of_not_legible broken]
  rfl

-- The line below all tables.
def totalLine (rows libraries : Nat) : Text :=
  Text.ofNat rows ++ " implementors across " ++ Text.ofNat libraries ++ " libraries"

theorem isEncodable_totalLine (rows libraries : Nat) : (totalLine rows libraries).IsEncodable :=
  (((Text.isEncodable_ofNat rows).append (Text.isEncodable_ofString _)).append
    (Text.isEncodable_ofNat libraries)).append (Text.isEncodable_ofString _)

variable {s : Settings} {path : Path} {c : Catalog}

theorem run_inspect_of_loaded (loaded : loadCatalog s session.tree path = .ok c) :
    run (inspect s path none) session = run (printLibraries s.traitName c.entries >>= fun total =>
      print (.line (totalLine total c.entries.length))) session := by
  rw [inspect, run_bind_ok (run_catalogAt loaded)]
  rfl

-- What has a checksum can be put out under a trait that can be.
theorem canShow_of_isEncodable (named : output.encoded = true → s.trait.IsEncodable) (h : c.IsEncodable) :
    CanShow output s.traitName c.entries := by
  intro encoded
  refine ⟨(named encoded).subset fun _ hc => Text.afterLastSeparator_subset _ hc, fun entry mem u hu => ?_⟩
  exact Catalog.isEncodable_iff.mp h u (List.mem_flatMap.mpr ⟨entry, mem, hu⟩)

-- All libraries are shown if every signature is legible. Otherwise only those in front of the first one with a
-- signature that is not are shown.
theorem inspect_shows (valid : (run (validate s [path]) session).1 = .ok true)
    (named : session.output.encoded = true → s.trait.IsEncodable) :
    ∃ c, loadCatalog s session.tree path = .ok c ∧
      ((∀ entry ∈ c.entries, AllLegible entry.2) →
        ∃ tables, ShowsAll s.traitName c.entries tables ∧ run (inspect s path none) session =
          (.ok ⟨⟩, session.withPrinted (tables.map .table ++
            [.line (totalLine (tables.map (·.rows.length)).sum c.entries.length)]))) ∧
      ∀ front library ds back, c.entries = front ++ (library, ds) :: back →
        (∀ entry ∈ front, AllLegible entry.2) → ¬AllLegible ds →
          ∃ tables, ShowsAll s.traitName front tables ∧ run (inspect s path none) session =
            (.error (.reference .integerTooLong), session.withPrinted (tables.map .table)) := by
  rw [validate_singleton] at valid
  obtain ⟨c, summary, loaded, summed⟩ := exists_of_validateOne valid
  have encodable := Catalog.exists_checksum_iff.mp (Catalog.exists_checksum_of_summary summed)
  have can := canShow_of_isEncodable named encodable
  refine ⟨c, loaded, fun legible => ?legible, fun front library ds back parted legible broken => ?broken⟩
  case legible =>
    obtain ⟨tables, all, ran⟩ := run_printLibraries legible can
    refine ⟨tables, all, ?_⟩
    have put := run_print (.line (totalLine (tables.map (·.rows.length)).sum c.entries.length))
      (session.withPrinted (tables.map .table)) fun _ t ht => by
        rw [List.mem_singleton.mp ht]
        exact isEncodable_totalLine _ _
    rw [run_inspect_of_loaded loaded, run_bind_ok ran, put, ← Session.withPrinted_append]
    rfl
  case broken =>
    rw [parted] at can
    obtain ⟨tables, all, ran⟩ := run_printLibraries_broken legible broken can
    refine ⟨tables, all, ?_⟩
    rw [run_inspect_of_loaded loaded, parted, run_bind_error ran]

-- An implementor with the signature.
def signed (text : Text) : Implementor :=
  ⟨text, false, ["a"], List.cons_ne_nil _ _, by decide⟩

-- A decimal reference with as many digits.
def ones (n : Nat) : Text :=
  .char '&' :: .char '#' :: (List.replicate n (.char '1') ++ [.char ';'])

theorem isEncodable_ones (n : Nat) : (ones n).IsEncodable :=
  (Text.isEncodable_ofString "&#").append
    ((Text.isEncodable_replicate n '1').append (Text.isEncodable_ofString ";"))

theorem isLegible_signed {text : Text} (single : .char '&' ∉ text) : (signed text).IsLegible :=
  Markup.not_hasOverlong_of_not_mem fun mem => single (Markup.removeTags_subset text mem)

theorem not_isLegible_ones (many : Limit.mostDigits < n) : ¬(signed (ones n)).IsLegible := by
  have plain : .char '<' ∉ ones n := by
    simp [ones, List.mem_replicate]
  have kept := Markup.removeTags_append plain []
  rw [List.append_nil] at kept
  rw [Implementor.IsLegible, not_not, signed, kept]
  refine ⟨ones n ++ [], List.suffix_rfl, List.replicate n (.char '1'), [.char ';'], List.append_nil _, ?ones, ?many⟩
  case ones =>
    intro d hd
    rw [List.eq_of_mem_replicate hd]
    rfl
  case many => rwa [List.length_replicate]

theorem allLegible_signed {text : Text} (single : .char '&' ∉ text) : AllLegible [signed text] :=
  List.forall_mem_singleton.mpr (isLegible_signed single)

theorem not_allLegible_ones (many : Limit.mostDigits < n) : ¬AllLegible [signed (ones n)] :=
  fun all => not_isLegible_ones many (List.forall_mem_singleton.mp all)

-- A catalog with two libraries, each with one signature.
def pairCatalog (first second : Text) : Catalog :=
  ⟨[("a", [signed first]), ("b", [signed second])],
    show [Text.ofString "a", Text.ofString "b"].Nodup by decide⟩

-- One in which the second signature is not legible.
def longCatalog : Catalog :=
  pairCatalog "A" (ones (Limit.mostDigits + 1))

theorem isEncodable_pairCatalog {first second : Text} (h₁ : first.IsEncodable) (h₂ : second.IsEncodable) :
    (pairCatalog first second).IsEncodable := by
  have a := Text.isEncodable_ofString "a"
  have b := Text.isEncodable_ofString "b"
  have texts : (pairCatalog first second).texts =
    [Text.ofString "a", first, Text.ofString "a", Text.ofString "b", second, Text.ofString "a"] := rfl
  apply Catalog.isEncodable_of_texts
  rw [texts]
  simp only [List.forall_mem_cons, List.not_mem_nil, false_implies, implies_true, and_true]
  exact ⟨a, h₁, a, b, h₂, a⟩

theorem isEncodable_longCatalog : longCatalog.IsEncodable :=
  isEncodable_pairCatalog (Text.isEncodable_ofString "A") (isEncodable_ones _)

-- A session in which the file `p.json` holds the catalog.
def Session.ofCatalog (c : Catalog) : Session :=
  .initial ⟨[(⟨.above 0, ["p.json"]⟩, .file ((fileText (Payload.render c .json) .json).utf8?.getD []))]⟩
    ⟨none, true⟩ []

theorem loadCatalog_ofCatalog (h : c.IsEncodable) :
    loadCatalog .standard (Session.ofCatalog c).tree (.ofText "p.json") = .ok c := by
  obtain ⟨bytes, utf8⟩ := (h.fileText .json).exists_utf8?
  have node : (Session.ofCatalog c).tree.node (.ofText "p.json") = .ok (.file bytes) := by
    rw [Session.ofCatalog, utf8]
    rfl
  exact (loadCatalog_eq_ok_iff rfl).mpr (Loader.loadCatalog_of_node _ _ utf8 node)

theorem validate_ofCatalog (h : c.IsEncodable) :
    (run (validate .standard [.ofText "p.json"]) (.ofCatalog c)).1 = .ok true := by
  obtain ⟨summary, summed⟩ := h.exists_summary
  have named : Text.IsEncodable (Path.text (.ofText "p.json")) := Text.isEncodable_ofString "p.json"
  exact (certifies_of_loaded (loadCatalog_ofCatalog h) summed).good.mpr fun _ => named

theorem isEncodable_standard : (Settings.standard).trait.IsEncodable := by
  decide

-- One payload is shown with all its libraries, and one up to the signature that is not legible.
theorem inspect_shows_pair :
    let short := pairCatalog "A" "B"
    (run (validate .standard [.ofText "p.json"]) (.ofCatalog short)).1 = .ok true ∧
    (∃ tables, ShowsAll (Settings.traitName .standard) short.entries tables ∧
      run (inspect .standard (.ofText "p.json") none) (.ofCatalog short) =
        (.ok ⟨⟩, (Session.ofCatalog short).withPrinted (tables.map .table ++
          [.line (totalLine (tables.map (·.rows.length)).sum 2)]))) ∧
    (run (validate .standard [.ofText "p.json"]) (.ofCatalog longCatalog)).1 = .ok true ∧
    ∃ tables, ShowsAll (Settings.traitName .standard) [("a", [signed "A"])] tables ∧
      run (inspect .standard (.ofText "p.json") none) (.ofCatalog longCatalog) =
        (.error (.reference .integerTooLong),
          (Session.ofCatalog longCatalog).withPrinted (tables.map .table)) := by
  intro short
  have encodable : short.IsEncodable :=
    isEncodable_pairCatalog (Text.isEncodable_ofString "A") (Text.isEncodable_ofString "B")
  have valid := validate_ofCatalog encodable
  have valid' := validate_ofCatalog isEncodable_longCatalog
  have a : AllLegible [signed "A"] := allLegible_signed (by decide)
  have b : AllLegible [signed "B"] := allLegible_signed (by decide)
  have broken := not_allLegible_ones (Nat.lt_succ_self Limit.mostDigits)
  obtain ⟨c, loaded, shows, -⟩ := inspect_shows valid fun _ => isEncodable_standard
  obtain ⟨c', loaded', -, breaks⟩ := inspect_shows valid' fun _ => isEncodable_standard
  cases (loadCatalog_ofCatalog encodable).symm.trans loaded
  cases (loadCatalog_ofCatalog isEncodable_longCatalog).symm.trans loaded'
  refine ⟨valid, shows (List.forall_mem_cons.mpr ⟨a, List.forall_mem_singleton.mpr b⟩), valid', ?_⟩
  exact breaks [("a", [signed "A"])] "b" _ [] rfl (List.forall_mem_singleton.mpr a) broken

-- A payload that is reported as good and cannot be shown to its end.
theorem inspect_breaks_off :
    (run (validate .standard [.ofText "p.json"]) (.ofCatalog longCatalog)).1 = .ok true ∧
    ∃ session', run (inspect .standard (.ofText "p.json") none) (.ofCatalog longCatalog) =
      (.error (.reference .integerTooLong), session') := by
  have valid := validate_ofCatalog isEncodable_longCatalog
  have loaded := loadCatalog_ofCatalog isEncodable_longCatalog
  have can : CanShow (Session.ofCatalog longCatalog).output (Settings.traitName .standard) longCatalog.entries :=
    canShow_of_isEncodable (fun _ => isEncodable_standard) isEncodable_longCatalog
  have a : ∀ entry ∈ [(Text.ofString "a", [signed "A"])], AllLegible entry.2 :=
    List.forall_mem_singleton.mpr (allLegible_signed (by decide))
  obtain ⟨tables, -, ran⟩ := run_printLibraries_broken a (not_allLegible_ones (Nat.lt_succ_self _)) can
  exact ⟨valid, _, (run_inspect_of_loaded loaded).trans (run_bind_error ran)⟩

end Command
end TraitCatalog

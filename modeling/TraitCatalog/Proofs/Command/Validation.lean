import TraitCatalog.Command.Survey
import TraitCatalog.Proofs.Except
import TraitCatalog.Proofs.Report.Line

namespace TraitCatalog

theorem Sha256.isEncodable_digest (message : Bytes) : (digest message).IsEncodable := by
  intro c hc
  obtain ⟨word, -, hc⟩ := List.mem_flatMap.mp hc
  exact Text.isEncodable_hex 8 _ c hc

theorem Catalog.isEncodable_checksum {c : Catalog} (h : c.checksum = .ok t) : t.IsEncodable := by
  unfold checksum Checksum.ofFields at h
  split at h
  case h_1 =>
    cases h
    exact Sha256.isEncodable_digest _
  case h_2 => cases h

theorem Catalog.isEncodable_summary {c : Catalog} (h : c.summary = .ok t) : t.IsEncodable := by
  obtain ⟨sum, checksum, h⟩ := Except.bind_eq_ok_iff.mp h
  cases h
  have count := (Text.isEncodable_ofNat c.count).append (Text.isEncodable_ofString " implementors, ")
  have size := (count.append (Text.isEncodable_ofNat c.entries.length)).append
    (Text.isEncodable_ofString " libraries, checksum ")
  exact size.append (isEncodable_checksum checksum)

-- There is a line on a catalog if it has a checksum.
theorem Catalog.exists_checksum_of_summary {c : Catalog} (h : c.summary = .ok t) :
    ∃ sum, c.checksum = .ok sum := by
  obtain ⟨sum, checksum, -⟩ := Except.bind_eq_ok_iff.mp h
  exact ⟨sum, checksum⟩

namespace Command

variable {session session' : Session}

theorem run_bind_ok {x : Command α} {f : α → Command β} (h : run x session = (.ok a, session')) :
    run (x >>= f) session = run (f a) session' :=
  ExceptT.run_bind_ok h

theorem run_bind_error {x : Command α} {f : α → Command β}
    (h : run x session = (.error e, session')) : run (x >>= f) session = (.error e, session') :=
  ExceptT.run_bind_error h

theorem run_bind (x : Command α) (f : α → Command β) (session : Session) :
    run (x >>= f) session = match run x session with
      | (.ok a, session')    => run (f a) session'
      | (.error e, session') => (.error e, session') := by
  cases ran : run x session with | mk result session'
  cases result
  case ok a    => exact run_bind_ok ran
  case error e => exact run_bind_error ran

-- A command that reads the session goes on with that session.
theorem run_get_bind {f : Session → Command α} : run (get >>= f) session = run (f session) session :=
  run_bind_ok rfl

-- Reports on a good payload.
def reportGood (s : Settings) (path : Path) (summary : Text) : Command Bool := do
  report (look s) .ok (path.text ++ ": " ++ summary)
  return true

-- What has a UTF-8 form can be put out everywhere.
theorem run_print (p : Printed) (session : Session)
    (h : session.output.encoded = true → ∀ t ∈ p.texts, t.IsEncodable) :
    run (print p) session = (.ok ⟨⟩, { session with printed := session.printed ++ [p] }) := by
  have fine : ¬(session.output.encoded && p.texts.any (·.utf8?.isNone)) = true := by
    rw [Bool.and_eq_true, List.any_eq_true]
    rintro ⟨encoded, t, ht, none⟩
    have some := Text.isSome_utf8?_iff.mpr (h encoded t ht)
    rw [Option.isNone_iff_eq_none] at none
    simp [none] at some
  rw [print, run_get_bind, if_neg fine]
  rfl

theorem run_print_unshown (encoded : session.output.encoded = true) (ht : t ∈ p.texts)
    (unshown : ¬t.IsEncodable) : run (print p) session = (.error (.encode .loneSurrogate), session) := by
  have stuck : (session.output.encoded && p.texts.any (·.utf8?.isNone)) = true := by
    rw [encoded, Bool.true_and, List.any_eq_true]
    rw [← Text.isSome_utf8?_iff, Bool.not_eq_true, Option.isSome_eq_false_iff] at unshown
    exact ⟨t, ht, unshown⟩
  rw [print, run_get_bind, if_pos stuck]
  rfl

theorem run_report (l : Report.Look) (severity : Severity) {message : Text}
    (h : session.output.encoded = true → message.IsEncodable) :
    ∃ printed, run (report l severity message) session = (.ok ⟨⟩, { session with printed }) := by
  rw [report, run_get_bind]
  refine ⟨_, run_print _ session fun encoded t ht => ?_⟩
  rw [List.mem_singleton.mp ht]
  exact Report.isEncodable_line _ _ _ (h encoded)

theorem run_report_unshown (l : Report.Look) (severity : Severity) {message : Text}
    (encoded : session.output.encoded = true) (unshown : ¬message.IsEncodable) :
    run (report l severity message) session = (.error (.encode .loneSurrogate), session) := by
  rw [← Report.isEncodable_line_iff l session.output.terminal severity] at unshown
  rw [report, run_get_bind]
  exact run_print_unshown encoded (List.mem_singleton.mpr rfl) unshown

-- The line on a good payload can be put out if its name can.
theorem run_reportGood_eq_ok_iff (s : Settings) (path : Path) {summary : Text} (hs : summary.IsEncodable) :
    (run (reportGood s path summary) session).1 = .ok true ↔
      (session.output.encoded = true → path.text.IsEncodable) := by
  constructor
  case mp =>
    intro good encoded
    by_contra unnamed
    have unshown : ¬Text.IsEncodable (path.text ++ ": " ++ summary) := fun whole =>
      unnamed (whole.subset fun c hc => List.mem_append_left _ (List.mem_append_left _ hc))
    rw [reportGood, run_bind_error (run_report_unshown _ _ encoded unshown)] at good
    cases good
  case mpr =>
    intro hp
    obtain ⟨printed, reported⟩ := run_report (look s) .ok fun encoded =>
      ((hp encoded).append (Text.isEncodable_ofString ": ")).append hs
    rw [reportGood, run_bind_ok reported]
    rfl

theorem validate_singleton (s : Settings) (path : Path) : validate s [path] = validateOne s path := by
  simp [validate]

theorem run_validateOne {s : Settings} {path : Path} {c : Catalog}
    (loaded : loadCatalog s session.tree path = .ok c) (summed : c.summary = .ok summary) :
    run (validateOne s path) session = run (reportGood s path summary) session := by
  rw [validateOne, run_get_bind, loaded]
  simp only [summed]
  rfl

theorem exists_of_validateOne {s : Settings} {path : Path}
    (valid : (run (validateOne s path) session).1 = .ok true) :
    ∃ c summary, loadCatalog s session.tree path = .ok c ∧ c.summary = .ok summary := by
  rw [validateOne, run_get_bind] at valid
  cases loaded : loadCatalog s session.tree path
  case error f =>
    simp only [loaded] at valid
    cases f
    case refused r =>
      cases reported : run (report (look s) .fail r.message) session with | mk result session'
      cases result
      case error => nomatch run_bind_error reported ▸ valid
      case ok    => nomatch run_bind_ok reported ▸ valid
    all_goals cases valid
  case ok c =>
    simp only [loaded] at valid
    cases summed : c.summary
    case error e =>
      simp only [summed] at valid
      cases valid
    case ok summary => exact ⟨c, summary, rfl, summed⟩

end Command
end TraitCatalog

import TraitCatalog.Proofs.Handoff.Unlogged
import TraitCatalog.Proofs.Payload.Rejected

namespace TraitCatalog
namespace Handoff

-- A step of a producer or a consumer, on the exchange of a number.
inductive Step
  | register (number : Nat) (c : Catalog)
  | registerLiteral (number : Nat) (literal : Json)
  -- The loader is this step's own, and the files are as they are by then.
  | loadPayload (number : Nat) (loader : Loader) (tree : FileTree) (path : Path) (format : Option Format)
  | bind (number : Nat) (c : Candidate)
  | unbind (number : Nat)
  | takePending (number : Nat)

-- What there is to be seen of a step.
structure Sight where
  result : Except Trouble Answer
  calls  : List (Hook × Catalog)

namespace Step

-- The step has data instead of a catalog.
def FromData : Step → Prop
  | registerLiteral .. | loadPayload .. => True
  | _                                   => False

-- There is no catalog to be had from the data of the step.
inductive Fails : Step → LoadError → Prop
  | literal (flaw : Catalog.ofJson Catalog.literalContext literal = .error f) :
    Fails (.registerLiteral number literal) (.flaw f)
  | payload (rejects : loader.Rejects tree path format e) :
    Fails (.loadPayload number loader tree path format) e

-- The data of the step makes up a catalog, which is for the exchange of a number.
inductive Builds : Step → (number : Nat) → Catalog → Prop
  | literal (built : Catalog.ofJson Catalog.literalContext literal = .ok c) :
    Builds (.registerLiteral number literal) number c
  | payload (loaded : loader.loadCatalog tree path format = .ok c) :
    Builds (.loadPayload number loader tree path format) number c

section

variable (call : Hook → Parcel → Operation Unit)

def perform : Step → Operation Answer
  | register number c => return .outcome (← registerBy call number c)
  | registerLiteral number literal => return .outcome (← registerLiteralBy call number literal)
  | loadPayload number loader tree path format =>
    return .outcome (← loadPayloadBy call number loader tree path format)
  | bind number c => do return .catalog (← Handoff.bind call number (← c.resolve))
  | unbind number => return .hook (← Handoff.unbind number)
  | takePending number => return .catalog (← Handoff.takePending number)

def sight (step : Step) (s : Scene) : Sight where
  result := (run (step.perform call) s).1
  calls  := (run (step.perform call) s).2.journal.drop s.journal.length

-- The scene behind a step, whatever comes of it.
def next (step : Step) (s : Scene) : Scene :=
  (run (step.perform call) s).2

end
end Step

section

variable (call : Hook → Parcel → Operation Unit)

def sights : List Step → Scene → List Sight
  | [], _            => []
  | step :: steps, s => step.sight call s :: sights steps (step.next call s)

def final : List Step → Scene → Scene
  | [], s            => s
  | step :: steps, s => final steps (step.next call s)

end

section

variable {call : Hook → Parcel → Operation Unit} {step : Step} {s : Scene} {e : LoadError} {c : Catalog}
variable {number : Nat}

theorem sights_append (front back : List Step) (s : Scene) :
    sights call (front ++ back) s = sights call front s ++ sights call back (final call front s) := by
  induction front generalizing s
  case nil                => rfl
  case cons step front ih => rw [List.cons_append, sights, sights, final, ih, List.cons_append]

theorem final_append (front back : List Step) (s : Scene) :
    final call (front ++ back) s = final call back (final call front s) := by
  induction front generalizing s
  case nil                => rfl
  case cons step front ih => rw [List.cons_append, final, final, ih]

namespace Step

theorem fails_or_builds (data : step.FromData) :
    (∃ e, step.Fails e) ∨ ∃ number c, step.Builds number c := by
  cases step
  case registerLiteral number literal =>
    cases built : Catalog.ofJson Catalog.literalContext literal
    case error f => exact .inl ⟨_, .literal built⟩
    case ok c    => exact .inr ⟨_, _, .literal built⟩
  case loadPayload number loader tree path format =>
    cases loaded : loader.loadCatalog tree path format
    case error e => exact .inl ⟨_, .payload (Loader.loadCatalog_eq_error_iff.mp loaded)⟩
    case ok c    => exact .inr ⟨_, _, .payload loaded⟩
  all_goals cases data

-- No hook is called, and the scene stays as it is.
theorem run_of_fails (fails : step.Fails e) (call : Hook → Parcel → Operation Unit) (s : Scene) :
    run (step.perform call) s = (.error (.load e), s) := by
  cases fails
  case literal flaw =>
    rw [perform, registerLiteralBy, flaw]
    rfl
  case payload rejects =>
    rw [perform, loadPayloadBy, Loader.loadCatalog_eq_error_iff.mpr rejects]
    rfl

-- A payload that was loaded leaves a record behind; that is all there is to tell the steps apart.
theorem run_of_builds (builds : step.Builds number c) (call : Hook → Parcel → Operation Unit) (s : Scene) :
    ∃ records, run (step.perform call) s =
      ((run ((register number c).perform call) s).1,
        (run ((register number c).perform call) s).2.withLog records) := by
  cases builds
  case literal built =>
    simp only [perform, registerLiteralBy, built]
    exact ⟨_, rfl⟩
  case payload loaded =>
    simp only [perform, loadPayloadBy, loaded, run_bind]
    cases run (registerBy call number c) s with | mk result s'
    cases result
    case ok outcome => exact ⟨_, rfl⟩
    case error t    => exact ⟨s'.log, rfl⟩

theorem ignoresLog (calls : ∀ h p, IgnoresLog (call h p)) (step : Step) :
    IgnoresLog (step.perform call) := by
  cases step
  case register number c              => exact (IgnoresLog.registerBy calls number c).bind fun _ => .pure _
  case registerLiteral number literal =>
    exact (IgnoresLog.registerLiteralBy calls number literal).bind fun _ => .pure _
  case loadPayload number loader tree path format =>
    exact (IgnoresLog.loadPayloadBy calls number loader tree path format).bind fun _ => .pure _
  case bind number c =>
    exact (IgnoresLog.resolve c).bind fun h => (IgnoresLog.bindHook calls number h).bind fun _ => .pure _
  case unbind number                  => exact (IgnoresLog.unbind number).bind fun _ => .pure _
  case takePending number             => exact (IgnoresLog.takePending number).bind fun _ => .pure _

end Step

theorem length_sights (steps : List Step) (s : Scene) : (sights call steps s).length = steps.length := by
  induction steps generalizing s
  case nil                => rfl
  case cons step steps ih => rw [sights, List.length_cons, List.length_cons, ih]

-- What has been logged before a course makes no difference to it.
theorem course_withLog (calls : ∀ h p, IgnoresLog (call h p)) (steps : List Step) (s : Scene)
    (records : List LogRecord) : sights call steps (s.withLog records) = sights call steps s ∧
      ∃ records', final call steps (s.withLog records) = (final call steps s).withLog records' := by
  induction steps generalizing s records
  case nil => exact ⟨rfl, records, rfl⟩
  case cons step steps ih =>
    obtain ⟨records', ran⟩ := step.ignoresLog calls s records
    have sight : step.sight call (s.withLog records) = step.sight call s := by
      rw [Step.sight, ran]
      rfl
    have next : step.next call (s.withLog records) = (step.next call s).withLog records' := by
      rw [Step.next, ran]
      rfl
    rw [sights, final, sight, next]
    obtain ⟨others, last⟩ := ih (step.next call s) records'
    exact ⟨congrArg _ others, last⟩

-- A failed step leaves no trace, so it could as well have been left out.
theorem course_of_fails (fails : step.Fails e) (front back : List Step) (s : Scene) :
    (sights call (front ++ step :: back) s)[front.length]? = some ⟨.error (.load e), []⟩ ∧
    (sights call (front ++ step :: back) s).eraseIdx front.length = sights call (front ++ back) s ∧
    final call (front ++ step :: back) s = final call (front ++ back) s := by
  have ran := step.run_of_fails fails call (final call front s)
  have sight : step.sight call (final call front s) = ⟨.error (.load e), []⟩ := by
    rw [Step.sight, ran, List.drop_length]
  have next : step.next call (final call front s) = final call front s := by
    rw [Step.next, ran]
  have length : (sights call front s).length = front.length := length_sights front s
  rw [sights_append, sights_append, final_append, final_append, sights, final, sight, next, ← length]
  refine ⟨?sights, ?erased, rfl⟩
  case sights => simp
  case erased => rw [List.eraseIdx_append_of_length_le (Nat.le_refl _), Nat.sub_self, List.eraseIdx_zero,
    List.tail_cons]

theorem course_of_builds (builds : step.Builds number c) (calls : ∀ h p, IgnoresLog (call h p))
    (front back : List Step) (s : Scene) :
    sights call (front ++ step :: back) s = sights call (front ++ .register number c :: back) s ∧
    ∃ records, final call (front ++ step :: back) s =
      (final call (front ++ .register number c :: back) s).withLog records := by
  obtain ⟨records, ran⟩ := step.run_of_builds builds call (final call front s)
  have sight : step.sight call (final call front s) =
      (Step.register number c).sight call (final call front s) := by
    rw [Step.sight, ran]
    rfl
  have next : step.next call (final call front s) =
      ((Step.register number c).next call (final call front s)).withLog records := by
    rw [Step.next, ran]
    rfl
  rw [sights_append, sights_append, final_append, final_append, sights, sights, final, final, sight, next]
  obtain ⟨others, last⟩ := course_withLog calls back _ records
  exact ⟨by rw [others], last⟩

-- A step that sets out from data fails or builds a catalog. If it fails, it changes nothing, and all other
-- steps of a course and the scene in the end are the same without it. If it builds a catalog, it comes to the
-- same as registering that catalog, but for what is logged.
theorem loads_all_or_nothing (call : Hook → Parcel → Operation Unit) (front back : List Step) (s : Scene)
    (step : Step) :
    (step.FromData → (∃ e, step.Fails e) ∨ ∃ number c, step.Builds number c) ∧
    (∀ e, step.Fails e →
      run (step.perform call) s = (.error (.load e), s) ∧
      (sights call (front ++ step :: back) s)[front.length]? = some ⟨.error (.load e), []⟩ ∧
      (sights call (front ++ step :: back) s).eraseIdx front.length = sights call (front ++ back) s ∧
      final call (front ++ step :: back) s = final call (front ++ back) s) ∧
    ∀ number c, step.Builds number c →
      (∃ records, run (step.perform call) s =
        ((run ((Step.register number c).perform call) s).1,
          (run ((Step.register number c).perform call) s).2.withLog records)) ∧
      ((∀ h p, IgnoresLog (call h p)) →
        sights call (front ++ step :: back) s = sights call (front ++ .register number c :: back) s ∧
        ∃ records, final call (front ++ step :: back) s =
          (final call (front ++ .register number c :: back) s).withLog records) := by
  refine ⟨step.fails_or_builds, fun e fails => ?fails, fun number c builds => ?builds⟩
  case fails  => exact ⟨step.run_of_fails fails call s, course_of_fails fails front back s⟩
  case builds =>
    exact ⟨step.run_of_builds builds call s, fun calls => course_of_builds builds calls front back s⟩

end

-- A scene with a hook that fails at its first call.
def Scene.withFaltering : Scene :=
  .initial [("table", ⟨0, [], fun calls _ => if calls = 1 then some (.failed "not yet") else none⟩)]

-- A payload is missing while a catalog waits that a hook has failed on, and a literal comes in its place.
theorem loads_all_or_nothing_faltering :
    let front : List Step := [.register standing .empty, .bind standing (.hook "table")]
    let back : List Step := [.registerLiteral standing .null, .bind standing (.hook "table"), .unbind standing]
    let missing : Step := .loadPayload standing (.new none true) .empty (.ofText "missing.json") none
    let literal : Step := .registerLiteral standing (.object [("a", .array [])])
    (missing.Fails (.file (.ofText "missing.json") .missing) ∧
      (sights (call defaultName) (front ++ missing :: back) .withFaltering).eraseIdx 2 =
        sights (call defaultName) (front ++ back) .withFaltering ∧
      final (call defaultName) (front ++ missing :: back) .withFaltering =
        final (call defaultName) (front ++ back) .withFaltering) ∧
    (literal.FromData ∧ ((∃ e, literal.Fails e) ∨ ∃ number c, literal.Builds number c) ∧
      literal.Builds standing (.ofPairs [("a", [])]) ∧ (∀ h p, IgnoresLog (call defaultName h p)) ∧
      sights (call defaultName) (front ++ literal :: back) .withFaltering =
        sights (call defaultName) (front ++ .register standing (.ofPairs [("a", [])]) :: back)
          .withFaltering) := by
  intro front back missing literal
  have fails : missing.Fails (.file (.ofText "missing.json") .missing) := .payload (.unreadable rfl)
  have builds : literal.Builds standing (.ofPairs [("a", [])]) := .literal rfl
  have calls : ∀ h p, IgnoresLog (call defaultName h p) := ignoresLog_call defaultName
  have nothing := loads_all_or_nothing (call defaultName) front back .withFaltering missing
  have all := loads_all_or_nothing (call defaultName) front back .withFaltering literal
  obtain ⟨-, -, others, same⟩ := nothing.right.left _ fails
  obtain ⟨-, alike⟩ := all.right.right standing _ builds
  exact ⟨⟨fails, others, same⟩, trivial, all.left trivial, builds, calls, (alike calls).left⟩

end Handoff
end TraitCatalog

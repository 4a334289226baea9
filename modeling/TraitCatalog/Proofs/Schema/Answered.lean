import TraitCatalog.Proofs.Schema.Bundled

namespace TraitCatalog
namespace Findings

-- The first of the findings is no fault.
structure Answers (findings : Findings) : Prop where
  faultless : ∀ f, findings ≠ .fault f

theorem Answers.none : Answers .none :=
  ⟨fun _ => Findings.noConfusion⟩

theorem Answers.found (v : Violation) (more : Unit → Findings) : Answers (.found v more) :=
  ⟨fun _ => Findings.noConfusion⟩

theorem Answers.violation (v : Violation) : Answers (.violation v) :=
  .found v _

theorem Answers.violationIf (condition : Bool) (v : Violation) : Answers (.violationIf condition v) := by
  cases condition
  case false => exact .none
  case true  => exact .violation v

theorem Answers.ofEach {check : α → Findings} {as : List α} (h : ∀ a ∈ as, (check a).Answers) :
    Answers (.ofEach check as) := by
  induction as
  case nil => exact .none
  case cons a as ih =>
    obtain ⟨first, others⟩ := List.forall_mem_cons.mp h
    rw [Findings.ofEach]
    cases found : check a
    case none      => exact ih others
    case fault f   => exact absurd found (first.faultless f)
    case found v _ => exact .found v _

theorem Answers.verdict {findings : Findings} (h : findings.Answers) (f : SchemaFault) :
    findings.verdict ≠ .unanswered f := by
  cases findings
  case none  => exact nofun
  case fault => exact absurd rfl (h.faultless _)
  case found => exact nofun

end Findings

namespace Schema

variable {s : Schema} {outside : Outside} {c : Checker} {scope : Scope} {rules : List Rule} {v : Json}

theorem Sets.answers (sets : Sets schema rules) (dialect : scope.dialect = .draft2020)
    (h : ∀ r ∈ rules, (s.ruleFindings outside c scope schema r v).Answers) :
    (s.schemaFindings outside c scope schema v).Answers := by
  rw [sets.findings dialect]
  exact .ofEach h

theorem Sets.checkEach_answers (sets : Sets schema rules) (dialect : scope.dialect = .draft2020)
    (inside : ∀ w, (c.check scope schema w).Answers) (vs : List Json) :
    (c.checkEach scope schema vs).Answers := by
  refine .ofEach fun w _ => ?_
  rw [sets.checkInside_eq dialect]
  exact inside w

theorem type_answers (whole : Json) (kinds : List Kind) (v : Json) :
    (s.ruleFindings outside c scope whole (.type kinds) v).Answers :=
  .violationIf ..

theorem atLeast_answers (whole : Json) (m : Measure) (b : Number) (v : Json) :
    (s.ruleFindings outside c scope whole (.atLeast m b) v).Answers :=
  .violationIf ..

theorem items_answers (whole : Json) (sets : Sets schema rules) (dialect : scope.dialect = .draft2020)
    (inside : ∀ w, (c.check scope schema w).Answers) (v : Json) :
    (s.ruleFindings outside c scope whole (.items first schema) v).Answers := by
  cases v
  case array vs => exact sets.checkEach_answers dialect inside _
  all_goals exact .none

theorem required_answers (whole : Json) (key : Text) (v : Json) :
    (s.ruleFindings outside c scope whole (.required (.string key)) v).Answers := by
  cases v
  case object => exact .violationIf ..
  all_goals exact .none

theorem field_answers (whole : Json) (key : Text) (sets : Sets schema rules)
    (dialect : scope.dialect = .draft2020) (inside : ∀ w, (c.check scope schema w).Answers) (v : Json) :
    (s.ruleFindings outside c scope whole (.field key schema) v).Answers := by
  cases v
  case object members =>
    cases found : Keyed.get? members key
    case none => simpa [ruleFindings, objectFindings, found] using .none
    case some w =>
      simpa [ruleFindings, objectFindings, found, sets.checkInside_eq dialect] using inside w
  all_goals exact .none

theorem noOtherFields_answers (whole : Json) (names : Keyed Json) (v : Json) :
    (s.ruleFindings outside c scope whole (.noOtherFields ⟨.object names, none⟩) v).Answers := by
  cases v
  case object members =>
    simp only [ruleFindings, objectFindings, others_of_names, Except.ok_bind, Option.isNone_none, if_true]
    split
    case isTrue  => exact .none
    case isFalse => exact .violation _
  all_goals exact .none

theorem otherFields_answers (whole : Json) (sets : Sets schema rules) (dialect : scope.dialect = .draft2020)
    (inside : ∀ w, (c.check scope schema w).Answers) (names : Keyed Json) (v : Json) :
    (s.ruleFindings outside c scope whole (.otherFields ⟨.object names, none⟩ schema) v).Answers := by
  cases v
  case object members =>
    simp only [ruleFindings, objectFindings, others_of_names, Except.ok_bind]
    exact sets.checkEach_answers dialect inside _
  all_goals exact .none

theorem identifier_answers (dialect : scope.dialect = .draft2020) (v : Json) :
    (s.schemaFindings outside c scope catalog.identifier v).Answers := by
  refine identifier_sets.answers dialect ?_
  simp only [List.forall_mem_cons]
  exact ⟨type_answers .., atLeast_answers .., List.forall_mem_nil _⟩

theorem text_answers (dialect : scope.dialect = .draft2020) (v : Json) :
    (s.schemaFindings outside c scope catalog.text v).Answers :=
  text_sets.answers dialect (List.forall_mem_singleton.mpr (type_answers ..))

theorem synthetic_answers (dialect : scope.dialect = .draft2020) (v : Json) :
    (s.schemaFindings outside c scope catalog.synthetic v).Answers :=
  synthetic_sets.answers dialect (List.forall_mem_singleton.mpr (type_answers ..))

theorem types_answers (dialect : scope.dialect = .draft2020)
    (inside : ∀ w, (c.check scope catalog.identifier w).Answers) (v : Json) :
    (s.schemaFindings outside c scope catalog.types v).Answers := by
  refine types_sets.answers dialect ?_
  simp only [List.forall_mem_cons]
  exact ⟨type_answers .., atLeast_answers .., items_answers _ identifier_sets dialect inside v,
    List.forall_mem_nil _⟩

theorem implementor_answers (dialect : scope.dialect = .draft2020)
    (text : ∀ w, (c.check scope catalog.text w).Answers)
    (synthetic : ∀ w, (c.check scope catalog.synthetic w).Answers)
    (types : ∀ w, (c.check scope catalog.types w).Answers) (v : Json) :
    (s.schemaFindings outside c scope catalog.implementor v).Answers := by
  refine implementor_sets.answers dialect ?_
  simp only [List.forall_mem_cons]
  exact ⟨type_answers .., required_answers .., required_answers .., required_answers ..,
    noOtherFields_answers .., field_answers _ _ text_sets dialect text v,
    field_answers _ _ synthetic_sets dialect synthetic v, field_answers _ _ types_sets dialect types v,
    List.forall_mem_nil _⟩

theorem reference_answers (inside : ∀ w, (c.checkBeyond { catalog.scope with outer := [catalog.address] }
    catalog.implementor w).Answers) (v : Json) :
    (catalog.schemaFindings outside c catalog.scope catalog.reference v).Answers := by
  refine reference_sets.answers rfl (List.forall_mem_singleton.mpr ?_)
  simp only [ruleFindings, resolve_reference, Except.mapError_ok, Except.ok_bind]
  exact inside v

theorem library_answers (inside : ∀ w, (c.check catalog.scope catalog.reference w).Answers) (v : Json) :
    (catalog.schemaFindings outside c catalog.scope catalog.library v).Answers := by
  refine library_sets.answers rfl ?_
  simp only [List.forall_mem_cons]
  exact ⟨type_answers .., items_answers _ reference_sets rfl inside v, List.forall_mem_nil _⟩

-- The checks stand in each other up to a depth of twelve.
theorem library_answers_at (depth : Nat) (v : Json) :
    ((catalog.checker outside (depth + 12)).check catalog.scope catalog.library v).Answers := by
  rw [check_checker]
  refine library_answers (fun w => ?_) v
  rw [check_checker]
  refine reference_answers (fun w => ?_) w
  rw [checkBeyond_checker]
  refine implementor_answers rfl (fun u => ?_) (fun u => ?_) (fun u => ?_) w
  · rw [check_checker]
    exact text_answers rfl u
  · rw [check_checker]
    exact synthetic_answers rfl u
  · rw [check_checker]
    refine types_answers rfl (fun t => ?_) u
    rw [check_checker]
    exact identifier_answers rfl t

theorem catalog_answers (v : Json) (f : SchemaFault) : catalog.verdict outside v ≠ .unanswered f := by
  have dialect : catalog.scope.dialect = .draft2020 := rfl
  have deep : mostDepth = 973 + 12 := rfl
  refine Findings.Answers.verdict ?_ f
  rw [findings, rulesFindings, dialect, rulesIn_catalog, deep]
  refine .ofEach ?_
  simp only [List.forall_mem_cons]
  exact ⟨type_answers .., otherFields_answers _ library_sets dialect (library_answers_at 973) [] v,
    List.forall_mem_nil _⟩

end Schema
end TraitCatalog

import Mathlib.Tactic.Common
import TraitCatalog.Schema.Findings

namespace TraitCatalog
namespace Findings

@[simp]
theorem andThen_eq_none_iff {first : Findings} {second : Unit → Findings} :
    first.andThen second = none ↔ first = none ∧ second () = none := by
  cases first <;> simp [andThen]

@[simp]
theorem ofEach_eq_none_iff {check : α → Findings} {as : List α} :
    ofEach check as = none ↔ ∀ a ∈ as, check a = none := by
  induction as
  case nil => simp [ofEach]
  case cons a as ih => simp [ofEach, ih]

@[simp]
theorem violationIf_eq_none_iff {condition : Bool} {v : Violation} :
    violationIf condition v = none ↔ condition = false := by
  cases condition <;> simp [violationIf, violation]

@[simp]
theorem ofExcept_ok (findings : Findings) : ofExcept (.ok findings) = findings := rfl

theorem verdict_eq_kept_iff {findings : Findings} : findings.verdict = .kept ↔ findings = none := by
  cases findings <;> simp [verdict]

end Findings
end TraitCatalog

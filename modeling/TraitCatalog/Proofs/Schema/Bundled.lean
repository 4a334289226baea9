import TraitCatalog.Proofs.Catalog.Built
import TraitCatalog.Proofs.Schema.Findings
import TraitCatalog.Schema.Bundled

namespace TraitCatalog
namespace Schema

-- The document tells the address that the schema is known under.
theorem ofFields_catalog : Schema.ofFields catalog.fields = .ok catalog := rfl

variable {s : Schema} {outside : Outside} {c : Checker} {scope : Scope} {rules : List Rule}
  {members : Keyed Json} {v : Json}

-- A schema without a dialect and an address of its own, and the rules that it sets.
structure Sets (schema : Json) (rules : List Rule) : Prop where
  fields : ∃ fields, schema = .object fields ∧ Keyed.get? fields "$schema" = none ∧
    rulesIn .draft2020 fields = rules
  own : ownAddress? .draft2020 schema = .ok none

-- Such a schema is checked rule by rule in the dialect around it.
theorem Sets.findings (sets : Sets schema rules) (dialect : scope.dialect = .draft2020) :
    s.schemaFindings outside c scope schema v = .ofEach (fun r => s.ruleFindings outside c scope schema r v) rules := by
  obtain ⟨fields, rfl, unnamed, rfl⟩ := sets.fields
  have spoken : speak scope (.object fields) = .ok scope := by
    simp only [speak, unnamed]
  simp [schemaFindings, spoken, rulesFindings, dialect]

theorem Sets.findings_eq_none_iff (sets : Sets schema rules) (dialect : scope.dialect = .draft2020) :
    s.schemaFindings outside c scope schema v = .none ↔
      ∀ r ∈ rules, s.ruleFindings outside c scope schema r v = .none := by
  rw [sets.findings dialect, Findings.ofEach_eq_none_iff]

-- Inside of a schema it is checked where it stands.
theorem Sets.checkInside_eq (sets : Sets schema rules) (dialect : scope.dialect = .draft2020) :
    c.checkInside scope schema v = c.check scope schema v := by
  unfold Checker.checkInside
  split
  case h_1 => rfl
  case h_2 => simp [dialect, sets.own]

theorem identifier_sets : Sets catalog.identifier [.type [.string], .atLeast .length (.whole 1)] :=
  ⟨⟨_, rfl, rfl, rfl⟩, rfl⟩

theorem text_sets : Sets catalog.text [.type [.string]] :=
  ⟨⟨_, rfl, rfl, rfl⟩, rfl⟩

theorem synthetic_sets : Sets catalog.synthetic [.type [.boolean]] :=
  ⟨⟨_, rfl, rfl, rfl⟩, rfl⟩

theorem types_sets : Sets catalog.types
    [.type [.array], .atLeast .items (.whole 1), .items 0 catalog.identifier] :=
  ⟨⟨_, rfl, rfl, rfl⟩, rfl⟩

theorem implementor_sets : Sets catalog.implementor
    [.type [.object], .required (.string "text"), .required (.string "synthetic"),
     .required (.string "types"),
     .noOtherFields ⟨.object [("text", catalog.text), ("synthetic", catalog.synthetic),
       ("types", catalog.types)], none⟩,
     .field "text" catalog.text, .field "synthetic" catalog.synthetic,
     .field "types" catalog.types] :=
  ⟨⟨_, rfl, rfl, rfl⟩, rfl⟩

theorem reference_sets : Sets catalog.reference [.refer "#/$defs/implementor"] :=
  ⟨⟨_, rfl, rfl, rfl⟩, rfl⟩

theorem library_sets : Sets catalog.library [.type [.array], .items 0 catalog.reference] :=
  ⟨⟨_, rfl, rfl, rfl⟩, rfl⟩

theorem rulesIn_catalog : rulesIn .draft2020 catalog.fields =
    [.type [.object], .otherFields ⟨.object [], none⟩ catalog.library] := rfl

theorem type_passes (kind : Kind) (whole : Json) :
    s.ruleFindings outside c scope whole (.type [kind]) v = .none ↔ kind.holds scope.dialect v = true := by
  simp [ruleFindings]

theorem atLeast_one_passes {m : Measure} (whole : Json) (counted : m.count? v = some n) :
    s.ruleFindings outside c scope whole (.atLeast m (.whole 1)) v = .none ↔ n ≠ 0 := by
  simp only [ruleFindings, Findings.violationIf_eq_none_iff, counted, Option.bind_eq_bind, Option.bind_some,
    Option.pure_def, Option.any_some, Number.less_whole, decide_eq_false_iff_not]
  omega

theorem items_passes (whole : Json) (sets : Sets schema rules) (dialect : scope.dialect = .draft2020) :
    s.ruleFindings outside c scope whole (.items 0 schema) (.array vs) = .none ↔
      ∀ w ∈ vs, c.check scope schema w = .none := by
  simp [ruleFindings, arrayFindings, Checker.checkEach, sets.checkInside_eq dialect]

theorem identifier_passes (dialect : scope.dialect = .draft2020) :
    s.schemaFindings outside c scope catalog.identifier v = .none ↔ ∃ t, v = .string t ∧ t ≠ [] := by
  rw [identifier_sets.findings_eq_none_iff dialect]
  simp only [List.forall_mem_cons, type_passes, dialect]
  cases v
  case string t =>
    have counted : Measure.length.count? (.string t) = some t.length := rfl
    simp [Kind.holds, atLeast_one_passes _ counted]
  all_goals simp [Kind.holds]

theorem text_passes (dialect : scope.dialect = .draft2020) :
    s.schemaFindings outside c scope catalog.text v = .none ↔ ∃ t, v = .string t := by
  rw [text_sets.findings_eq_none_iff dialect, List.forall_mem_singleton, type_passes, dialect]
  cases v <;> simp [Kind.holds]

theorem synthetic_passes (dialect : scope.dialect = .draft2020) :
    s.schemaFindings outside c scope catalog.synthetic v = .none ↔ ∃ b, v = .bool b := by
  rw [synthetic_sets.findings_eq_none_iff dialect, List.forall_mem_singleton, type_passes, dialect]
  cases v <;> simp [Kind.holds]

-- The texts of an array, if it holds nothing else.
theorem exists_strings_iff {vs : List Json} :
    (∀ w ∈ vs, ∃ t, w = .string t ∧ t ≠ []) ↔ ∃ ts : List Text, vs = ts.map .string ∧ [] ∉ ts := by
  induction vs
  case nil => simp
  case cons v vs ih =>
    simp only [List.forall_mem_cons, ih]
    constructor
    case mp =>
      rintro ⟨⟨t, rfl, ht⟩, ts, rfl, hts⟩
      exact ⟨t :: ts, rfl, by simp [Ne.symm ht, hts]⟩
    case mpr =>
      rintro ⟨ts, h, hts⟩
      cases ts with
      | nil => cases h
      | cons t ts =>
        cases h
        rw [List.mem_cons, not_or] at hts
        exact ⟨⟨t, rfl, Ne.symm hts.left⟩, ts, rfl, hts.right⟩

theorem types_passes (dialect : scope.dialect = .draft2020)
    (inside : ∀ w, c.check scope catalog.identifier w = .none ↔ ∃ t, w = .string t ∧ t ≠ []) :
    s.schemaFindings outside c scope catalog.types v = .none ↔
      ∃ ts : List Text, v = .strings ts ∧ ts ≠ [] ∧ [] ∉ ts := by
  rw [types_sets.findings_eq_none_iff dialect]
  simp only [List.forall_mem_cons, type_passes, dialect]
  cases v
  case array vs =>
    have counted : Measure.items.count? (.array vs) = some vs.length := rfl
    simp only [atLeast_one_passes _ counted, items_passes _ identifier_sets dialect, inside,
      exists_strings_iff]
    constructor
    case mp =>
      rintro ⟨-, hn, ⟨ts, rfl, hts⟩, -⟩
      exact ⟨ts, rfl, fun h => hn (by simp [h]), hts⟩
    case mpr =>
      rintro ⟨ts, h, hn, hts⟩
      cases h
      exact ⟨rfl, by simpa using hn, ⟨ts, rfl, hts⟩, List.forall_mem_nil _⟩
  all_goals simp [Kind.holds, Json.strings]

theorem required_passes (whole : Json) (key : Text) :
    s.ruleFindings outside c scope whole (.required (.string key)) (.object members) = .none ↔
      ∃ w, members.get? key = some w := by
  simp [ruleFindings, objectFindings, missing, Keyed.contains, Option.isSome_iff_exists]

theorem field_passes (whole : Json) (key : Text) (sets : Sets schema rules)
    (dialect : scope.dialect = .draft2020) :
    s.ruleFindings outside c scope whole (.field key schema) (.object members) = .none ↔
      ∀ w, members.get? key = some w → c.check scope schema w = .none := by
  cases found : members.get? key <;> simp [ruleFindings, objectFindings, found, sets.checkInside_eq dialect]

theorem others_of_names (names : Keyed Json) :
    (KnownFields.mk (.object names) none).others members =
      .ok (members.filter fun (key, _) => !names.contains key) := by
  apply Except.filterM_eq_ok_of_forall
  intro p _
  simp only [KnownFields.hasName, Except.ok_bind, Except.pure_eq_ok]
  cases names.contains p.1
  case false => rfl
  case true  => rfl

theorem isEmpty_mergeSort (keys : List Text) : (keys.mergeSort Text.le).isEmpty = keys.isEmpty := by
  rw [Bool.eq_iff_iff, List.isEmpty_iff_length_eq_zero, List.isEmpty_iff_length_eq_zero,
    List.length_mergeSort]

-- An object passes if all of its keys are among the names.
theorem noOtherFields_passes (whole : Json) (names : Keyed Json) :
    s.ruleFindings outside c scope whole (.noOtherFields ⟨.object names, none⟩) (.object members) = .none ↔
      ∀ key ∈ members.keys, key ∈ names.keys := by
  have known : (members.filter fun (key, _) => !names.contains key) = [] ↔
      ∀ key ∈ members.keys, key ∈ names.keys := by
    rw [List.filter_eq_nil_iff, Keyed.keys, List.forall_mem_map]
    simp only [Keyed.contains, ← Keyed.isSome_get?_iff, Bool.not_eq_true', Bool.not_eq_false]
  rw [← known]
  simp only [ruleFindings, objectFindings, others_of_names, Except.ok_bind, isEmpty_mergeSort]
  cases members.filter fun (key, _) => !names.contains key
  case nil  => simp [Keyed.keys]
  case cons => simp [Keyed.keys, Findings.violation]

theorem implementor_passes (dialect : scope.dialect = .draft2020)
    (text : ∀ w, c.check scope catalog.text w = .none ↔ ∃ t, w = .string t)
    (synthetic : ∀ w, c.check scope catalog.synthetic w = .none ↔ ∃ b, w = .bool b)
    (types : ∀ w, c.check scope catalog.types w = .none ↔
      ∃ ts : List Text, w = .strings ts ∧ ts ≠ [] ∧ [] ∉ ts) :
    s.schemaFindings outside c scope catalog.implementor v = .none ↔
      ∃ members : Keyed Json, v = .object members ∧ (∃ d : Implementor, d.DescribedBy members) ∧
        ∀ key ∈ members.keys, key ∈ (["text", "synthetic", "types"] : List Text) := by
  rw [implementor_sets.findings_eq_none_iff dialect]
  simp only [List.forall_mem_cons, type_passes, dialect]
  cases v
  case object members =>
    simp only [required_passes, noOtherFields_passes, field_passes _ _ text_sets dialect,
      field_passes _ _ synthetic_sets dialect, field_passes _ _ types_sets dialect, text, synthetic, types]
    constructor
    case mp =>
      rintro ⟨-, ⟨t, ht⟩, ⟨b, hb⟩, ⟨ts, hts⟩, known, isText, isBool, areTexts, -⟩
      obtain ⟨t, rfl⟩ := isText _ ht
      obtain ⟨b, rfl⟩ := isBool _ hb
      obtain ⟨ts, rfl, hn, he⟩ := areTexts _ hts
      exact ⟨members, rfl, ⟨⟨t, b, ts, hn, he⟩, ht, hb, hts⟩, known⟩
    case mpr =>
      rintro ⟨_, ⟨⟩, ⟨d, text, synthetic, types⟩, known⟩
      rw [text, synthetic, types]
      refine ⟨rfl, ⟨_, rfl⟩, ⟨_, rfl⟩, ⟨_, rfl⟩, known, ?_, ?_, ?_, List.forall_mem_nil _⟩
      · rintro _ ⟨⟩
        exact ⟨_, rfl⟩
      · rintro _ ⟨⟩
        exact ⟨_, rfl⟩
      · rintro _ ⟨⟩
        exact ⟨_, rfl, d.path_ne_nil, d.nil_not_mem_path⟩
  all_goals simp [Kind.holds]

theorem unquote_way : unquote "$defs/implementor" = "$defs/implementor" := by
  have utf8 : Text.utf8? "$defs/implementor" =
    some ("$defs/implementor".toList.map fun c => UInt8.ofNat c.toNat) := rfl
  have gone : unquote "$defs/implementor" =
    textOf ("$defs/implementor".toList.map fun c => UInt8.ofNat c.toNat) := rfl
  rw [gone, textOf, Text.ofUtf8?_utf8? utf8]
  rfl

-- The reference leads to the schema of implementors in the same document.
theorem resolve_reference : catalog.resolve outside catalog.scope "#/$defs/implementor" =
    .ok ({ catalog.scope with outer := [catalog.address] }, catalog.implementor) := by
  have found : catalog.schemaAt outside catalog.scope catalog.address =
    .ok (catalog.scope, .draft2020, catalog.document) := rfl
  have moved : catalog.scope.moveTo catalog.address =
    { catalog.scope with outer := [catalog.address] } := rfl
  have followed (scope : Scope) : follow .draft2020 scope [] catalog.document
    (List.splitOn (Code.char '/') "$defs/implementor") = .ok (scope, catalog.implementor) := rfl
  have fragment : ("#/$defs/implementor" : Text) =
    Code.char '#' :: Code.char '/' :: Text.ofString "$defs/implementor" := rfl
  rw [fragment, resolve]
  simp only [Except.pure_eq_ok, Except.ok_bind]
  have base : catalog.scope.base = catalog.address := rfl
  rw [base, found]
  simp only [Except.ok_bind, moved, unquote_way]
  exact followed _

theorem reference_passes :
    catalog.schemaFindings outside c catalog.scope catalog.reference v = .none ↔
      c.checkBeyond { catalog.scope with outer := [catalog.address] } catalog.implementor v = .none := by
  rw [reference_sets.findings_eq_none_iff rfl, List.forall_mem_singleton]
  simp [ruleFindings, resolve_reference]

theorem library_passes {P : Json → Prop}
    (inside : ∀ w, c.check catalog.scope catalog.reference w = .none ↔ P w) :
    catalog.schemaFindings outside c catalog.scope catalog.library v = .none ↔
      ∃ items, v = .array items ∧ ∀ item ∈ items, P item := by
  rw [library_sets.findings_eq_none_iff rfl]
  simp only [List.forall_mem_cons, type_passes]
  cases v
  case array items =>
    have dialect : catalog.scope.dialect = .draft2020 := rfl
    simp only [items_passes _ reference_sets dialect, inside]
    simp [Kind.holds]
  all_goals simp [Kind.holds]

theorem otherFields_passes (whole : Json) (sets : Sets schema rules)
    (dialect : scope.dialect = .draft2020) :
    s.ruleFindings outside c scope whole (.otherFields ⟨.object [], none⟩ schema) (.object members) = .none ↔
      ∀ p ∈ members, c.check scope schema p.2 = .none := by
  have others : (KnownFields.mk (.object []) none).others members = .ok members := by
    simp [others_of_names, Keyed.contains, Keyed.get?_nil]
  simp only [ruleFindings, objectFindings, others, Except.ok_bind, Except.pure_eq_ok,
    Findings.ofExcept_ok, Checker.checkEach, Findings.ofEach_eq_none_iff,
    sets.checkInside_eq dialect,
    List.forall_mem_map]

theorem check_checker (depth : Nat) : (s.checker outside (depth + 3)).check scope schema v =
    s.schemaFindings outside (s.checker outside (depth + 1)) scope schema v := rfl

theorem checkBeyond_checker (depth : Nat) : (s.checker outside (depth + 3)).checkBeyond scope schema v =
    s.schemaFindings outside (s.checker outside depth) scope schema v := rfl

-- The checks of the schema stand in each other up to a depth of twelve.
theorem library_passes_at (depth : Nat) :
    (catalog.checker outside (depth + 12)).check catalog.scope catalog.library v = .none ↔
      ∃ items, v = .array items ∧ ∀ item ∈ items, ∃ fields : Keyed Json, item = .object fields ∧
        (∃ d : Implementor, d.DescribedBy fields) ∧
          ∀ key ∈ fields.keys, key ∈ (["text", "synthetic", "types"] : List Text) := by
  rw [check_checker]
  refine library_passes fun w => ?_
  rw [check_checker, reference_passes, checkBeyond_checker]
  refine implementor_passes rfl (fun u => ?_) (fun u => ?_) (fun u => ?_)
  · rw [check_checker]
    exact text_passes rfl
  · rw [check_checker]
    exact synthetic_passes rfl
  · rw [check_checker]
    refine types_passes rfl fun t => ?_
    rw [check_checker]
    exact identifier_passes rfl

-- The schema lets an object of lists pass if every item describes an implementor and nothing else.
theorem catalog_passes : catalog.verdict outside v = .kept ↔ ∃ libraries : Keyed Json, v = .object libraries ∧
    ∀ p ∈ libraries, ∃ items, p.2 = .array items ∧ ∀ item ∈ items, ∃ fields : Keyed Json,
      item = .object fields ∧ (∃ d : Implementor, d.DescribedBy fields) ∧
        ∀ key ∈ fields.keys, key ∈ (["text", "synthetic", "types"] : List Text) := by
  have dialect : catalog.scope.dialect = .draft2020 := rfl
  have deep : mostDepth = 973 + 12 := rfl
  rw [verdict, Findings.verdict_eq_kept_iff, findings, rulesFindings, dialect, rulesIn_catalog,
    deep,
    Findings.ofEach_eq_none_iff]
  simp only [List.forall_mem_cons, type_passes]
  cases v
  case object libraries =>
    simp only [otherFields_passes _ library_sets dialect, library_passes_at]
    simp [Kind.holds]
  all_goals simp [Kind.holds]

end Schema
end TraitCatalog

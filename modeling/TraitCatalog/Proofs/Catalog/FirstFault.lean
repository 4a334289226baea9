import TraitCatalog.Proofs.Catalog.Built

namespace TraitCatalog

theorem exists_first {P : α → Prop} {as : List α} (h : ¬∀ a ∈ as, P a) :
    ∃ front a back, as = front ++ a :: back ∧ (∀ b ∈ front, P b) ∧ ¬P a := by
  induction as
  case nil => exact absurd nofun h
  case cons a as ih =>
    by_cases first : P a
    case neg => exact ⟨[], a, as, rfl, nofun, first⟩
    case pos =>
      obtain ⟨front, b, back, rfl, all, last⟩ := ih fun all => h (List.forall_mem_cons.mpr ⟨first, all⟩)
      exact ⟨a :: front, b, back, rfl, List.forall_mem_cons.mpr ⟨first, all⟩, last⟩

-- Every exception is the first one or stands behind it.
theorem first_or_behind {P : α → Prop} {back back' : List α} (h : ∀ b ∈ front, P b)
    (same : front ++ a :: back = front' ++ a' :: back') (h' : ¬P a') :
    (front' = front ∧ a' = a) ∨ front.length < front'.length := by
  obtain ⟨more, rfl, rest⟩ | ⟨more, rfl, rest⟩ := List.append_eq_append_iff.mp same
  · cases more
    case nil =>
      obtain ⟨rfl, -⟩ := List.cons_eq_cons.mp rest
      exact .inl ⟨List.append_nil _, rfl⟩
    case cons => exact .inr (by simp)
  · cases more
    case nil =>
      obtain ⟨rfl, -⟩ := List.cons_eq_cons.mp rest
      exact .inl ⟨(List.append_nil _).symm, rfl⟩
    case cons b more =>
      obtain ⟨rfl, -⟩ := List.cons_eq_cons.mp rest
      exact absurd (h a' (by simp)) h'

namespace Catalog

-- A place in the data of a catalog with all that stands in front of it: a value in the place of a library, or an
-- item of a library behind other ones.
inductive Spot
  | library (front : Keyed Json) (name : Text) (value : Json)
  | item (front : Keyed Json) (name : Text) (items : List Json) (value : Json)

namespace Spot

-- The data cut in front of the place.
def before : Spot → Keyed Json
  | library front _ _       => front
  | item front name items _ => front ++ [(name, .array items)]

-- The data cut behind the place.
def through : Spot → Keyed Json
  | library front name value    => front ++ [(name, value)]
  | item front name items value => front ++ [(name, .array (items ++ [value]))]

inductive StandsIn : Spot → Keyed Json → Prop
  | library : StandsIn (library front name value) (front ++ (name, value) :: rest)
  | item    : StandsIn (item front name items value) (front ++ (name, .array (items ++ value :: more)) :: rest)

-- There is no array in the place of a library, or an item describes no implementor.
def IsFaulty : Spot → Prop
  | library _ _ value => ∀ items, value ≠ .array items
  | item _ _ _ value  => ∀ d, ¬Describes value d

-- The numbers of the library and of the item.
def libraryNumber : Spot → Nat
  | library front _ _ | item front _ _ _ => front.length

def itemNumber : Spot → Nat
  | library _ _ _    => 0
  | item _ _ items _ => items.length

def Precedes (s t : Spot) : Prop :=
  s.libraryNumber < t.libraryNumber ∨ s.libraryNumber = t.libraryNumber ∧ s.itemNumber < t.itemNumber

end Spot

-- Data of which each library lists implementors.
def IsClear (fields : Keyed Json) : Prop :=
  ∀ p ∈ fields, ∃ ds, Lists p.2 ds

theorem exists_lists_iff : (∃ ds, Lists v ds) ↔ ∃ items, v = .array items ∧ ∀ w ∈ items, ∃ d, Describes w d := by
  simp only [← List.exists_forall₂_iff]
  constructor
  case mp  => exact fun ⟨ds, items, array, lists⟩ => ⟨items, array, ds, lists⟩
  case mpr => exact fun ⟨items, array, ds, lists⟩ => ⟨ds, items, array, lists⟩

theorem exists_lists_array_iff : (∃ ds, Lists (.array items) ds) ↔ ∀ w ∈ items, ∃ d, Describes w d := by
  rw [exists_lists_iff]
  constructor
  case mp =>
    rintro ⟨_, ⟨⟩, all⟩
    exact all
  case mpr => exact fun all => ⟨items, rfl, all⟩

theorem ofJson_object (context : Text) (fields : Keyed Json) :
    ofJson context (.object fields) = ofFields context fields := rfl

-- Clear data makes up the catalog that it lists. Libraries that all have names of their own stand in it as they
-- stand in the data.
theorem isClear_iff (context : Text) : IsClear fields ↔
    ∃ c, ofJson context (.object fields) = .ok c ∧ Keyed.Alike Lists (Keyed.ofPairs fields) c.entries := by
  simp only [ofJson_object, ofFields_eq_ok_iff]
  constructor
  case mp =>
    intro clear
    obtain ⟨pairs, alike⟩ : ∃ pairs, Keyed.Alike Lists fields pairs := by
      refine List.exists_forall₂_iff.mpr fun p mem => ?_
      obtain ⟨ds, lists⟩ := clear p mem
      exact ⟨(p.1, ds), rfl, lists⟩
    exact ⟨ofPairs pairs, ⟨pairs, alike, rfl⟩, alike.ofPairs⟩
  case mpr =>
    rintro ⟨_, ⟨pairs, alike, rfl⟩, -⟩ p mem
    obtain ⟨q, -, lists⟩ := List.exists_forall₂_iff.mp ⟨pairs, alike⟩ p mem
    exact ⟨q.2, lists⟩

theorem isClear_of_ofJson (h : ofJson context (.object fields) = .ok c) : IsClear fields := by
  obtain ⟨pairs, alike, rfl⟩ := (ofFields_eq_ok_iff context).mp h
  exact (isClear_iff context).mpr ⟨ofPairs pairs, h, alike.ofPairs⟩

theorem IsClear.exists_mapM (h : IsClear fields) (context : Text) :
    ∃ pairs, fields.mapM (ofFields.library context) = .ok pairs := by
  refine Except.exists_mapM_eq_ok_iff.mpr fun p mem => ?_
  obtain ⟨ds, lists⟩ := h p mem
  exact ⟨(p.1, ds), (library_eq_ok_iff context).mpr ⟨rfl, lists⟩⟩

theorem exists_mapM_implementor {items : List Json} (h : ∀ w ∈ items, ∃ d, Describes w d) (context name : Text) :
    ∃ ds, items.zipIdx.mapM (ofFields.implementor context name) = .ok ds := by
  refine Except.exists_mapM_eq_ok_iff.mpr fun p mem => ?_
  obtain ⟨d, describes⟩ := (List.forall_mem_zipIdx_iff 0).mpr h p mem
  exact ⟨d, (implementor_eq_ok_iff context name).mpr describes⟩

theorem library_of_not_array (h : ∀ items, value ≠ .array items) (context name : Text) :
    ofFields.library context (name, value) = .error (.unexpected context name .array) := by
  cases value
  case array items => exact absurd rfl (h items)
  all_goals rfl

theorem exists_implementor_error (h : ∀ d, ¬Describes value d) (context name : Text) (n : Nat) :
    ∃ e, ofFields.implementor context name (value, n) = .error e := by
  cases built : ofFields.implementor context name (value, n)
  case error e => exact ⟨e, rfl⟩
  case ok d => exact absurd ((implementor_eq_ok_iff context name).mp built) (h d)

theorem library_of_item {e : Flaw} (h : ∀ w ∈ items, ∃ d, Describes w d)
    (last : ofFields.implementor context name (value, items.length) = .error e) (more : List Json) :
    ofFields.library context (name, .array (items ++ value :: more)) = .error e := by
  obtain ⟨ds, front⟩ := exists_mapM_implementor h context name
  have numbered : (items ++ value :: more).zipIdx =
      items.zipIdx ++ (value, items.length) :: more.zipIdx (items.length + 1) := by
    rw [List.zipIdx_append, List.zipIdx_cons, Nat.zero_add]
  have all := Except.mapM_eq_error_iff.mpr ⟨items.zipIdx, _, more.zipIdx (items.length + 1), ds, numbered, front, last⟩
  rw [ofFields.library, Json.expectArray, Except.ok_bind, all]
  rfl

theorem ofJson_of_library {e : Flaw} (h : IsClear front) (last : ofFields.library context p = .error e)
    (rest : Keyed Json) : ofJson context (.object (front ++ p :: rest)) = .error e := by
  obtain ⟨pairs, built⟩ := h.exists_mapM context
  rw [ofJson_object, ofFields, Except.mapM_eq_error_iff.mpr ⟨front, p, rest, pairs, rfl, built, last⟩]
  rfl

namespace Spot

variable {s t : Spot} {fields : Keyed Json}

-- Behind clear data a fault is what building fails of, whatever follows.
theorem exists_error (faulty : s.IsFaulty) (clear : IsClear s.before) (context : Text) :
    ∃ e, ∀ fields, s.StandsIn fields → ofJson context (.object fields) = .error e := by
  cases s
  case library front name value =>
    refine ⟨.unexpected context name .array, fun fields stands => ?_⟩
    cases stands
    exact ofJson_of_library clear (library_of_not_array faulty context name) _
  case item front name items value =>
    obtain ⟨clear, listed⟩ := List.forall_mem_append.mp clear
    have described := exists_lists_array_iff.mp (listed _ (List.mem_singleton.mpr rfl))
    obtain ⟨e, last⟩ := exists_implementor_error faulty context name items.length
    refine ⟨e, fun fields stands => ?_⟩
    cases stands
    exact ofJson_of_library clear (library_of_item described last _) _

theorem standsIn_through (s : Spot) : s.StandsIn s.through := by
  cases s
  case library => exact .library
  case item    => exact .item

-- Where there is no catalog, there is a fault behind clear data.
theorem exists_of_not_isClear (h : ¬IsClear fields) :
    ∃ s : Spot, s.StandsIn fields ∧ s.IsFaulty ∧ IsClear s.before := by
  obtain ⟨front, ⟨name, value⟩, rest, rfl, clear, unlisted⟩ := exists_first h
  by_cases array : ∃ items, value = .array items
  case neg => exact ⟨library front name value, .library, not_exists.mp array, clear⟩
  case pos =>
    obtain ⟨items, rfl⟩ := array
    obtain ⟨items, value, more, rfl, described, fault⟩ := exists_first (mt exists_lists_array_iff.mpr unlisted)
    refine ⟨item front name items value, .item, not_exists.mp fault, List.forall_mem_append.mpr ⟨clear, ?_⟩⟩
    exact List.forall_mem_singleton.mpr (exists_lists_array_iff.mpr described)

theorem not_exists_lists (h : ∀ items, value ≠ .array items) : ¬∃ ds, Lists value ds := by
  intro listed
  obtain ⟨items, array, -⟩ := exists_lists_iff.mp listed
  exact h items array

theorem not_exists_lists_array {items : List Json} (h : ∀ d, ¬Describes value d) (more : List Json) :
    ¬∃ ds, Lists (.array (items ++ value :: more)) ds := by
  intro listed
  obtain ⟨d, describes⟩ := exists_lists_array_iff.mp listed value (by simp)
  exact h d describes

-- No fault stands in front of one that clear data leads to.
theorem eq_or_precedes (stands : s.StandsIn fields) (faulty : s.IsFaulty) (clear : IsClear s.before)
    (stands' : t.StandsIn fields) (faulty' : t.IsFaulty) : t = s ∨ s.Precedes t := by
  cases stands
  case library front name value rest =>
    generalize whole : front ++ (name, value) :: rest = fields at stands'
    cases stands'
    case library =>
      obtain ⟨rfl, same⟩ | behind := first_or_behind clear whole (not_exists_lists faulty')
      case inl =>
        cases same
        exact .inl rfl
      case inr => exact .inr (.inl behind)
    case item items value' rest' more' =>
      obtain ⟨rfl, same⟩ | behind := first_or_behind clear whole (not_exists_lists_array faulty' more')
      case inl =>
        cases same
        exact absurd rfl (faulty _)
      case inr => exact .inr (.inl behind)
  case item front name items value rest more =>
    obtain ⟨clear, listed⟩ := List.forall_mem_append.mp clear
    have described := exists_lists_array_iff.mp (listed _ (List.mem_singleton.mpr rfl))
    generalize whole : front ++ (name, .array (items ++ value :: more)) :: rest = fields at stands'
    cases stands'
    case library =>
      obtain ⟨rfl, same⟩ | behind := first_or_behind clear whole (not_exists_lists faulty')
      case inl =>
        cases same
        exact absurd rfl (faulty' _)
      case inr => exact .inr (.inl behind)
    case item items' value' rest' more' =>
      obtain ⟨rfl, same⟩ | behind := first_or_behind clear whole (not_exists_lists_array faulty' more')
      case inr => exact .inr (.inl behind)
      case inl =>
        obtain ⟨rfl, array⟩ := Prod.mk.inj same
        obtain ⟨rfl, rfl⟩ | behind := first_or_behind described (Json.array.inj array).symm (not_exists.mpr faulty')
        case inl => exact .inl rfl
        case inr => exact .inr (.inr ⟨rfl, behind⟩)

theorem Precedes.asymm (h : s.Precedes t) : ¬t.Precedes s := by
  unfold Precedes at *
  omega

end Spot

-- Building from `fields` fails of `e`, which is the first fault in them and stands at `s`. In front of it
-- everything is well, and what stands behind it does not matter.
structure FailsAt (context : Text) (fields : Keyed Json) (e : Flaw) (s : Spot) : Prop where
  stands : s.StandsIn fields
  faulty : s.IsFaulty
  first  : ∀ t : Spot, t.StandsIn fields → t.IsFaulty → t = s ∨ s.Precedes t
  before : ∃ c, ofJson context (.object s.before) = .ok c ∧ Keyed.Alike Lists (Keyed.ofPairs s.before) c.entries
  after  : ofJson context (.object s.through) = .error e
  alone  : ∀ other, s.StandsIn other → ofJson context (.object other) = .error e
  only   : ∀ t : Spot, t.StandsIn fields → t.IsFaulty →
    (∃ c, ofJson context (.object t.before) = .ok c) → t = s

-- Building that fails, fails of the first fault.
theorem ofJson_fails_first {fields : Keyed Json} {e : Flaw} (h : ofJson context (.object fields) = .error e) :
    ∃ s : Spot, FailsAt context fields e s := by
  have faults : ¬IsClear fields := by
    intro clear
    obtain ⟨c, built, -⟩ := (isClear_iff context).mp clear
    cases built.symm.trans h
  obtain ⟨s, stands, faulty, clear⟩ := Spot.exists_of_not_isClear faults
  obtain ⟨e', fails⟩ := Spot.exists_error faulty clear context
  obtain rfl : e' = e := Except.error.inj ((fails fields stands).symm.trans h)
  refine ⟨s, stands, faulty, ?first, (isClear_iff context).mp clear, fails _ s.standsIn_through, fails, ?only⟩
  case first => exact fun t stands' faulty' => Spot.eq_or_precedes stands faulty clear stands' faulty'
  case only =>
    rintro t stands' faulty' ⟨c, built⟩
    obtain rfl | behind := Spot.eq_or_precedes stands faulty clear stands' faulty'
    case inl => rfl
    case inr =>
      obtain rfl | front := Spot.eq_or_precedes stands' faulty' (isClear_of_ofJson built) stands faulty
      case inl => rfl
      case inr => exact absurd front behind.asymm

theorem ofJson_fails_first_twice :
    let d : Implementor := ⟨"impl A for X", false, ["a::X"], by decide, by decide⟩
    let front : Keyed Json := [("a", .array [d.toJson])]
    let faults : Keyed Json := [("b", .array [d.toJson, .null, .bool true]), ("c", .null)]
    let e : Flaw := .unexpected literalContext "b[1]" .object
    ofJson literalContext (.object (front ++ faults)) = .error e ∧
      FailsAt literalContext (front ++ faults) e (.item front "b" [d.toJson] .null) := by
  intro d front faults e
  have fails : ofJson literalContext (.object (front ++ faults)) = .error e := rfl
  obtain ⟨s, failsAt⟩ := ofJson_fails_first fails
  let t : Spot := .item front "b" [d.toJson] .null
  have stands : t.StandsIn (front ++ faults) := .item
  have faulty : t.IsFaulty := by
    rintro d ⟨_, object, -⟩
    cases object
  have built : ofJson literalContext (.object t.before) =
      .ok ⟨[("a", [d]), ("b", [d])], by decide⟩ := rfl
  obtain rfl : t = s := failsAt.only t stands faulty ⟨_, built⟩
  exact ⟨fails, failsAt⟩

end Catalog
end TraitCatalog

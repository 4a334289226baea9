import TraitCatalog.Catalog.Basic
import TraitCatalog.Proofs.Except
import TraitCatalog.Proofs.Keyed

namespace TraitCatalog
namespace Json

theorem expectString_eq_ok_iff {v : Json} : v.expectString context place = .ok t ↔ v = .string t := by
  cases v <;> simp [expectString]

theorem expectBool_eq_ok_iff {v : Json} : v.expectBool context place = .ok b ↔ v = .bool b := by
  cases v <;> simp [expectBool]

theorem expectArray_eq_ok_iff {v : Json} : v.expectArray context place = .ok vs ↔ v = .array vs := by
  cases v <;> simp [expectArray]

theorem expectObject_eq_ok_iff {v : Json} :
    v.expectObject context place = .ok fields ↔ v = .object fields := by
  cases v <;> simp [expectObject]

theorem expectItems_eq_ok_iff {vs : List Json} {ts : List Text} {index : Nat} :
    expectItems context place index vs = .ok ts ↔ vs = ts.map string := by
  induction vs generalizing ts index
  case nil => cases ts <;> simp [expectItems]
  case cons v vs ih =>
    cases ts <;> simp [expectItems, Except.bind_eq_ok_iff, expectString_eq_ok_iff, ih]

theorem expectStrings_eq_ok_iff {v : Json} {ts : List Text} :
    v.expectStrings context place = .ok ts ↔ v = .strings ts := by
  cases v <;> simp [expectStrings, strings, expectItems_eq_ok_iff]

end Json

namespace Implementor

-- What the fields of an implementor have to be. Other fields do not matter.
structure DescribedBy (d : Implementor) (fields : Keyed Json) : Prop where
  text      : fields.get? "text" = some (.string d.text)
  synthetic : fields.get? "synthetic" = some (.bool d.synthetic)
  types     : fields.get? "types" = some (.strings d.path)

theorem make_eq_ok_iff {d : Implementor} :
    make t b ts = .ok d ↔ t = d.text ∧ b = d.synthetic ∧ ts = d.path := by
  constructor
  case mp =>
    intro h
    unfold make at h
    split at h
    case isTrue  => cases h
    case isFalse =>
      split at h
      case isTrue  => cases h
      case isFalse =>
        cases h
        exact ⟨rfl, rfl, rfl⟩
  case mpr =>
    rintro ⟨rfl, rfl, rfl⟩
    exact make_eq_ok d

theorem findIdx?_path (d : Implementor) : d.path.findIdx? List.isEmpty = none := by
  simp only [List.findIdx?_eq_none_iff, List.isEmpty_eq_false_iff]
  exact fun t ht h => d.nil_not_mem_path (h ▸ ht)

theorem eq_some_of_getD {o : Option Json} (h : o.getD .null = w) (hw : w ≠ .null) : o = some w := by
  cases o
  case none   => exact absurd h.symm hw
  case some v => exact congrArg some h

theorem ofFields_eq_ok_iff {d : Implementor} {fields : Keyed Json} (context : Text) :
    ofFields context fields = .ok d ↔ d.DescribedBy fields := by
  simp only [ofFields, Except.bind_eq_ok_iff, Json.expectString_eq_ok_iff, Json.expectBool_eq_ok_iff,
    Json.expectStrings_eq_ok_iff]
  constructor
  case mp =>
    rintro ⟨t, ht, b, hb, ts, hts, h⟩
    split at h
    case isTrue  => cases h
    case isFalse =>
      split at h
      case h_1 => cases h
      case h_2 =>
        obtain ⟨rfl, rfl, rfl⟩ := make_eq_ok_iff.mp h
        exact ⟨eq_some_of_getD ht nofun, eq_some_of_getD hb nofun, eq_some_of_getD hts nofun⟩
  case mpr =>
    rintro ⟨text, synthetic, types⟩
    refine ⟨d.text, by simp [text], d.synthetic, by simp [synthetic], d.path, by simp [types], ?_⟩
    simp [d.path_ne_nil, d.findIdx?_path, make_eq_ok]

end Implementor

namespace Catalog

-- A value that is an object with the fields of an implementor.
def Describes (v : Json) (d : Implementor) : Prop :=
  ∃ fields, v = .object fields ∧ d.DescribedBy fields

theorem implementor_eq_ok_iff {item : Json × Nat} {d : Implementor} (context name : Text) :
    ofFields.implementor context name item = .ok d ↔ Describes item.1 d := by
  simp only [ofFields.implementor, Except.bind_eq_ok_iff, Json.expectObject_eq_ok_iff,
    Implementor.ofFields_eq_ok_iff]
  rfl

-- A library is an array of objects that each describe an implementor.
def Lists (v : Json) (ds : List Implementor) : Prop :=
  ∃ items, v = .array items ∧ List.Forall₂ Describes items ds

theorem library_eq_ok_iff {p : Text × Json} {q : Text × List Implementor} (context : Text) :
    ofFields.library context p = .ok q ↔ p.1 = q.1 ∧ Lists p.2 q.2 := by
  obtain ⟨name, v⟩ := p
  obtain ⟨name', ds⟩ := q
  have each (items : List Json) (ds : List Implementor) :
      items.zipIdx.mapM (ofFields.implementor context name) = .ok ds ↔ List.Forall₂ Describes items ds := by
    have fronts := List.forall₂_map_left_iff (R := Describes) (f := Prod.fst) (l := items.zipIdx) (u := ds)
    rw [List.zipIdx_map_fst] at fronts
    simp only [Except.mapM_eq_ok_iff, implementor_eq_ok_iff, fronts]
  simp only [ofFields.library, Except.bind_eq_ok_iff, Json.expectArray_eq_ok_iff, Except.pure_eq_ok, each,
    Except.ok.injEq, Prod.mk.injEq]
  constructor
  case mp =>
    rintro ⟨items, array, _, lists, rfl, rfl⟩
    exact ⟨rfl, items, array, lists⟩
  case mpr =>
    rintro ⟨rfl, items, array, lists⟩
    exact ⟨items, array, ds, lists, rfl, rfl⟩

theorem ofFields_eq_ok_iff {fields : Keyed Json} {c : Catalog} (context : Text) :
    ofFields context fields = .ok c ↔
      ∃ pairs, Keyed.Alike Lists fields pairs ∧ c = ofPairs pairs := by
  simp only [ofFields, Except.bind_eq_ok_iff, Except.mapM_eq_ok_iff, library_eq_ok_iff, Except.pure_eq_ok,
    Except.ok.injEq]
  constructor
  case mp  => exact fun ⟨pairs, alike, same⟩ => ⟨pairs, alike, same.symm⟩
  case mpr => exact fun ⟨pairs, alike, same⟩ => ⟨pairs, alike, same.symm⟩

theorem exists_implementor_iff {item : Json × Nat} (context name : Text) :
    (∃ d, ofFields.implementor context name item = .ok d) ↔
      ∃ fields, item.1 = .object fields ∧ ∃ d : Implementor, d.DescribedBy fields := by
  simp only [implementor_eq_ok_iff, Describes]
  constructor
  case mp  => exact fun ⟨d, fields, object, hd⟩ => ⟨fields, object, d, hd⟩
  case mpr => exact fun ⟨fields, object, d, hd⟩ => ⟨d, fields, object, hd⟩

-- A library is a list of objects that each describe an implementor.
theorem exists_library_iff {p : Text × Json} (context : Text) :
    (∃ q, ofFields.library context p = .ok q) ↔ ∃ items, p.2 = .array items ∧
      ∀ item ∈ items, ∃ fields, item = .object fields ∧ ∃ d : Implementor, d.DescribedBy fields := by
  obtain ⟨name, v⟩ := p
  have each (items : List Json) : (∃ ds, items.zipIdx.mapM (ofFields.implementor context name) = .ok ds) ↔
      ∀ item ∈ items, ∃ fields, item = .object fields ∧ ∃ d : Implementor, d.DescribedBy fields := by
    rw [← List.forall_mem_zipIdx_iff 0, Except.exists_mapM_eq_ok_iff]
    simp only [exists_implementor_iff]
  simp only [ofFields.library, Except.bind_eq_ok_iff, Json.expectArray_eq_ok_iff, Except.pure_eq_ok,
    ← each]
  constructor
  case mp  => exact fun ⟨_, items, array, ds, hds, _⟩ => ⟨items, array, ds, hds⟩
  case mpr => exact fun ⟨items, array, ds, hds⟩ => ⟨(name, ds), items, array, ds, hds, rfl⟩

theorem exists_ofFields_iff {fields : Keyed Json} (context : Text) :
    (∃ c, ofFields context fields = .ok c) ↔ ∀ p ∈ fields, ∃ items, p.2 = .array items ∧
      ∀ item ∈ items, ∃ fields, item = .object fields ∧ ∃ d : Implementor, d.DescribedBy fields := by
  simp only [← exists_library_iff context, ← Except.exists_mapM_eq_ok_iff]
  simp [ofFields, Except.bind_eq_ok_iff]

end Catalog
end TraitCatalog

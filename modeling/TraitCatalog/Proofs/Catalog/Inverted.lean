import TraitCatalog.Proofs.Catalog.Rebuilt
import TraitCatalog.Proofs.Payload.Agreement

namespace TraitCatalog

-- Related items follow each other on both sides, whatever is known to relate them already.
theorem forall₂_iff_forall_mem {R S : α → β → Prop} {P : α → Prop} {as : List α} {bs : List β}
    (known : List.Forall₂ R as bs) (iff : ∀ a b, R a b → (S a b ↔ P a)) :
    List.Forall₂ S as bs ↔ ∀ a ∈ as, P a := by
  induction known
  case nil => simp
  case cons first _ ih => rw [List.forall₂_cons, List.forall_mem_cons, iff _ _ first, ih]

namespace Keyed

variable {R : α → β → Prop} {m : Keyed α} {n : Keyed β}

theorem Alike.keys_eq (h : Alike R m n) : m.keys = n.keys := by
  induction h
  case nil => rfl
  case cons first _ ih => exact congrArg₂ _ first.left ih

theorem Alike.mapValues {S : α → γ → Prop} {f : β → γ} (h : Alike R m n)
    (values : ∀ v w, R v w → S v (f w)) : Alike S m (n.mapValues f) :=
  List.forall₂_map_right_iff.mpr (List.Forall₂.imp (fun _ _ h => ⟨h.left, values _ _ h.right⟩) h)

end Keyed

namespace Json

-- Arrays with as many items, which are related one by one.
inductive ItemByItem (R : Json → Json → Prop) : Json → Json → Prop
  | mk (items : List.Forall₂ R vs ws) : ItemByItem R (.array vs) (.array ws)

-- Objects that have the same under every key, in whatever order the keys are.
inductive SameMapping : Json → Json → Prop
  | mk {fields fields' : Keyed Json} (same : ∀ key, fields.get? key = fields'.get? key) :
    SameMapping (.object fields) (.object fields')

-- An object is written anew with the three fields of an implementor in their order, and has the values that
-- were there before.
inductive Trimmed : Json → Json → Prop
  | mk {fields : Keyed Json} (text : fields.get? "text" = some t)
    (synthetic : fields.get? "synthetic" = some b) (types : fields.get? "types" = some ts) :
    Trimmed (.object fields) (.object [("text", t), ("synthetic", b), ("types", ts)])

end Json

namespace Implementor

variable {d : Implementor} {fields : Keyed Json}

-- An object that describes an implementor has the same as what is written for it under the three keys.
theorem DescribedBy.get?_eq (h : d.DescribedBy fields)
    (known : key ∈ (["text", "synthetic", "types"] : List Text)) :
    fields.get? key = d.toFields.get? key := by
  simp only [List.mem_cons, List.not_mem_nil, or_false] at known
  obtain rfl | rfl | rfl := known
  · exact h.text
  · exact h.synthetic
  · exact h.types

theorem get?_toFields_eq_none (unknown : key ∉ (["text", "synthetic", "types"] : List Text)) :
    d.toFields.get? key = none := by
  have absent : ¬(d.toFields.get? key).isSome := Keyed.isSome_get?_iff.not.mpr unknown
  exact Option.not_isSome_iff_eq_none.mp absent

theorem DescribedBy.same_iff (h : d.DescribedBy fields) : (∀ key, fields.get? key = d.toFields.get? key) ↔
    ∀ key ∈ fields.keys, key ∈ (["text", "synthetic", "types"] : List Text) := by
  constructor
  case mp =>
    intro same key mem
    have there : (d.toFields.get? key).isSome := same key ▸ Keyed.isSome_get?_iff.mpr mem
    exact Keyed.isSome_get?_iff.mp there
  case mpr =>
    intro only key
    by_cases known : key ∈ (["text", "synthetic", "types"] : List Text)
    case pos => exact h.get?_eq known
    case neg =>
      have absent : ¬(fields.get? key).isSome := fun there =>
        known (only key (Keyed.isSome_get?_iff.mp there))
      rw [get?_toFields_eq_none known, Option.not_isSome_iff_eq_none.mp absent]

end Implementor

namespace Catalog

variable {c : Catalog} {v : Json} {d : Implementor} {ds : List Implementor}

theorem Describes.trimmed (h : Describes v d) : Json.Trimmed v d.toJson := by
  obtain ⟨fields, rfl, text, synthetic, types⟩ := h
  exact .mk text synthetic types

theorem Describes.same_iff (h : Describes v d) : Json.SameMapping v d.toJson ↔
    ∀ fields : Keyed Json, v = .object fields →
      ∀ key ∈ fields.keys, key ∈ (["text", "synthetic", "types"] : List Text) := by
  obtain ⟨fields, rfl, described⟩ := h
  constructor
  case mp =>
    rintro ⟨same⟩ _ ⟨⟩
    exact described.same_iff.mp same
  case mpr => exact fun only => .mk (described.same_iff.mpr (only fields rfl))

theorem Lists.trimmed (h : Lists v ds) :
    Json.ItemByItem Json.Trimmed v (.array (ds.map Implementor.toJson)) := by
  obtain ⟨items, rfl, lists⟩ := h
  exact .mk (List.forall₂_map_right_iff.mpr (lists.imp fun _ _ => Describes.trimmed))

theorem Lists.same_iff (h : Lists v ds) :
    Json.ItemByItem Json.SameMapping v (.array (ds.map Implementor.toJson)) ↔
      ∀ items, v = .array items → ∀ fields : Keyed Json, .object fields ∈ items →
        ∀ key ∈ fields.keys, key ∈ (["text", "synthetic", "types"] : List Text) := by
  obtain ⟨items, rfl, lists⟩ := h
  have each := forall₂_iff_forall_mem lists fun _ _ => Describes.same_iff
  rw [← List.forall₂_map_right_iff] at each
  constructor
  case mp =>
    rintro ⟨same⟩ _ ⟨⟩ fields mem
    exact each.mp same _ mem fields rfl
  case mpr =>
    intro only
    refine .mk (each.mpr ?_)
    rintro _ mem fields rfl
    exact only items rfl fields mem

-- A catalog has the libraries of its data as they are there, as no library is there twice.
theorem entries_of_ofFields {fields : Keyed Json} (nodup : fields.keys.Nodup)
    (built : ofFields context fields = .ok c) : Keyed.Alike Lists fields c.entries := by
  obtain ⟨pairs, alike, rfl⟩ := (ofFields_eq_ok_iff context).mp built
  rw [alike.keys_eq] at nodup
  have same : (ofPairs pairs).entries = pairs := Keyed.ofPairs_of_nodup nodup
  rwa [same]

theorem same_toFields_iff {fields : Keyed Json} (lists : Keyed.Alike Lists fields c.entries) :
    Keyed.Alike (Json.ItemByItem Json.SameMapping) fields c.toFields ↔
      Json.HasNoExtraKeys (.object fields) := by
  have written : Keyed.Alike (Json.ItemByItem Json.SameMapping) fields c.toFields ↔
      List.Forall₂ (fun p q => p.1 = q.1 ∧ Json.ItemByItem Json.SameMapping p.2
        (.array (q.2.map Implementor.toJson))) fields c.entries := List.forall₂_map_right_iff
  rw [written, forall₂_iff_forall_mem lists fun _ _ h => (and_iff_right h.left).trans h.right.same_iff]
  constructor
  case mp =>
    rintro only _ ⟨⟩
    exact only
  case mpr => exact fun only => only fields rfl

-- What a catalog is built from is an object, and it is written anew with the same libraries and items in the
-- same order, each item with the fields of an implementor. So it is the same if no item had other fields. And
-- every catalog is built again from what is written for it.
theorem ofJson_inverts_toJson (context : Text) :
    (∀ v c, ofJson context v = .ok c → ∃ fields : Keyed Json, v = .object fields ∧ (fields.keys.Nodup →
      Keyed.Alike (Json.ItemByItem Json.Trimmed) fields c.toFields ∧
      (Keyed.Alike (Json.ItemByItem Json.SameMapping) fields c.toFields ↔ v.HasNoExtraKeys))) ∧
    ∀ c : Catalog, ∃ d, ofJson context c.toJson = .ok d ∧ d.entries = c.entries := by
  constructor
  case left =>
    intro v c built
    obtain ⟨fields, object, built⟩ := Except.bind_eq_ok_iff.mp built
    obtain rfl := Json.expectObject_eq_ok_iff.mp object
    refine ⟨fields, rfl, fun nodup => ?_⟩
    have lists := entries_of_ofFields nodup built
    exact ⟨lists.mapValues fun _ _ => Lists.trimmed, same_toFields_iff lists⟩
  case right =>
    intro c
    refine ⟨c, ?_, rfl⟩
    rw [ofJson, toJson, Json.expectObject, Except.ok_bind, ofFields_toFields]

-- An item has its fields in another order and one field too many.
theorem ofJson_inverts_toJson_trimmed :
    let item : Keyed Json := [("types", .strings ["b"]), ("note", .null), ("text", .string "B"),
      ("synthetic", .bool true)]
    let fields : Keyed Json := [("b", .array [.object item]), ("a", .array [])]
    let c : Catalog := .ofPairs [("b", [⟨"B", true, ["b"], by decide, by decide⟩]), ("a", [])]
    fields.keys.Nodup ∧ ofJson literalContext (.object fields) = .ok c ∧
    Keyed.Alike (Json.ItemByItem Json.Trimmed) fields c.toFields ∧
    ¬Keyed.Alike (Json.ItemByItem Json.SameMapping) fields c.toFields := by
  intro item fields c
  have nodup : fields.keys.Nodup := by decide
  have built : ofJson literalContext (.object fields) = .ok c := rfl
  have more : ¬Json.HasNoExtraKeys (.object fields) := by
    intro only
    have known := only fields rfl _ (List.mem_cons_self ..) _ rfl item (List.mem_cons_self ..)
      "note" (by decide)
    exact absurd known (by decide)
  obtain ⟨_, ⟨⟩, inverts⟩ := (ofJson_inverts_toJson literalContext).left _ _ built
  obtain ⟨trimmed, same⟩ := inverts nodup
  exact ⟨nodup, built, trimmed, same.not.mpr more⟩

end Catalog
end TraitCatalog

import TraitCatalog.Proofs.Catalog.Checksum

namespace TraitCatalog
namespace Json

-- The text stands in the value, as a string or as a key.
inductive Holds (t : Text) : Json → Prop
  | string : Holds t (.string t)
  | item   : v ∈ items → Holds t v → Holds t (.array items)
  | key    : (t, v) ∈ fields → Holds t (.object fields)
  | field  : p ∈ fields → Holds t p.2 → Holds t (.object fields)

variable {v : Json} (l : Layout) (depth : Nat)

theorem write_subset_items (h : v ∈ items) : write l depth v ⊆ writeItems l depth items := by
  induction items
  case nil => cases h
  case cons w items ih =>
    rw [writeItems_cons]
    intro c hc
    simp only [List.mem_cons, List.mem_append]
    cases h
    case head   => exact .inr (.inr (.inl hc))
    case tail h => exact .inr (.inr (.inr (ih h hc)))

theorem write_subset_array (h : v ∈ items) : write l (depth + 1) v ⊆ write l depth (.array items) := by
  cases items
  case nil => cases h
  case cons w items =>
    rw [write_array]
    intro c hc
    simp only [List.mem_cons, List.mem_append]
    cases h
    case head   => exact .inr (.inr (.inl hc))
    case tail h => exact .inr (.inr (.inr (.inl (write_subset_items l (depth + 1) h hc))))

-- The key and the value of a field.
theorem write_subset_fields (h : p ∈ fields) :
    writeString p.1 ⊆ writeFields l depth fields ∧ write l depth p.2 ⊆ writeFields l depth fields := by
  induction fields
  case nil => cases h
  case cons q fields ih =>
    obtain ⟨key, v⟩ := q
    rw [writeFields_cons]
    cases h
    case head =>
      constructor <;> intro c hc <;> simp only [List.mem_cons, List.mem_append]
      · exact .inr (.inr (.inl hc))
      · exact .inr (.inr (.inr (.inr (.inl hc))))
    case tail h =>
      constructor <;> intro c hc <;> simp only [List.mem_cons, List.mem_append]
      · exact .inr (.inr (.inr (.inr (.inr ((ih h).left hc)))))
      · exact .inr (.inr (.inr (.inr (.inr ((ih h).right hc)))))

theorem write_subset_object (h : p ∈ fields) :
    writeString p.1 ⊆ write l depth (.object fields) ∧
      write l (depth + 1) p.2 ⊆ write l depth (.object fields) := by
  cases fields
  case nil => cases h
  case cons q fields =>
    obtain ⟨key, v⟩ := q
    rw [write_object]
    cases h
    case head =>
      constructor <;> intro c hc <;> simp only [List.mem_cons, List.mem_append]
      · exact .inr (.inr (.inl hc))
      · exact .inr (.inr (.inr (.inr (.inl hc))))
    case tail h =>
      have inside := write_subset_fields l (depth + 1) h
      constructor <;> intro c hc <;> simp only [List.mem_cons, List.mem_append]
      · exact .inr (.inr (.inr (.inr (.inr (.inl (inside.left hc))))))
      · exact .inr (.inr (.inr (.inr (.inr (.inl (inside.right hc))))))

-- A lone surrogate is written as it is.
theorem mem_writeString_of_lone {t : Text} (hc : c ∈ t) (lone : ¬c.IsChar) : c ∈ writeString t := by
  have plain : c ∈ writeCode c := by
    cases c
    case char d => exact absurd ⟨d, rfl⟩ lone
    case lone n =>
      have high : ¬0xD800 + n.val < 0x20 := by omega
      simp [writeCode, Code.is, Code.toNat, high]
  rw [writeString, List.mem_append, List.mem_cons]
  exact .inl (.inr (List.mem_flatMap.mpr ⟨c, hc, plain⟩))

theorem Holds.mem_write {t : Text} (h : Holds t v) (hc : c ∈ t) (lone : ¬c.IsChar) : c ∈ write l depth v := by
  induction h generalizing depth
  case string          => exact mem_writeString_of_lone hc lone
  case item mem _ ih   => exact write_subset_array l depth mem (ih (depth + 1))
  case key mem         => exact (write_subset_object l depth mem).left (mem_writeString_of_lone hc lone)
  case field mem _ ih  => exact (write_subset_object l depth mem).right (ih (depth + 1))

-- What holds a text has a UTF-8 form only if the text has one.
theorem Holds.isEncodable {t : Text} (h : Holds t v) (written : (write l depth v).IsEncodable) : t.IsEncodable := by
  intro c hc
  by_contra lone
  exact lone (written c (h.mem_write l depth hc lone))

end Json

namespace Catalog

variable {c : Catalog} {t : Text}

theorem holds_implementor {d : Implementor} (h : t ∈ d.text :: d.path) : Json.Holds t d.toJson := by
  have text : ((("text" : Text), Json.string d.text)) ∈ d.toFields := by simp [Implementor.toFields]
  have types : ((("types" : Text), Json.strings d.path)) ∈ d.toFields := by simp [Implementor.toFields]
  cases h
  case head   => exact .field text .string
  case tail h => exact .field types (.item (List.mem_map_of_mem h) .string)

-- Every text of a catalog is the name of a library or stands in its value.
theorem exists_field_of_mem_texts (h : t ∈ c.texts) : ∃ p ∈ c.toFields, t = p.1 ∨ Json.Holds t p.2 := by
  obtain ⟨⟨library, ds⟩, mem, h⟩ := List.mem_flatMap.mp h
  refine ⟨(library, .array (ds.map Implementor.toJson)), List.mem_map.mpr ⟨_, mem, rfl⟩, ?_⟩
  cases h
  case head => exact .inl rfl
  case tail h =>
    obtain ⟨d, hd, ht⟩ := List.mem_flatMap.mp h
    exact .inr (.item (List.mem_map_of_mem hd) (holds_implementor ht))

theorem isEncodable_iff : c.IsEncodable ↔ ∀ t ∈ c.texts, t.IsEncodable := by
  constructor
  case mp =>
    intro h t ht
    obtain ⟨p, mem, rfl | holds⟩ := exists_field_of_mem_texts ht
    · exact (h p mem).left
    · exact holds.isEncodable .compact 0 (h p mem).right
  case mpr => exact isEncodable_of_texts

theorem isEncodable_of_script (h : (Script.render c).IsEncodable) : c.IsEncodable := by
  intro p mem
  have line : (Script.assignment p.1 p.2).IsEncodable := by
    refine h.subset fun d hd => Text.mem_join_of_mem ?_ hd
    rw [List.mem_append, List.mem_cons]
    exact .inl (.inr (List.mem_map.mpr ⟨p, mem, rfl⟩))
  simp only [Script.assignment] at line
  constructor
  case left =>
    intro d hd
    by_contra lone
    refine lone (line d ?_)
    simp only [List.mem_append]
    exact .inl (.inl (.inl (.inr (Json.mem_writeString_of_lone hd lone))))
  case right =>
    refine line.subset fun d hd => ?_
    simp only [List.mem_append]
    exact .inl (.inr hd)

theorem isEncodable_of_document {l : Json.Layout} (h : (Document.render l c).IsEncodable) : c.IsEncodable := by
  rw [isEncodable_iff]
  intro t ht
  obtain ⟨p, mem, rfl | holds⟩ := exists_field_of_mem_texts ht
  · exact (Json.Holds.key mem).isEncodable l 0 h
  · exact (Json.Holds.field mem holds).isEncodable l 0 h

-- The payload of a catalog has a UTF-8 form only if the catalog has one.
theorem isEncodable_fileText_iff (f : Format) :
    (Command.fileText (Payload.render c f) f).IsEncodable ↔ c.IsEncodable := by
  refine ⟨fun h => ?_, fun h => h.fileText f⟩
  cases f
  case script => exact isEncodable_of_script h
  case json   => exact isEncodable_of_document (h.subset fun _ => List.mem_append_left _)

end Catalog
end TraitCatalog

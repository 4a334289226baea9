import TraitCatalog.Catalog.Summary
import TraitCatalog.Command.Conversion
import TraitCatalog.Proofs.Payload.Script
import TraitCatalog.Proofs.Text.Encodable

namespace TraitCatalog
namespace Json

theorem isEncodable_writeCode {c : Code} (h : c.IsChar) : (writeCode c).IsEncodable := by
  unfold writeCode
  repeat' split
  any_goals exact Text.isEncodable_ofString _
  case isTrue  => exact (Text.isEncodable_ofString _).append (Text.isEncodable_hex _ _)
  case isFalse => exact fun d hd => List.mem_singleton.mp hd ▸ h

theorem isEncodable_writeString {t : Text} (h : t.IsEncodable) : (writeString t).IsEncodable := by
  intro c hc
  simp only [writeString, List.mem_append, List.mem_cons, List.mem_flatMap, List.not_mem_nil,
    or_false] at hc
  obtain (rfl | ⟨d, hd, hc⟩) | rfl := hc
  · exact ⟨_, rfl⟩
  · exact isEncodable_writeCode (h d hd) c hc
  · exact ⟨_, rfl⟩

theorem Layout.isEncodable_newline (l : Layout) (depth : Nat) : (l.newline depth).IsEncodable := by
  intro c hc
  obtain rfl | rfl := mem_newline hc <;> exact ⟨_, rfl⟩

theorem Layout.isEncodable_colon (l : Layout) : l.colon.IsEncodable := by
  cases l <;> exact Text.isEncodable_ofString _

theorem isEncodable_writeFields (l : Layout) (depth : Nat)
    (h : ∀ p ∈ fields, p.1.IsEncodable ∧ (write l depth p.2).IsEncodable) :
    (writeFields l depth fields).IsEncodable := by
  induction fields
  case nil => exact .nil
  case cons p fields ih =>
    obtain ⟨key, value⟩ := h p (List.mem_cons_self ..)
    have others := ih fun q hq => h q (List.mem_cons_of_mem _ hq)
    have front := (Text.isEncodable_ofString ",").append (l.isEncodable_newline depth)
    have name := (front.append (isEncodable_writeString key)).append l.isEncodable_colon
    exact (name.append value).append others

-- An object has a UTF-8 form if its keys and the texts of its values have one.
theorem isEncodable_write_object (l : Layout) (depth : Nat)
    (h : ∀ p ∈ fields, p.1.IsEncodable ∧ (write l (depth + 1) p.2).IsEncodable) :
    (write l depth (.object fields)).IsEncodable := by
  cases fields
  case nil => exact Text.isEncodable_ofString _
  case cons p fields =>
    obtain ⟨key, value⟩ := h p (List.mem_cons_self ..)
    have others := isEncodable_writeFields l (depth + 1) fun q hq => h q (List.mem_cons_of_mem _ hq)
    have front := (Text.isEncodable_ofString "\x7b").append (l.isEncodable_newline (depth + 1))
    have name := (front.append (isEncodable_writeString key)).append l.isEncodable_colon
    have members := (name.append value).append others
    exact (members.append (l.isEncodable_newline depth)).append (Text.isEncodable_ofString _)

-- The layout makes no difference to that.
theorem isEncodable_write {v : Json} (plain : Plain n v) (h : v.compact.IsEncodable) (l : Layout)
    (depth : Nat) : (write l depth v).IsEncodable := by
  intro c hc
  obtain hc | rfl | rfl := mem_write plain depth 0 hc
  · exact h c hc
  · exact ⟨_, rfl⟩
  · exact ⟨_, rfl⟩

end Json

namespace Catalog

-- All texts of the catalog have a UTF-8 form.
def IsEncodable (c : Catalog) : Prop :=
  ∀ p ∈ c.toFields, p.1.IsEncodable ∧ p.2.compact.IsEncodable

theorem isSome_fieldBytes?_iff {key : Text} {v : Json} :
    (Checksum.fieldBytes? key v).isSome ↔ key.IsEncodable ∧ v.compact.IsEncodable := by
  rw [← Text.isSome_utf8?_iff, ← Text.isSome_utf8?_iff]
  unfold Checksum.fieldBytes?
  cases key.utf8? <;> cases v.compact.utf8? <;> simp

theorem isSome_mapM_iff {f : α → Option β} {as : List α} :
    (as.mapM f).isSome ↔ ∀ a ∈ as, (f a).isSome := by
  induction as
  case nil => simp
  case cons a as ih =>
    rw [List.forall_mem_cons, ← ih, List.mapM_cons]
    cases f a <;> cases as.mapM f <;> simp

theorem isSome_stream?_iff {c : Catalog} : (Checksum.stream? c.toFields).isSome ↔ c.IsEncodable := by
  simp only [Checksum.stream?, Option.isSome_map, isSome_mapM_iff, isSome_fieldBytes?_iff]
  rfl

theorem exists_checksum_iff {c : Catalog} : (∃ t, c.checksum = .ok t) ↔ c.IsEncodable := by
  rw [← isSome_stream?_iff, checksum, Checksum.ofFields]
  cases Checksum.stream? c.toFields <;> simp

theorem IsEncodable.exists_summary {c : Catalog} (h : c.IsEncodable) : ∃ t, c.summary = .ok t := by
  obtain ⟨sum, checksum⟩ := exists_checksum_iff.mpr h
  exact ⟨_, by rw [summary, checksum]; rfl⟩

-- There is a line on a catalog just if it has a UTF-8 form.
theorem summary_cases (c : Catalog) : (c.IsEncodable ∧ ∃ t, c.summary = .ok t) ∨
    ¬c.IsEncodable ∧ c.summary = .error .loneSurrogate := by
  by_cases encodable : c.IsEncodable
  case pos => exact .inl ⟨encodable, encodable.exists_summary⟩
  case neg =>
    refine .inr ⟨encodable, ?_⟩
    rw [← exists_checksum_iff, not_exists] at encodable
    cases checksum : c.checksum
    case ok sum  => exact absurd checksum (encodable sum)
    case error e =>
      cases e
      rw [summary, checksum]
      rfl

theorem exists_mem_toFields {c : Catalog} (h : p ∈ c.toFields) :
    ∃ ds : List Implementor, p.2 = .array (ds.map Implementor.toJson) := by
  obtain ⟨q, -, rfl⟩ := List.mem_map.mp h
  exact ⟨q.2, rfl⟩

theorem plain_toJson (c : Catalog) : Json.Plain 4 c.toJson := by
  refine .object ?keys fun p hp => ?items
  case keys =>
    rw [toFields, Keyed.keys_mapValues]
    exact c.nodup_keys
  case items =>
    obtain ⟨ds, hds⟩ := exists_mem_toFields hp
    rw [hds]
    exact plain_library ds

theorem IsEncodable.script {c : Catalog} (h : c.IsEncodable) : (Script.render c).IsEncodable := by
  refine Text.IsEncodable.join (Text.isEncodable_ofString _) fun line hl => ?_
  rw [List.mem_append, List.mem_cons, List.mem_map, List.mem_singleton] at hl
  obtain (rfl | ⟨p, hp, rfl⟩) | rfl := hl
  · exact Text.isEncodable_ofString _
  · obtain ⟨library, value⟩ := h p hp
    have front := (Text.isEncodable_ofString "implementors[").append (Json.isEncodable_writeString library)
    exact ((front.append (Text.isEncodable_ofString _)).append value).append (Text.isEncodable_ofString _)
  · exact (Text.isEncodable_ofString _).append (Text.isEncodable_ofString _)

theorem IsEncodable.document {c : Catalog} (h : c.IsEncodable) (l : Json.Layout) :
    (Document.render l c).IsEncodable := by
  refine Json.isEncodable_write_object l 0 fun p hp => ⟨(h p hp).left, ?_⟩
  obtain ⟨ds, hds⟩ := exists_mem_toFields hp
  have plain : Json.Plain 3 p.2 := hds ▸ plain_library ds
  exact Json.isEncodable_write plain (h p hp).right l 1

theorem IsEncodable.fileText {c : Catalog} (h : c.IsEncodable) (f : Format) :
    (Command.fileText (Payload.render c f) f).IsEncodable := by
  cases f
  case script => exact h.script
  case json   => exact (h.document _).append (Text.isEncodable_ofString _)

theorem return_not_mem_script (c : Catalog) : Code.char '\r' ∉ Script.render c := by
  intro h
  obtain feed | printed := Script.isPrinted_of_mem_render h
  · exact absurd feed (by decide)
  · exact absurd (show 0x20 ≤ 0x0D from printed) (by decide)

theorem return_not_mem_document (l : Json.Layout) (c : Catalog) :
    Code.char '\r' ∉ Document.render l c := by
  intro h
  obtain h | h | h := Json.mem_write c.plain_toJson 0 0 h
  · have printed := Json.isPrinted_write c.plain_toJson 0 h
    exact absurd (show 0x20 ≤ 0x0D from printed) (by decide)
  · exact absurd h (by decide)
  · exact absurd h (by decide)

-- The ends of lines in a file with a payload are those that were written.
theorem unifyNewlines_fileText (c : Catalog) (f : Format) :
    (Command.fileText (Payload.render c f) f).unifyNewlines =
      Command.fileText (Payload.render c f) f := by
  apply Text.unifyNewlines_of_no_return
  cases f
  case script => exact return_not_mem_script c
  case json =>
    simp only [Command.fileText, List.mem_append, not_or]
    exact ⟨return_not_mem_document _ c, by decide⟩

-- The data of a catalog is read again from a file in either form.
theorem read_fileText (c : Catalog) (context : Text) (f : Format) :
    Payload.read context (Command.fileText (Payload.render c f) f) f = .ok c.toFields := by
  cases f
  case script => simp [Command.fileText, Payload.read, Payload.render, Script.read_render_eq]
  case json =>
    have read : Json.read (c.toJson.write Document.defaultLayout 0 ++ "\n") = .ok c.toJson :=
      Json.read_write_append _ c.plain_toJson (by decide) (by decide)
    simp only [Command.fileText, Payload.read, Payload.render, Document.read, Document.render, read]
    rfl

end Catalog
end TraitCatalog

import TraitCatalog.Proofs.Keyed
import TraitCatalog.Proofs.Payload.Stored

namespace TraitCatalog
namespace Text

-- Only the zero has a zero among its bytes.
theorem zero_not_mem_utf8EncodeChar {d : Char} (h : d ≠ '\x00') : 0 ∉ String.utf8EncodeChar d := by
  have positive : d.val.toNat ≠ 0 := fun zero => h (Char.ext (UInt32.toNat_inj.mp zero))
  have low (n : Nat) (hn : n % 256 ≠ 0) : (0 : UInt8) ≠ UInt8.ofNat n := by
    intro same
    have value : 0 = n % 256 := by simpa using congrArg UInt8.toNat same
    exact hn value.symm
  unfold String.utf8EncodeChar
  simp only
  repeat' split
  all_goals
    simp only [List.mem_cons, List.not_mem_nil, or_false, not_or]
    repeat' constructor
    all_goals
      apply low
      omega

theorem zero_not_mem_utf8? {t : Text} (h : t.utf8? = some bytes) (zero : Code.char '\x00' ∉ t) :
    0 ∉ bytes := by
  obtain ⟨chars, rfl⟩ := exists_chars_of_utf8? h
  rw [utf8?_map_char, Option.some.injEq] at h
  rw [← h, List.mem_flatMap]
  rintro ⟨d, mem, byte⟩
  have other : d ≠ '\x00' := fun same => zero (List.mem_map.mpr ⟨d, mem, congrArg Code.char same⟩)
  exact zero_not_mem_utf8EncodeChar other byte

theorem utf8?_injective {t u : Text} (ht : t.utf8? = some bytes) (hu : u.utf8? = some bytes) : t = u :=
  Option.some.inj ((ofUtf8?_utf8? ht).symm.trans (ofUtf8?_utf8? hu))

end Text

namespace Json

theorem isEncodable_writeItems (l : Layout) (depth : Nat)
    (h : ∀ v ∈ items, (write l depth v).IsEncodable) : (writeItems l depth items).IsEncodable := by
  induction items
  case nil => exact .nil
  case cons v items ih =>
    have first := h v (List.mem_cons_self ..)
    have others := ih fun w hw => h w (List.mem_cons_of_mem _ hw)
    have front := (Text.isEncodable_ofString ",").append (l.isEncodable_newline depth)
    exact (front.append first).append others

-- An array has a UTF-8 form if its items have one.
theorem isEncodable_write_array (l : Layout) (depth : Nat)
    (h : ∀ v ∈ items, (write l (depth + 1) v).IsEncodable) :
    (write l depth (.array items)).IsEncodable := by
  cases items
  case nil => exact Text.isEncodable_ofString _
  case cons v items =>
    have first := h v (List.mem_cons_self ..)
    have others := isEncodable_writeItems l (depth + 1) fun w hw => h w (List.mem_cons_of_mem _ hw)
    have front := (Text.isEncodable_ofString "[").append (l.isEncodable_newline (depth + 1))
    have inside := (front.append first).append others
    exact (inside.append (l.isEncodable_newline depth)).append (Text.isEncodable_ofString _)

theorem compact_injective (hv : Plain n v) (hw : Plain n w) (hn : n ≤ Limit.mostContainers)
    (h : v.compact = w.compact) : v = w := by
  have first := read_write .compact hv hn
  have second := read_write .compact hw hn
  rw [compact] at h
  exact Except.ok.inj (first.symm.trans (h ▸ second))

theorem zero_not_mem_compact (h : Plain n v) : Code.char '\x00' ∉ v.compact := by
  intro zero
  have printed := isPrinted_write h 0 zero
  exact absurd (show 0x20 ≤ 0 from printed) (by decide)

end Json

namespace Catalog

-- Every text of a catalog: the names of the libraries, the signatures and the identifiers.
def texts (c : Catalog) : List Text :=
  c.entries.flatMap fun (library, ds) => library :: ds.flatMap fun d => d.text :: d.path

theorem isEncodable_implementor (d : Implementor) (l : Json.Layout) (depth : Nat)
    (h : ∀ t ∈ d.text :: d.path, t.IsEncodable) : (d.toJson.write l depth).IsEncodable := by
  rw [List.forall_mem_cons] at h
  apply Json.isEncodable_write_object
  simp only [Implementor.toFields, List.forall_mem_cons, List.not_mem_nil, false_implies, implies_true,
    and_true]
  refine ⟨⟨Text.isEncodable_ofString _, Json.isEncodable_writeString h.left⟩,
    ⟨Text.isEncodable_ofString _, ?synthetic⟩, ⟨Text.isEncodable_ofString _, ?types⟩⟩
  case synthetic => cases d.synthetic <;> exact Text.isEncodable_ofString _
  case types =>
    apply Json.isEncodable_write_array
    rw [List.forall_mem_map]
    exact fun t mem => Json.isEncodable_writeString (h.right t mem)

-- A catalog without lone surrogates in its texts has a checksum.
theorem isEncodable_of_texts {c : Catalog} (h : ∀ t ∈ c.texts, t.IsEncodable) : c.IsEncodable := by
  simp only [texts, List.mem_flatMap, forall_exists_index, and_imp] at h
  unfold IsEncodable toFields Keyed.mapValues
  rw [List.forall_mem_map]
  intro p mem
  have inside := fun t => h t p mem
  simp only [List.mem_cons, List.mem_flatMap] at inside
  refine ⟨inside p.1 (.inl rfl), Json.isEncodable_write_array .compact 0 ?_⟩
  rw [List.forall_mem_map]
  intro d hd
  apply isEncodable_implementor
  intro t ht
  exact inside t (.inr ⟨d, hd, List.mem_cons.mp ht⟩)

end Catalog

namespace Checksum

-- What stands in front of the first zero can be told from what stands behind it.
theorem append_zero_injective {a b r s : Bytes} (ha : 0 ∉ a) (hb : 0 ∉ b) (h : a ++ 0 :: r = b ++ 0 :: s) :
    a = b ∧ r = s := by
  induction a generalizing b
  case nil =>
    cases b
    case nil => exact ⟨rfl, (List.cons_eq_cons.mp h).right⟩
    case cons y b =>
      have first : 0 = y := (List.cons_eq_cons.mp h).left
      exact absurd (first ▸ List.mem_cons_self ..) hb
  case cons x a ih =>
    cases b
    case nil =>
      have first : x = 0 := (List.cons_eq_cons.mp h).left
      exact absurd (first ▸ List.mem_cons_self ..) ha
    case cons y b =>
      obtain ⟨rfl, rest⟩ := List.cons_eq_cons.mp h
      obtain ⟨rfl, same⟩ := ih (List.not_mem_of_not_mem_cons ha) (List.not_mem_of_not_mem_cons hb) rest
      exact ⟨rfl, same⟩

-- A name and the value behind it can be taken off the front of the bytes again.
theorem fieldBytes?_append_injective (hv : Json.Plain n v) (hw : Json.Plain n w)
    (hn : n ≤ Limit.mostContainers) (hk : Code.char '\x00' ∉ k) (hl : Code.char '\x00' ∉ l)
    (hb : fieldBytes? k v = some b) (hc : fieldBytes? l w = some c) (h : b ++ r = c ++ s) :
    k = l ∧ v = w ∧ r = s := by
  simp only [fieldBytes?, Option.bind_eq_bind, Option.bind_eq_some_iff, Option.pure_def,
    Option.some.injEq] at hb hc
  obtain ⟨key, hkey, value, hvalue, rfl⟩ := hb
  obtain ⟨key', hkey', value', hvalue', rfl⟩ := hc
  simp only [List.append_assoc, List.cons_append, List.nil_append] at h
  obtain ⟨rfl, rest⟩ := append_zero_injective (Text.zero_not_mem_utf8? hkey hk)
    (Text.zero_not_mem_utf8? hkey' hl) h
  obtain ⟨rfl, behind⟩ := append_zero_injective
    (Text.zero_not_mem_utf8? hvalue (Json.zero_not_mem_compact hv))
    (Text.zero_not_mem_utf8? hvalue' (Json.zero_not_mem_compact hw)) rest
  have values := Json.compact_injective hv hw hn (Text.utf8?_injective hvalue hvalue')
  exact ⟨Text.utf8?_injective hkey hkey', values, behind⟩

theorem stream?_cons_eq_some_iff {fields : Keyed Json} : stream? ((k, v) :: fields) = some bytes ↔
    ∃ b r, fieldBytes? k v = some b ∧ stream? fields = some r ∧ b ++ r = bytes := by
  simp only [stream?, List.mapM_cons]
  cases fieldBytes? k v <;> cases List.mapM (fun x => fieldBytes? x.1 x.2) fields <;> simp

theorem stream?_cons_ne_nil {fields : Keyed Json} : stream? ((k, v) :: fields) ≠ some [] := by
  intro h
  obtain ⟨b, r, hb, -, none⟩ := stream?_cons_eq_some_iff.mp h
  simp only [fieldBytes?, Option.bind_eq_bind, Option.bind_eq_some_iff, Option.pure_def,
    Option.some.injEq] at hb
  obtain ⟨key, -, value, -, rfl⟩ := hb
  simp at none

-- Fields of a catalog that can be told apart by the zeros behind them.
structure Separable (fields : Keyed Json) : Prop where
  names  : ∀ p ∈ fields, Code.char '\x00' ∉ p.1
  values : ∀ p ∈ fields, Json.Plain 3 p.2

theorem Separable.tail (h : Separable (p :: fields)) : Separable fields where
  names q mem  := h.names q (List.mem_cons_of_mem _ mem)
  values q mem := h.values q (List.mem_cons_of_mem _ mem)

theorem stream?_injective {fields fields' : Keyed Json} (first : Separable fields)
    (second : Separable fields') (h : stream? fields = some bytes) (h' : stream? fields' = some bytes) :
    fields = fields' := by
  induction fields generalizing fields' bytes
  case nil =>
    cases fields'
    case nil => rfl
    case cons =>
      cases h
      exact absurd h' stream?_cons_ne_nil
  case cons p fields ih =>
    cases fields'
    case nil =>
      cases h'
      exact absurd h stream?_cons_ne_nil
    case cons q fields' =>
      obtain ⟨b, r, hb, hr, rfl⟩ := stream?_cons_eq_some_iff.mp h
      obtain ⟨c, s, hc, hs, same⟩ := stream?_cons_eq_some_iff.mp h'
      obtain ⟨keys, values, rfl⟩ := fieldBytes?_append_injective
        (first.values p (List.mem_cons_self ..)) (second.values q (List.mem_cons_self ..)) (by decide)
        (first.names p (List.mem_cons_self ..)) (second.names q (List.mem_cons_self ..)) hb hc same.symm
      rw [Prod.ext keys values, ih first.tail second.tail hr hs]

end Checksum

theorem Sha256.absorb_block {block : List UInt32} (h : block.length = 16) (x : Sha256.Chain) :
    Sha256.absorb x block = Sha256.compress x block := by
  cases block
  case nil => cases h
  case cons word rest =>
    have short : rest.length = 15 := Nat.succ.inj h
    rw [Sha256.absorb, List.take_of_length_le (Nat.le_of_eq short),
      List.drop_of_length_le (Nat.le_of_eq short), Sha256.absorb]

namespace Catalog

theorem separable_toFields {c : Catalog} (h : ∀ l ∈ c.libraries, Code.char '\x00' ∉ l) :
    Checksum.Separable c.toFields where
  names p mem := by
    have key : p.1 ∈ c.toFields.keys := List.mem_map.mpr ⟨p, mem, rfl⟩
    rw [toFields, Keyed.keys_mapValues] at key
    exact h p.1 key
  values p mem := by
    obtain ⟨ds, array⟩ := exists_mem_toFields mem
    rw [array]
    exact plain_library ds

theorem toFields_injective {a b : Catalog} (h : a.toFields = b.toFields) : a = b := by
  have first := ofFields_toFields literalContext a
  have second := ofFields_toFields literalContext b
  rw [h] at first
  exact Except.ok.inj (first.symm.trans second)

-- Different catalogs are digested from different bytes if no library has a zero in its name.
theorem stream?_ne {a b : Catalog} (texts : ∀ t ∈ a.texts, t.IsEncodable)
    (texts' : ∀ t ∈ b.texts, t.IsEncodable) (names : ∀ l ∈ a.libraries, Code.char '\x00' ∉ l)
    (names' : ∀ l ∈ b.libraries, Code.char '\x00' ∉ l) (different : a ≠ b) :
    ∃ s s', Checksum.stream? a.toFields = some s ∧ Checksum.stream? b.toFields = some s' ∧ s ≠ s' := by
  obtain ⟨s, hs⟩ := Option.isSome_iff_exists.mp (isSome_stream?_iff.mpr (isEncodable_of_texts texts))
  obtain ⟨s', hs'⟩ := Option.isSome_iff_exists.mp (isSome_stream?_iff.mpr (isEncodable_of_texts texts'))
  refine ⟨s, s', hs, hs', fun same => different ?_⟩
  subst same
  exact toFields_injective (Checksum.stream?_injective (separable_toFields names)
    (separable_toFields names') hs hs')

theorem stream?_ne_reordered :
    let a := ofPairs [("a", []), ("b", [])]
    let b := ofPairs [("b", []), ("a", [])]
    (∀ t ∈ a.texts, t.IsEncodable) ∧ (∀ t ∈ b.texts, t.IsEncodable) ∧
    (∀ l ∈ a.libraries, Code.char '\x00' ∉ l) ∧ (∀ l ∈ b.libraries, Code.char '\x00' ∉ l) ∧ a ≠ b ∧
    ∃ s s', Checksum.stream? a.toFields = some s ∧ Checksum.stream? b.toFields = some s' ∧ s ≠ s' := by
  intro a b
  have texts : ∀ t ∈ a.texts, t.IsEncodable := by decide
  exact ⟨texts, by decide, by decide, by decide, by decide,
    stream?_ne texts (by decide) (by decide) (by decide) (by decide)⟩

-- Where a library has a zero in its name, that need not be so: what follows the zero is taken for the
-- libraries behind. Here, all that the order of the libraries changes is where the bytes are parted.
theorem stream?_collision :
    let a := ofPairs [("a", []), ("a\x00[]\x00a", [])]
    let b := ofPairs [("a\x00[]\x00a", []), ("a", [])]
    (∀ t ∈ a.texts, t.IsEncodable) ∧ (∀ t ∈ b.texts, t.IsEncodable) ∧ a ≠ b ∧
    (Checksum.stream? a.toFields).isSome ∧
    Checksum.stream? a.toFields = Checksum.stream? b.toFields := by
  exact ⟨by decide, by decide, by decide, by decide, by decide⟩

theorem eq_of_sameEntries {a b : Catalog} (same : a.sameEntries b = true)
    (libraries : a.libraries = b.libraries) : a = b := by
  simp only [sameEntries, Bool.and_eq_true, List.all_eq_true, decide_eq_true_eq] at same
  have entries : a.entries = b.entries := by
    apply Keyed.eq_of_keys_of_get? a.nodup_keys libraries
    intro library mem
    obtain ⟨ds, h⟩ := Option.isSome_iff_exists.mp (Keyed.isSome_get?_iff.mpr mem)
    have found : b.get? library = some ds := same.right _ (Keyed.mem_of_get?_eq_some h)
    exact h.trans found.symm
  cases a
  cases b
  cases entries
  rfl

-- Equal catalogs with their libraries in one order have the same checksum.
theorem checksum_eq_of_sameEntries {a b : Catalog} (texts : ∀ t ∈ a.texts, t.IsEncodable)
    (same : a.sameEntries b = true) (libraries : a.libraries = b.libraries) :
    ∃ t, a.checksum = .ok t ∧ b.checksum = .ok t := by
  cases eq_of_sameEntries same libraries
  obtain ⟨t, ht⟩ := exists_checksum_iff.mpr (isEncodable_of_texts texts)
  exact ⟨t, ht, ht⟩

theorem checksum_eq_of_sameEntries_surrogate_free :
    let a := ofPairs [("a", [⟨"impl A", false, ["a", "A"], by decide, by decide⟩]), ("b", [])]
    let b := ofPairs [("a", []), ("b", []), ("a", [⟨"impl A", false, ["a", "A"], by decide, by decide⟩])]
    (∀ t ∈ a.texts, t.IsEncodable) ∧ a.sameEntries b = true ∧ a.libraries = b.libraries ∧
    ∃ t, a.checksum = .ok t ∧ b.checksum = .ok t := by
  intro a b
  have texts : ∀ t ∈ a.texts, t.IsEncodable := by decide
  exact ⟨texts, by decide, by decide, checksum_eq_of_sameEntries texts (by decide) (by decide)⟩

-- The order of the libraries does not count when catalogs are compared, but it changes the checksum.
theorem checksum_ne_of_reordered :
    let a := ofPairs [("a", []), ("b", [])]
    let b := ofPairs [("b", []), ("a", [])]
    (∀ t ∈ a.texts, t.IsEncodable) ∧ (∀ t ∈ b.texts, t.IsEncodable) ∧ a.sameEntries b = true ∧
    a.checksum ≠ b.checksum := by
  intro a b
  have first : Checksum.stream? a.toFields =
    some [0x61, 0, 0x5b, 0x5d, 0, 0x62, 0, 0x5b, 0x5d, 0] := by rfl
  have second : Checksum.stream? b.toFields =
    some [0x62, 0, 0x5b, 0x5d, 0, 0x61, 0, 0x5b, 0x5d, 0] := by rfl
  refine ⟨by decide, by decide, by decide, ?_⟩
  rw [checksum, checksum, Checksum.ofFields, Checksum.ofFields, first, second]
  simp only [Sha256.digest, ne_eq, Except.ok.injEq]
  rw [Sha256.absorb_block (by decide), Sha256.absorb_block (by decide)]
  decide +kernel

end Catalog
end TraitCatalog

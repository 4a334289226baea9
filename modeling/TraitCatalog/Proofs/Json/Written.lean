import TraitCatalog.Proofs.Json.Recognized

namespace TraitCatalog
namespace Json

-- Values of texts and truth values with at most `n` containers inside of each other, in which no object
-- repeats a key.
inductive Plain : (n : Nat) → Json → Prop
  | bool   : Plain n (.bool b)
  | string : Plain n (.string t)
  | array  : (∀ v ∈ items, Plain n v) → Plain (n + 1) (.array items)
  | object : (Keyed.keys fields).Nodup → (∀ p ∈ fields, Plain n p.2) → Plain (n + 1) (.object fields)

theorem write_array (l : Layout) (depth : Nat) (v : Json) (items : List Json) :
    write l depth (.array (v :: items)) = .char '[' :: (l.newline (depth + 1) ++
      (write l (depth + 1) v ++ (writeItems l (depth + 1) items ++ (l.newline depth ++ ("]" : Text)))))
    := by
  simp only [write, List.append_assoc]
  rfl

theorem writeItems_cons (l : Layout) (depth : Nat) (v : Json) (items : List Json) :
    writeItems l depth (v :: items) =
      .char ',' :: (l.newline depth ++ (write l depth v ++ writeItems l depth items)) := by
  simp only [writeItems, List.append_assoc]
  rfl

theorem write_object (l : Layout) (depth : Nat) (key : Text) (v : Json) (fields : Keyed Json) :
    write l depth (.object ((key, v) :: fields)) = .char '\x7b' :: (l.newline (depth + 1) ++
      (writeString key ++ (l.colon ++ (write l (depth + 1) v ++ (writeFields l (depth + 1) fields ++
        (l.newline depth ++ ("\x7d" : Text))))))) := by
  simp only [write, List.append_assoc]
  rfl

theorem writeFields_cons (l : Layout) (depth : Nat) (key : Text) (v : Json) (fields : Keyed Json) :
    writeFields l depth ((key, v) :: fields) = .char ',' :: (l.newline depth ++ (writeString key ++
      (l.colon ++ (write l depth v ++ writeFields l depth fields)))) := by
  simp only [writeFields, List.append_assoc]
  rfl

theorem Layout.blank_newline (l : Layout) (depth : Nat) : Blank (l.newline depth) := by
  cases l
  case compact  => exact nofun
  case indented width =>
    intro c hc
    rw [newline, List.mem_cons, List.mem_replicate] at hc
    obtain rfl | ⟨-, rfl⟩ := hc <;> decide

theorem Layout.exists_colon (l : Layout) : ∃ b, l.colon = .char ':' :: b ∧ Blank b := by
  cases l
  case compact  => exact ⟨[], rfl, nofun⟩
  case indented => exact ⟨[.char ' '], rfl, by decide⟩

theorem spellsText_writeString (t : Text) : SpellsText (writeString t) t := by
  have closed : (Quoted.plain (t.reverse ++ []) none).step (.char '"') = .ok (.inr t) := by
    rw [Quoted.step_quote]
    simp [Quoted.pending]
  exact .quoted (Quoted.takes_iff_quotes.mp ⟨_, Quoted.passes_flatMap_writeCode t [], closed⟩)

variable {words : List (Text × Json)} {after : Text} (l : Layout) (depth : Nat)

-- The items of an array with the blanks that the layout puts around them.
theorem exists_items (h : ∀ w ∈ v :: items, Spells words n (write l depth w) w) (hb : Blank after) :
    ∃ ps : List (Padded Json), ps ≠ [] ∧ (∀ p ∈ ps, Spells words n p.word p.value) ∧
      ps.map Padded.value = v :: items ∧ Text.join [.char ','] (ps.map Padded.text) =
        l.newline depth ++ (write l depth v ++ (writeItems l depth items ++ after)) := by
  induction items generalizing v
  case nil =>
    let p : Padded Json := ⟨l.newline depth, write l depth v, v, after, l.blank_newline depth, hb⟩
    refine ⟨[p], List.cons_ne_nil _ _, List.forall_mem_singleton.mpr (h v (List.mem_cons_self ..)), rfl, ?_⟩
    simp [Text.join, Padded.text, writeItems, p]
  case cons w items ih =>
    obtain ⟨first, others⟩ := List.forall_mem_cons.mp h
    obtain ⟨ps, ne, spells, values, text⟩ := ih others
    let p : Padded Json := ⟨l.newline depth, write l depth v, v, [], l.blank_newline depth, blank_nil⟩
    have more : ps.map Padded.text ≠ [] := fun none => ne (List.map_eq_nil_iff.mp none)
    refine ⟨p :: ps, List.cons_ne_nil _ _, List.forall_mem_cons.mpr ⟨first, spells⟩, ?values, ?text⟩
    case values => rw [List.map_cons, values]
    case text =>
      rw [Text.join, List.map_cons, List.intercalate_cons_of_ne_nil more, ← Text.join, text, writeItems_cons]
      simp [Padded.text, p]

-- The members of an object with the blanks that the layout puts around them.
theorem exists_members {key : Text} (h : ∀ q ∈ (key, v) :: fields, Spells words n (write l depth q.2) q.2)
    (hb : Blank after) :
    ∃ ms : List Member, ms ≠ [] ∧ (∀ m ∈ ms, SpellsText m.key.word m.key.value) ∧
      (∀ m ∈ ms, Spells words n m.item.word m.item.value) ∧
      ms.map Member.pair = (key, v) :: fields ∧ Text.join [.char ','] (ms.map Member.text) =
        l.newline depth ++ (writeString key ++ (l.colon ++ (write l depth v ++
          (writeFields l depth fields ++ after)))) := by
  obtain ⟨colonBlank, colon, blank⟩ := l.exists_colon
  induction fields generalizing key v
  case nil =>
    let m : Member := ⟨⟨l.newline depth, writeString key, key, [], l.blank_newline depth, blank_nil⟩,
      ⟨colonBlank, write l depth v, v, after, blank, hb⟩⟩
    refine ⟨[m], List.cons_ne_nil _ _, List.forall_mem_singleton.mpr (spellsText_writeString key),
      List.forall_mem_singleton.mpr (h (key, v) (List.mem_cons_self ..)), rfl, ?_⟩
    simp [Text.join, Member.text, Padded.text, writeFields, colon, m]
  case cons q fields ih =>
    obtain ⟨first, others⟩ := List.forall_mem_cons.mp h
    obtain ⟨ms, ne, keys, spells, pairs, text⟩ := ih others
    let m : Member := ⟨⟨l.newline depth, writeString key, key, [], l.blank_newline depth, blank_nil⟩,
      ⟨colonBlank, write l depth v, v, [], blank, blank_nil⟩⟩
    have more : ms.map Member.text ≠ [] := fun none => ne (List.map_eq_nil_iff.mp none)
    refine ⟨m :: ms, List.cons_ne_nil _ _, List.forall_mem_cons.mpr ⟨spellsText_writeString key, keys⟩,
      List.forall_mem_cons.mpr ⟨first, spells⟩, ?pairs, ?text⟩
    case pairs => rw [List.map_cons, pairs]; rfl
    case text =>
      rw [Text.join, List.map_cons, List.intercalate_cons_of_ne_nil more, ← Text.join, text,
        writeFields_cons]
      simp [Member.text, Padded.text, colon, m]

-- What is written for a value is a text of the standard for it.
theorem spells_write (h : Plain n v) : Spells standardWords n (write l depth v) v := by
  induction h generalizing depth
  case bool b =>
    cases b
    case false => exact .word (.tail _ (.tail _ (.head _)))
    case true  => exact .word (.tail _ (.head _))
  case string t => exact .string (spellsText_writeString t)
  case array items _ _ ih =>
    cases items
    case nil => exact .emptyArray blank_nil
    case cons v items =>
      obtain ⟨ps, ne, spells, values, text⟩ :=
        exists_items l (depth + 1) (fun w hw => ih w hw (depth + 1)) (l.blank_newline depth)
      have array := Spells.array ps ne spells
      rw [values, text] at array
      simp only [List.append_assoc, List.cons_append] at array
      rw [write_array]
      exact array
  case object fields _ nodup _ ih =>
    cases fields
    case nil => exact .emptyObject blank_nil
    case cons q fields =>
      obtain ⟨ms, ne, keys, spells, pairs, text⟩ :=
        exists_members l (depth + 1) (fun w hw => ih w hw (depth + 1)) (l.blank_newline depth)
      have object := Spells.object ms ne keys spells
      rw [pairs, text, Keyed.ofPairs_of_nodup nodup] at object
      simp only [List.append_assoc, List.cons_append] at object
      rw [write_object]
      exact object

-- What is written for a value reads as that value, also with blanks behind it.
theorem read_write_append (h : Plain n v) (hn : n ≤ Limit.mostContainers)
    (hb : Blank blanks) : Json.read (write l 0 v ++ blanks) = .ok v := by
  let p : Padded Json := ⟨[], write l 0 v, v, blanks, blank_nil, hb⟩
  exact read_eq_ok_iff.mpr ⟨p, rfl, rfl, (spells_write l 0 h).of_standard hn⟩

theorem read_write (l : Layout) (h : Plain n v) (hn : n ≤ Limit.mostContainers) :
    Json.read (write l 0 v) = .ok v := by
  have all := read_write_append l h hn blank_nil
  rwa [List.append_nil] at all

end Json
end TraitCatalog

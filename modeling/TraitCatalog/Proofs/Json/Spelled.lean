import Mathlib.Data.List.Basic
import TraitCatalog.Proofs.Json.Numeral
import TraitCatalog.Proofs.Json.Quotes
import TraitCatalog.Proofs.Json.Reads
import TraitCatalog.Proofs.Keyed

namespace TraitCatalog

-- Texts that are joined, with the last one apart.
theorem Text.join_concat (sep : Text) (f : α → Text) (front : List α) (last : α) :
    join sep ((front ++ [last]).map f) = (front.flatMap fun a => f a ++ sep) ++ f last := by
  induction front
  case nil => simp [join]
  case cons a front ih =>
    have more : (front ++ [last]).map f ≠ [] := by simp
    rw [join] at ih ⊢
    rw [List.cons_append, List.map_cons, List.intercalate_cons_of_ne_nil more, ih]
    simp only [List.flatMap_cons, List.append_assoc]

namespace Json
namespace State

-- A value is awaited inside of the containers. The first item of an array may also be missing.
def opening : List Frame → State
  | .item [] :: st => ⟨.arrayStart, st⟩
  | st => ⟨.value, st⟩

-- A key is awaited behind the fields. The first one may also be missing.
def openingKey : Keyed Json → List Frame → State
  | [], st => ⟨.objectStart, st⟩
  | fields, st => ⟨.key fields, st⟩

theorem openingKey_put (fields : Keyed Json) (key : Text) (v : Json) (st : List Frame) :
    openingKey (fields.put key v) st = ⟨.key (fields.put key v), st⟩ := by
  obtain ⟨p, others, h⟩ := List.exists_cons_of_ne_nil (fields.put_ne_nil key v)
  rw [h]
  rfl

-- Either a value is awaited in any place, or an array has begun.
theorem opening_cases (st : List Frame) :
    opening st = ⟨.value, st⟩ ∨ ∃ outer, st = .item [] :: outer ∧ opening st = ⟨.arrayStart, outer⟩ := by
  unfold opening
  split
  case h_1 outer => exact .inr ⟨outer, rfl, rfl⟩
  case h_2       => exact .inl rfl

theorem skips_opening (st : List Frame) : Skips (opening st) := by
  obtain h | ⟨outer, -, h⟩ := opening_cases st
  · exact h ▸ skips_value st
  · exact h ▸ skips_arrayStart outer

theorem skips_openingKey (fields : Keyed Json) (st : List Frame) : Skips (openingKey fields st) := by
  cases fields
  case nil  => exact skips_objectStart st
  case cons => exact skips_key st _

theorem skips_colon (fields : Keyed Json) (key : Text) (st : List Frame) :
    Skips ⟨.colon fields key, st⟩ :=
  fun c h => by simp [step, h]

theorem skips_complete (v : Json) (st : List Frame) : Skips (complete v st) := by
  cases st
  case nil => exact skips_done [] v
  case cons f st =>
    cases f
    case item before      => exact skips_afterItem st _
    case member before key => exact skips_afterMember st _

theorem step_opening (hs : isSpace c = false) (hc : c ≠ .char ']') (st : List Frame) :
    (opening st).step c = openValue st c := by
  have close : c.is ']' = false := by simpa [Code.is] using hc
  obtain h | ⟨outer, rfl, h⟩ := opening_cases st
  · simp [h, step, hs]
  · simp [h, step, hs, close]

theorem step_complete (v : Json) (st : List Frame) (c : Code) :
    (complete v st).step c = (complete v st).between c := by
  cases st
  case nil => rfl
  case cons f st => cases f <;> rfl

-- The value is there, or it is that of a number that has not ended yet.
inductive Ends (v : Json) (st : List Frame) : State → Prop
  | complete : Ends v st (complete v st)
  | number   : n.value = .ok v → Ends v st ⟨.number n, st⟩

-- What may follow a value.
def IsDelimiter (c : Code) : Prop :=
  isSpace c = true ∨ c = .char ',' ∨ c = .char ']' ∨ c = .char '\x7d'

theorem extend?_delimiter (h : IsDelimiter c) (n : Number) : n.extend? c = none := by
  unfold IsDelimiter isSpace at h
  simp only [Bool.or_eq_true, Code.is_iff, or_assoc] at h
  obtain rfl | rfl | rfl | rfl | rfl | rfl | rfl := h <;> cases n <;> rfl

theorem step_number (stops : n.extend? c = none) (hv : n.value = .ok v) (st : List Frame) :
    State.step ⟨.number n, st⟩ c = (complete v st).between c := by
  cases n
  case sign => cases hv
  all_goals simp [step, stops, hv]

theorem Ends.step (h : Ends v st s) (hc : IsDelimiter c) : s.step c = (State.complete v st).between c := by
  cases h
  case complete => exact step_complete v st c
  case number hv => exact step_number (extend?_delimiter hc _) hv st

theorem Ends.reads_blank (h : Ends v st s) (hb : Blank b) : ∃ s', Reads s b s' ∧ Ends v st s' := by
  cases b
  case nil => exact ⟨s, .nil, h⟩
  case cons c b =>
    obtain ⟨first, others⟩ := List.forall_mem_cons.mp hb
    have skips := skips_complete v st
    have one : s.step c = .ok (State.complete v st) := by
      rw [mem_spaces_iff] at first
      rw [h.step (.inl first), ← step_complete]
      exact skips c first
    exact ⟨State.complete v st, .cons one (skips.reads others), .complete⟩

-- The reader goes over `t` where a value is awaited, and then has the value.
def Gives (st : List Frame) (t : Text) (v : Json) : Prop :=
  ∃ s, Reads (opening st) t s ∧ Ends v st s

theorem Gives.padded {p : Padded Json} (h : Gives st p.word p.value) : Gives st p.text p.value := by
  obtain ⟨s, word, ends⟩ := h
  obtain ⟨s', after, ends⟩ := ends.reads_blank p.blank_after
  have before := (skips_opening st).reads p.blank_before
  exact ⟨s', (before.append word).append after, ends⟩

theorem Gives.reads_concat (h : Gives st t v) (hc : IsDelimiter c)
    (next : (complete v st).between c = .ok s) : Reads (opening st) (t ++ [c]) s := by
  obtain ⟨s', value, ends⟩ := h
  exact value.append (.cons ((ends.step hc).trans next) .nil)

theorem Reads.number (st : List Frame) (h : n.Grows w n') : Reads ⟨.number n, st⟩ w ⟨.number n', st⟩ := by
  induction w generalizing n
  case nil =>
    cases h
    exact .nil
  case cons c w ih =>
    unfold Number.Grows at h
    rw [List.foldlM_cons] at h
    obtain ⟨n₁, one, others⟩ := Option.bind_eq_some_iff.mp h
    refine .cons ?_ (ih others)
    cases n <;> simp [step, one]

theorem openValue_of_start (h : Number.start? c = some n) (st : List Frame) :
    isSpace c = false ∧ c ≠ .char ']' ∧ openValue st c = .ok ⟨.number n, st⟩ := by
  have first : c = .char '-' ∨ c.isDigit = true := by
    unfold Number.start? at h
    repeat' split at h
    case isTrue minus => exact .inl (Code.is_iff.mp minus)
    case isFalse.isTrue zero => exact .inr (Code.is_iff.mp zero ▸ rfl)
    case isFalse.isFalse.isTrue digit => exact .inr digit
    case isFalse.isFalse.isFalse => cases h
  obtain rfl | digit := first
  · cases h
    exact ⟨rfl, by decide, rfl⟩
  · have other (d : Char) (hd : (Code.char d).isDigit = false) := is_eq_false_of_isDigit digit hd
    refine ⟨by simp (disch := decide) [isSpace, other], ?_, by simp (disch := decide) [openValue, other, h]⟩
    rintro rfl
    cases digit

theorem reads_begun (h : Number.Begun w n) (st : List Frame) :
    Reads (opening st) w ⟨.number n, st⟩ := by
  obtain ⟨c, w, n₁, rfl, start, others⟩ := h.takes
  obtain ⟨space, close, opened⟩ := openValue_of_start start st
  exact .cons ((step_opening space close st).trans opened) (.number st others)

theorem gives_number (h : Numeral w v) (st : List Frame) : Gives st w v := by
  obtain ⟨n, begun, value⟩ := Number.exists_begun h
  exact ⟨_, reads_begun begun st, .number value⟩

theorem gives_word (h : (w, v) ∈ allWords) (st : List Frame) : Gives st w v := by
  have start {c rest s} (hs : isSpace c = false) (hc : c ≠ .char ']') (first : openValue st c = .ok s)
      (others : Reads s rest (complete v st)) : Gives st (c :: rest) v :=
    ⟨_, .cons ((step_opening hs hc st).trans first) others, .complete⟩
  simp only [allWords, standardWords, List.cons_append, List.nil_append, List.mem_cons, Prod.mk.injEq,
    List.not_mem_nil, or_false] at h
  obtain ⟨rfl, rfl⟩ | ⟨rfl, rfl⟩ | ⟨rfl, rfl⟩ | ⟨rfl, rfl⟩ | ⟨rfl, rfl⟩ | ⟨rfl, rfl⟩ := h
  all_goals exact start rfl (by decide) rfl rfl

theorem reads_quotes (h : Quotes w t) (st : List Frame) :
    Reads ⟨.text (.plain [] none), st⟩ (w ++ [.char '"']) (complete (.string t) st) := by
  obtain ⟨q, passes, closed⟩ := Quoted.takes_iff_quotes.mpr h
  exact (Reads.text st passes).append (.cons (by simp [step, closed]) .nil)

theorem reads_keyQuotes (h : Quotes w t) (fields : Keyed Json) (st : List Frame) :
    Reads ⟨.keyText fields (.plain [] none), st⟩ (w ++ [.char '"']) ⟨.colon fields t, st⟩ := by
  obtain ⟨q, passes, closed⟩ := Quoted.takes_iff_quotes.mpr h
  exact (Reads.keyText fields st passes).append (.cons (by simp [step, closed]) .nil)

theorem gives_string (h : SpellsText w t) (st : List Frame) : Gives st w (.string t) := by
  cases h with | quoted h =>
    exact ⟨_, .cons (step_opening rfl (by decide) st) (reads_quotes h st), .complete⟩

theorem step_open_array (room : st.length < Limit.mostContainers) :
    (opening st).step (.char '[') = .ok (opening (.item [] :: st)) := by
  rw [step_opening rfl (by decide)]
  exact if_pos room

theorem step_open_object (room : st.length < Limit.mostContainers) :
    (opening st).step (.char '\x7b') = .ok (openingKey [] st) := by
  rw [step_opening rfl (by decide)]
  exact if_pos room

theorem gives_emptyArray (room : st.length < Limit.mostContainers) (hb : Blank b) :
    Gives st (.char '[' :: b ++ [.char ']']) (.array []) := by
  have blanks := (skips_opening (.item [] :: st)).reads hb
  exact ⟨_, .cons (step_open_array room) (blanks.append (.cons rfl .nil)), .complete⟩

theorem gives_emptyObject (room : st.length < Limit.mostContainers) (hb : Blank b) :
    Gives st (.char '\x7b' :: b ++ [.char '\x7d']) (.object []) := by
  have blanks := (skips_openingKey [] st).reads hb
  exact ⟨_, .cons (step_open_object room) (blanks.append (.cons rfl .nil)), .complete⟩

theorem reads_items {front : List (Padded Json)}
    (h : ∀ p ∈ front, ∀ before, Gives (.item before :: st) p.word p.value)
    (before : List Json) :
    Reads (opening (.item before :: st)) (front.flatMap fun p => p.text ++ [.char ','])
      (opening (.item ((front.map Padded.value).reverse ++ before) :: st)) := by
  induction front generalizing before
  case nil => exact .nil
  case cons p front ih =>
    obtain ⟨first, others⟩ := List.forall_mem_cons.mp h
    have item : Reads (opening (.item before :: st)) (p.text ++ [.char ','])
        (opening (.item (p.value :: before) :: st)) :=
      (first before).padded.reads_concat (.inr (.inl rfl)) rfl
    have behind := ih others (p.value :: before)
    rw [List.map_cons, List.reverse_cons, List.append_assoc]
    exact item.append behind

theorem reads_openArray (room : st.length < Limit.mostContainers)
    (h : ∀ p ∈ front, ∀ before, Gives (.item before :: st) p.word p.value) :
    Reads (opening st) (openArray front) (opening (.item (front.map Padded.value).reverse :: st)) := by
  have items := reads_items h []
  rw [List.append_nil] at items
  exact .cons (step_open_array room) items

theorem gives_array (room : st.length < Limit.mostContainers) (ne : items ≠ [])
    (h : ∀ p ∈ items, ∀ before, Gives (.item before :: st) p.word p.value) :
    Gives st (.char '[' :: Text.join [.char ','] (items.map Padded.text) ++ [.char ']'])
      (.array (items.map Padded.value)) := by
  obtain ⟨front, last, rfl⟩ := (List.eq_nil_or_concat' _).resolve_left ne
  rw [forall_mem_concat] at h
  have first := reads_openArray room h.left
  have ended : (complete last.value (.item (front.map Padded.value).reverse :: st)).between (.char ']') =
      .ok (complete (.array ((front ++ [last]).map Padded.value)) st) := by
    simp [between, complete, isSpace, Code.is]
  have item := (h.right _).padded.reads_concat (.inr (.inr (.inl rfl))) ended
  rw [Text.join_concat]
  have all := first.append item
  rw [openArray, List.cons_append, ← List.append_assoc] at all
  exact ⟨_, all, .complete⟩

-- A key with its blanks and the colon behind it.
theorem reads_key {key : Padded Text} (h : SpellsText key.word key.value) (fields : Keyed Json)
    (st : List Frame) : Reads (openingKey fields st) (key.text ++ [.char ':'])
      (opening (.member fields key.value :: st)) := by
  obtain ⟨blank, word, value, after, before_blank, after_blank⟩ := key
  cases h with | quoted h =>
    have first := (skips_openingKey fields st).reads before_blank
    have quote : (openingKey fields st).step (.char '"') =
        .ok ⟨.keyText fields (.plain [] none), st⟩ := by
      cases fields <;> rfl
    have last := (skips_colon fields value st).reads after_blank
    have colon : State.step ⟨.colon fields value, st⟩ (.char ':') =
        .ok (opening (.member fields value :: st)) := rfl
    exact ((first.append (.cons quote (reads_keyQuotes h fields st))).append last).append (.cons colon .nil)

-- A member up to the delimiter behind it.
theorem reads_member {m : Member} (key : SpellsText m.key.word m.key.value)
    (item : Gives (.member fields m.key.value :: st) m.item.word m.item.value) (hc : IsDelimiter c)
    (next : State.between ⟨.afterMember (fields.put m.key.value m.item.value), st⟩ c = .ok s) :
    Reads (openingKey fields st) (m.text ++ [c]) s := by
  have first := reads_key key fields st
  have second := item.padded.reads_concat hc next
  have all := first.append second
  rwa [List.append_assoc, List.singleton_append, ← List.cons_append, ← List.append_assoc] at all

theorem reads_members {front : List Member} (keys : ∀ m ∈ front, SpellsText m.key.word m.key.value)
    (items : ∀ m ∈ front, ∀ before key, Gives (.member before key :: st) m.item.word m.item.value)
    (fields : Keyed Json) : Reads (openingKey fields st) (front.flatMap fun m => m.text ++ [.char ','])
      (openingKey (fields.update (front.map Member.pair)) st) := by
  induction front generalizing fields
  case nil => exact .nil
  case cons m front ih =>
    obtain ⟨key, keys⟩ := List.forall_mem_cons.mp keys
    obtain ⟨item, items⟩ := List.forall_mem_cons.mp items
    have member : Reads (openingKey fields st) (m.text ++ [.char ','])
        (openingKey (fields.put m.key.value m.item.value) st) := by
      rw [openingKey_put]
      exact reads_member key (item fields m.key.value) (.inr (.inl rfl)) rfl
    exact member.append (ih keys items _)

theorem reads_openObject (room : st.length < Limit.mostContainers)
    (keys : ∀ m ∈ front, SpellsText m.key.word m.key.value)
    (items : ∀ m ∈ front, ∀ before key, Gives (.member before key :: st) m.item.word m.item.value) :
    Reads (opening st) (openObject front) (openingKey (Keyed.ofPairs (front.map Member.pair)) st) :=
  .cons (step_open_object room) (reads_members keys items [])

theorem gives_object (room : st.length < Limit.mostContainers) (ne : members ≠ [])
    (keys : ∀ m ∈ members, SpellsText m.key.word m.key.value)
    (items : ∀ m ∈ members, ∀ before key, Gives (.member before key :: st) m.item.word m.item.value) :
    Gives st (.char '\x7b' :: Text.join [.char ','] (members.map Member.text) ++ [.char '\x7d'])
      (.object (Keyed.ofPairs (members.map Member.pair))) := by
  obtain ⟨front, last, rfl⟩ := (List.eq_nil_or_concat' _).resolve_left ne
  rw [forall_mem_concat] at keys items
  have first := reads_openObject room keys.left items.left
  have member := reads_member keys.right (items.right (Keyed.ofPairs (front.map Member.pair)) _)
    (.inr (.inr (.inr rfl))) rfl
  rw [Text.join_concat]
  have all := first.append member
  rw [openObject, List.cons_append, ← List.append_assoc] at all
  refine ⟨_, all, ?_⟩
  rw [List.map_append, List.map_singleton, Keyed.ofPairs_concat]
  exact .complete

theorem gives_of_spells (h : Spells allWords n w v) (room : st.length + n ≤ Limit.mostContainers) :
    Gives st w v := by
  induction h generalizing st
  case word h   => exact gives_word h st
  case number h => exact gives_number h st
  case string h => exact gives_string h st
  case emptyArray h => exact gives_emptyArray (by omega) h
  case array items ne _ ih =>
    exact gives_array (by omega) ne fun p hp before => ih p hp (by simp; omega)
  case emptyObject h => exact gives_emptyObject (by omega) h
  case object members ne keys _ ih =>
    exact gives_object (by omega) ne keys fun m hm before key => ih m hm (by simp; omega)

end State
end Json
end TraitCatalog

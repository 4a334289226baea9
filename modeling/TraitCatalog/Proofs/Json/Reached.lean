import TraitCatalog.Proofs.Json.Spelled

namespace TraitCatalog
namespace Json

theorem Blank.concat (h : Blank b) (hc : isSpace c = true) : Blank (b ++ [c]) :=
  forall_mem_concat.mpr ⟨h, mem_spaces_iff.mpr hc⟩

theorem Awaits.eq_nil (h : Awaits [] u) : u = [] := by
  cases h
  rfl

-- The stack is never too high.
theorem Awaits.exists_room (h : Awaits st u) : ∃ n, st.length + n = Limit.mostContainers := by
  cases h
  case start => exact ⟨_, Nat.zero_add _⟩
  case item n _ _ _ hn _ => exact ⟨n, by rw [← hn, List.length_cons]; omega⟩
  case member n _ _ _ _ hn _ _ _ => exact ⟨n, by rw [← hn, List.length_cons]; omega⟩

theorem Awaits.exists_more_room (h : Awaits st u) (room : st.length < Limit.mostContainers) :
    ∃ n, st.length + (n + 1) = Limit.mostContainers := by
  obtain ⟨n, hn⟩ := h.exists_room
  cases n
  case zero   => exact absurd hn (Nat.ne_of_lt room)
  case succ n => exact ⟨n, hn⟩

-- A text in which a key is awaited behind the fields of an object.
inductive AwaitsKey : Keyed Json → List Frame → Text → Prop
  | behind (front : List Member) : Awaits st u → Blank b → st.length + (n + 1) = Limit.mostContainers →
    (∀ m ∈ front, SpellsText m.key.word m.key.value) →
    (∀ m ∈ front, Spells allWords n m.item.word m.item.value) →
    AwaitsKey (Keyed.ofPairs (front.map Member.pair)) st (u ++ b ++ openObject front)

theorem AwaitsKey.member (h : AwaitsKey fields st u) (key : Padded Text)
    (hk : SpellsText key.word key.value) :
    Awaits (.member fields key.value :: st) (u ++ key.text ++ [.char ':']) := by
  cases h with | behind front awaits blank hn keys items =>
    exact .member front key awaits blank hn keys items hk

-- An array in which no item has come yet.
theorem Awaits.begun_array (h : Awaits (.item [] :: st) u) : ∃ v b n, u = v ++ b ++ [.char '['] ∧
    Awaits st v ∧ Blank b ∧ st.length + (n + 1) = Limit.mostContainers := by
  generalize hf : Frame.item [] :: st = frames at h
  cases h
  case start => cases hf
  case item front awaits hb hn _ =>
    obtain ⟨item, rfl⟩ := List.cons_eq_cons.mp hf
    have none : front = [] := by simpa using (Frame.item.inj item).symm
    subst none
    exact ⟨_, _, _, rfl, awaits, hb, hn⟩
  case member => cases hf

-- An object in which no member has come yet.
theorem AwaitsKey.begun_object (h : AwaitsKey [] st u) : ∃ v b n, u = v ++ b ++ [.char '\x7b'] ∧
    Awaits st v ∧ Blank b ∧ st.length + (n + 1) = Limit.mostContainers := by
  generalize hf : ([] : Keyed Json) = fields at h
  cases h with | behind front awaits hb hn _ _ =>
    obtain rfl | ⟨front, last, rfl⟩ := List.eq_nil_or_concat' front
    case inr =>
      rw [List.map_append, List.map_singleton, Keyed.ofPairs_concat] at hf
      exact absurd hf.symm (Keyed.put_ne_nil _ _ _)
    exact ⟨_, _, _, rfl, awaits, hb, hn⟩

namespace Quoted

-- Only a quote closes a string.
theorem eq_quote_of_step {q : Quoted} (h : q.step c = .ok (.inr t)) : c = .char '"' := by
  cases q <;> simp only [step] at h
  case plain =>
    split at h
    case isTrue quote => exact Code.is_iff.mp quote
    case isFalse =>
      split at h
      case isTrue  => cases h
      case isFalse => split at h <;> cases h
  case escape =>
    split at h
    case isTrue  => cases h
    case isFalse => split at h <;> cases h
  case hex => split at h <;> cases h

theorem Passes.concat (h : Passes q w q₁) (one : q₁.step c = .ok (.inl q₂)) : Passes q (w ++ [c]) q₂ :=
  h.append (.cons one .nil)

theorem spellsText_of_step (h : Passes (plain [] none) w q) (one : q.step c = .ok (.inr t)) :
    SpellsText (.char '"' :: w ++ [c]) t := by
  obtain rfl := eq_quote_of_step one
  exact .quoted (takes_iff_quotes.mp ⟨q, h, one⟩)

end Quoted

namespace State

inductive Reached : State → Text → Prop
  | opening    : Awaits st u → Blank b → Reached (opening st) (u ++ b)
  | openingKey : AwaitsKey fields st u → Blank b → Reached (openingKey fields st) (u ++ b)
  | keyText    : AwaitsKey fields st u → Blank b → Quoted.Passes (.plain [] none) w q →
    Reached ⟨.keyText fields q, st⟩ (u ++ b ++ .char '"' :: w)
  | colon (key : Padded Text) : AwaitsKey fields st u → SpellsText key.word key.value →
    Reached ⟨.colon fields key.value, st⟩ (u ++ key.text)
  | text       : Awaits st u → Blank b → Quoted.Passes (.plain [] none) w q →
    Reached ⟨.text q, st⟩ (u ++ b ++ .char '"' :: w)
  | number     : Awaits st u → Blank b → Number.Begun w n → Reached ⟨.number n, st⟩ (u ++ b ++ w)
  | word       : Awaits st u → Blank b → (w ++ rest, v) ∈ allWords → rest ≠ [] →
    Reached ⟨.word rest v, st⟩ (u ++ b ++ w)
  | complete   : Awaits st u → Blank b → st.length + n = Limit.mostContainers → Spells allWords n w v →
    Blank a → Reached (complete v st) (u ++ b ++ w ++ a)

-- The word of the value has just ended.
theorem reached_complete (awaits : Awaits st u) (hb : Blank b) (hn : st.length + n = Limit.mostContainers)
    (h : Spells allWords n w v) : Reached (complete v st) (u ++ b ++ w) := by
  have reached := Reached.complete awaits hb hn h blank_nil
  rwa [List.append_nil] at reached

-- A container has just begun, or one of its parts is just over.
theorem reached_opening (h : Awaits st u) : Reached (opening st) u := by
  have reached := Reached.opening h blank_nil
  rwa [List.append_nil] at reached

theorem reached_openingKey (h : AwaitsKey fields st u) : Reached (openingKey fields st) u := by
  have reached := Reached.openingKey h blank_nil
  rwa [List.append_nil] at reached

theorem openContainer_eq_ok_iff : openContainer m st = .ok s ↔
    st.length < Limit.mostContainers ∧ s = ⟨m, st⟩ := by
  unfold openContainer
  split
  case isTrue h  => simp [h, eq_comm]
  case isFalse h => simp [h]

theorem openContainer_eq_error_iff : openContainer m st = .error e ↔
    Limit.mostContainers ≤ st.length ∧ e = .beyond .depth := by
  unfold openContainer
  split
  case isTrue h  => simp [Nat.not_le.mpr h]
  case isFalse h => simp [Nat.le_of_not_lt h, eq_comm]

-- How the first code point of a value begins it.
theorem openValue_cases (st : List Frame) (c : Code) :
    (c = .char '"' ∧ openValue st c = .ok ⟨.text (.plain [] none), st⟩) ∨
    (c = .char '[' ∧ openValue st c = openContainer .arrayStart st) ∨
    (c = .char '\x7b' ∧ openValue st c = openContainer .objectStart st) ∨
    (∃ rest v, (c :: rest, v) ∈ allWords ∧ rest ≠ [] ∧ openValue st c = .ok ⟨.word rest v, st⟩) ∨
    (∃ n, Number.start? c = some n ∧ openValue st c = .ok ⟨.number n, st⟩) ∨
    openValue st c = .error .malformed := by
  have word {d : Char} {rest v} (h : c.is d = true) (mem : (.char d :: rest, v) ∈ allWords)
      (ne : rest ≠ []) : ∃ rest' v', (c :: rest', v') ∈ allWords ∧ rest' ≠ [] ∧
        (.ok ⟨.word rest v, st⟩ : Except ReadError State) = .ok ⟨.word rest' v', st⟩ :=
    ⟨rest, v, Code.is_iff.mp h ▸ mem, ne, rfl⟩
  unfold openValue
  by_cases quote : c.is '"' = true
  case pos => exact .inl ⟨Code.is_iff.mp quote, if_pos quote⟩
  by_cases bracket : c.is '[' = true
  case pos => exact .inr (.inl ⟨Code.is_iff.mp bracket, by rw [if_neg quote, if_pos bracket]⟩)
  by_cases brace : c.is '\x7b' = true
  case pos =>
    refine .inr (.inr (.inl ⟨Code.is_iff.mp brace, ?_⟩))
    rw [if_neg quote, if_neg bracket, if_pos brace]
  rw [if_neg quote, if_neg bracket, if_neg brace]
  refine .inr (.inr (.inr ?_))
  repeat' split
  case isTrue null => exact .inl (word null (.head _) nofun)
  case isFalse.isTrue yes => exact .inl (word yes (.tail _ (.head _)) nofun)
  case isFalse.isFalse.isTrue no => exact .inl (word no (.tail _ (.tail _ (.head _))) nofun)
  case isFalse.isFalse.isFalse.isTrue nan =>
    exact .inl (word nan (.tail _ (.tail _ (.tail _ (.head _)))) nofun)
  case isFalse.isFalse.isFalse.isFalse.isTrue infinity =>
    exact .inl (word infinity (.tail _ (.tail _ (.tail _ (.tail _ (.head _))))) nofun)
  case h_1 n start => exact .inr (.inl ⟨n, start, rfl⟩)
  case h_2 => exact .inr (.inr rfl)

theorem reached_openValue (awaits : Awaits st u) (hb : Blank b) (h : openValue st c = .ok s) :
    Reached s (u ++ b ++ [c]) := by
  obtain ⟨rfl, first⟩ | ⟨rfl, first⟩ | ⟨rfl, first⟩ | ⟨rest, v, mem, ne, first⟩ | ⟨n, start, first⟩ |
    first := openValue_cases st c
  all_goals rw [first] at h
  · cases h
    exact .text awaits hb .nil
  · obtain ⟨room, rfl⟩ := openContainer_eq_ok_iff.mp h
    obtain ⟨n, hn⟩ := awaits.exists_more_room room
    exact reached_opening (.item [] awaits hb hn nofun)
  · obtain ⟨room, rfl⟩ := openContainer_eq_ok_iff.mp h
    obtain ⟨n, hn⟩ := awaits.exists_more_room room
    exact reached_openingKey (.behind [] awaits hb hn nofun nofun)
  · cases h
    exact .word awaits hb mem ne
  · cases h
    exact .number awaits hb (Number.begun_start start)
  · cases h

theorem openArray_concat (front : List (Padded Json)) (p : Padded Json) :
    openArray (front ++ [p]) = openArray front ++ p.text ++ [.char ','] := by
  simp [openArray]

theorem openObject_concat (front : List Member) (m : Member) :
    openObject (front ++ [m]) = openObject front ++ m.text ++ [.char ','] := by
  simp [openObject]

theorem spells_array (h : ∀ p ∈ front, Spells allWords n p.word p.value)
    (last : Padded Json) (hl : Spells allWords n last.word last.value) :
    Spells allWords (n + 1) (openArray front ++ last.text ++ [.char ']'])
      (.array (last.value :: (front.map Padded.value).reverse).reverse) := by
  have all : ∀ p ∈ front ++ [last], Spells allWords n p.word p.value :=
    forall_mem_concat.mpr ⟨h, hl⟩
  have spells := Spells.array (front ++ [last]) (by simp) all
  rw [Text.join_concat, List.map_append] at spells
  rw [List.reverse_cons, List.reverse_reverse, openArray, List.cons_append]
  exact spells

theorem spells_object (keys : ∀ m ∈ front, SpellsText m.key.word m.key.value)
    (items : ∀ m ∈ front, Spells allWords n m.item.word m.item.value) (last : Member)
    (hk : SpellsText last.key.word last.key.value) (hl : Spells allWords n last.item.word last.item.value) :
    Spells allWords (n + 1) (openObject front ++ last.text ++ [.char '\x7d'])
      (.object ((Keyed.ofPairs (front.map Member.pair)).put last.key.value last.item.value)) := by
  have allKeys : ∀ m ∈ front ++ [last], SpellsText m.key.word m.key.value :=
    forall_mem_concat.mpr ⟨keys, hk⟩
  have allItems : ∀ m ∈ front ++ [last], Spells allWords n m.item.word m.item.value :=
    forall_mem_concat.mpr ⟨items, hl⟩
  have spells := Spells.object (front ++ [last]) (by simp) allKeys allItems
  rw [Text.join_concat, List.map_append, List.map_singleton, Keyed.ofPairs_concat] at spells
  rw [openObject, List.cons_append]
  exact spells

-- What may follow a value, by the container around it.
theorem between_complete_cases (h : (complete v st).between c = .ok s) :
    (isSpace c = true ∧ s = complete v st) ∨
    (∃ before outer, st = .item before :: outer ∧
      ((c = .char ',' ∧ s = opening (.item (v :: before) :: outer)) ∨
        (c = .char ']' ∧ s = complete (.array (v :: before).reverse) outer))) ∨
    (∃ before key outer, st = .member before key :: outer ∧
      ((c = .char ',' ∧ s = openingKey (before.put key v) outer) ∨
        (c = .char '\x7d' ∧ s = complete (.object (before.put key v)) outer))) := by
  unfold between at h
  split at h
  case isTrue space =>
    cases h
    exact .inl ⟨space, rfl⟩
  case isFalse =>
    cases st
    case nil => cases h
    case cons f outer =>
      cases f
      case item before =>
        refine .inr (.inl ⟨before, outer, rfl, ?_⟩)
        simp only [complete] at h
        split at h
        case isTrue comma =>
          cases h
          exact .inl ⟨Code.is_iff.mp comma, rfl⟩
        case isFalse =>
          split at h
          case isTrue bracket =>
            cases h
            exact .inr ⟨Code.is_iff.mp bracket, rfl⟩
          case isFalse => cases h
      case member before key =>
        refine .inr (.inr ⟨before, key, outer, rfl, ?_⟩)
        simp only [complete] at h
        split at h
        case isTrue comma =>
          cases h
          exact .inl ⟨Code.is_iff.mp comma, (openingKey_put before key v outer).symm⟩
        case isFalse =>
          split at h
          case isTrue brace =>
            cases h
            exact .inr ⟨Code.is_iff.mp brace, rfl⟩
          case isFalse => cases h

theorem reached_between_item (hn : st.length + 1 + n = Limit.mostContainers)
    (awaits : Awaits (.item before :: st) u) (p : Padded Json) (spells : Spells allWords n p.word p.value) :
    Reached (opening (.item (p.value :: before) :: st)) (u ++ p.text ++ [.char ',']) ∧
    Reached (complete (.array (p.value :: before).reverse) st) (u ++ p.text ++ [.char ']']) := by
  cases awaits with | @item st u b m front awaits blank room items =>
    obtain rfl : m = n := by omega
    constructor
    case left =>
      have all : ∀ q ∈ front ++ [p], Spells allWords m q.word q.value :=
        forall_mem_concat.mpr ⟨items, spells⟩
      have reached := reached_opening (Awaits.item _ awaits blank room all)
      rw [List.map_append, List.map_singleton, List.reverse_concat, openArray_concat] at reached
      simpa only [List.append_assoc] using reached
    case right =>
      have reached := reached_complete awaits blank room (spells_array items p spells)
      simpa only [List.append_assoc] using reached

theorem reached_between_member (hn : st.length + 1 + n = Limit.mostContainers)
    (awaits : Awaits (.member before key :: st) u) (p : Padded Json)
    (spells : Spells allWords n p.word p.value) :
    Reached (openingKey (before.put key p.value) st) (u ++ p.text ++ [.char ',']) ∧
    Reached (complete (.object (before.put key p.value)) st) (u ++ p.text ++ [.char '\x7d']) := by
  cases awaits with | @member st u b m front key awaits blank room keys items hk =>
    obtain rfl : m = n := by omega
    let last : Member := ⟨key, p⟩
    constructor
    case left =>
      have allKeys : ∀ m ∈ front ++ [last], SpellsText m.key.word m.key.value :=
        forall_mem_concat.mpr ⟨keys, hk⟩
      have allItems : ∀ q ∈ front ++ [last], Spells allWords m q.item.word q.item.value :=
        forall_mem_concat.mpr ⟨items, spells⟩
      have reached := reached_openingKey (.behind _ awaits blank room allKeys allItems)
      rw [List.map_append, List.map_singleton, Keyed.ofPairs_concat, openObject_concat] at reached
      simpa only [last, Member.pair, Member.text, List.append_assoc, List.cons_append, List.nil_append]
        using reached
    case right =>
      have reached := reached_complete awaits blank room (spells_object keys items last hk spells)
      simpa only [last, Member.text, List.append_assoc, List.cons_append, List.nil_append] using reached

theorem reached_between (awaits : Awaits st u) (hb : Blank b) (hn : st.length + n = Limit.mostContainers)
    (spells : Spells allWords n w v) (ha : Blank a) (h : (complete v st).between c = .ok s) :
    Reached s (u ++ b ++ w ++ a ++ [c]) := by
  let p : Padded Json := ⟨b, w, v, a, hb, ha⟩
  have text : u ++ b ++ w ++ a ++ [c] = u ++ p.text ++ [c] := by simp only [p, Padded.text, List.append_assoc]
  obtain ⟨space, rfl⟩ | ⟨before, outer, rfl, next⟩ | ⟨before, key, outer, rfl, next⟩ :=
    between_complete_cases h
  · rw [List.append_assoc]
    exact .complete awaits hb hn spells (ha.concat space)
  · rw [text]
    obtain ⟨comma, bracket⟩ := reached_between_item hn awaits p spells
    obtain ⟨rfl, rfl⟩ | ⟨rfl, rfl⟩ := next
    · exact comma
    · exact bracket
  · rw [text]
    obtain ⟨comma, brace⟩ := reached_between_member hn awaits p spells
    obtain ⟨rfl, rfl⟩ | ⟨rfl, rfl⟩ := next
    · exact comma
    · exact brace

-- An array may end where its first item is awaited.
theorem step_opening_cases (hs : isSpace c = false) (st : List Frame) :
    (opening st).step c = openValue st c ∨ ∃ outer, st = .item [] :: outer ∧ c = .char ']' ∧
      (opening st).step c = .ok (complete (.array []) outer) := by
  by_cases bracket : c = .char ']'
  case neg => exact .inl (step_opening hs bracket st)
  case pos =>
    subst bracket
    obtain h | ⟨outer, same, h⟩ := opening_cases st
    · exact .inl (h ▸ rfl)
    · exact .inr ⟨outer, same, rfl, h ▸ rfl⟩

theorem step_openingKey_cases (h : (openingKey fields st).step c = .ok s) :
    (isSpace c = true ∧ s = openingKey fields st) ∨
    (fields = [] ∧ c = .char '\x7d' ∧ s = complete (.object []) st) ∨
    (c = .char '"' ∧ s = ⟨.keyText fields (.plain [] none), st⟩) := by
  by_cases space : isSpace c = true
  case pos =>
    cases (skips_openingKey fields st c space).symm.trans h
    exact .inl ⟨space, rfl⟩
  case neg =>
    cases fields
    case nil =>
      simp only [openingKey, step, if_neg space] at h
      split at h
      case isTrue brace =>
        cases h
        exact .inr (.inl ⟨rfl, Code.is_iff.mp brace, rfl⟩)
      case isFalse =>
        split at h
        case isTrue quote =>
          cases h
          exact .inr (.inr ⟨Code.is_iff.mp quote, rfl⟩)
        case isFalse => cases h
    case cons =>
      simp only [openingKey, step, if_neg space] at h
      split at h
      case isTrue quote =>
        cases h
        exact .inr (.inr ⟨Code.is_iff.mp quote, rfl⟩)
      case isFalse => cases h

theorem step_keyText_cases (h : State.step ⟨.keyText fields q, st⟩ c = .ok s) :
    (∃ q', q.step c = .ok (.inl q') ∧ s = ⟨.keyText fields q', st⟩) ∨
    (∃ key, q.step c = .ok (.inr key) ∧ s = ⟨.colon fields key, st⟩) := by
  obtain ⟨next, one, h⟩ := Except.bind_eq_ok_iff.mp h
  cases next
  case inl q' =>
    cases h
    exact .inl ⟨q', one, rfl⟩
  case inr key =>
    cases h
    exact .inr ⟨key, one, rfl⟩

theorem step_text_cases (h : State.step ⟨.text q, st⟩ c = .ok s) :
    (∃ q', q.step c = .ok (.inl q') ∧ s = ⟨.text q', st⟩) ∨
    (∃ t, q.step c = .ok (.inr t) ∧ s = complete (.string t) st) := by
  obtain ⟨next, one, h⟩ := Except.bind_eq_ok_iff.mp h
  cases next
  case inl q' =>
    cases h
    exact .inl ⟨q', one, rfl⟩
  case inr t =>
    cases h
    exact .inr ⟨t, one, rfl⟩

theorem step_colon_cases (h : State.step ⟨.colon fields key, st⟩ c = .ok s) :
    (isSpace c = true ∧ s = ⟨.colon fields key, st⟩) ∨
    (c = .char ':' ∧ s = opening (.member fields key :: st)) := by
  by_cases space : isSpace c = true
  case pos =>
    cases (skips_colon fields key st c space).symm.trans h
    exact .inl ⟨space, rfl⟩
  case neg =>
    simp only [step, if_neg space] at h
    split at h
    case isTrue colon =>
      cases h
      exact .inr ⟨Code.is_iff.mp colon, rfl⟩
    case isFalse => cases h

-- A minus sign may also begin the name of a number.
theorem step_number_cases (h : State.step ⟨.number n, st⟩ c = r) :
    (∃ n', n.extend? c = some n' ∧ r = .ok ⟨.number n', st⟩) ∨
    (n = .sign ∧ c = .char 'I' ∧ r = .ok ⟨.word "nfinity" (.float (.infinite true)), st⟩) ∨
    (n.extend? c = none ∧ r = do (complete (← n.value) st).between c) := by
  subst h
  simp only [step]
  split
  case h_1 n' more => exact .inl ⟨n', more, rfl⟩
  case h_2 stops =>
    split
    case isTrue name => exact .inr (.inl ⟨rfl, Code.is_iff.mp name, rfl⟩)
    case isFalse => exact .inr (.inr ⟨stops, rfl⟩)
  case h_3 stops => exact .inr (.inr ⟨stops, rfl⟩)

theorem step_word_cases (h : State.step ⟨.word (d :: rest) v, st⟩ c = .ok s) :
    c = d ∧ ((rest = [] ∧ s = complete v st) ∨ (rest ≠ [] ∧ s = ⟨.word rest v, st⟩)) := by
  simp only [step] at h
  split at h
  case isTrue => cases h
  case isFalse same =>
    refine ⟨Decidable.not_not.mp same, ?_⟩
    cases rest
    case nil =>
      cases h
      exact .inl ⟨rfl, rfl⟩
    case cons =>
      cases h
      exact .inr ⟨List.cons_ne_nil _ _, rfl⟩

theorem Reached.step_opening (awaits : Awaits st u) (hb : Blank b) (hs : (State.opening st).step c = .ok s) :
    Reached s (u ++ b ++ [c]) := by
  by_cases space : isSpace c = true
  case pos =>
    cases (skips_opening st c space).symm.trans hs
    rw [List.append_assoc]
    exact .opening awaits (hb.concat space)
  case neg =>
    obtain value | ⟨outer, rfl, rfl, closed⟩ := step_opening_cases ((Bool.not_eq_true _).mp space) st
    · exact reached_openValue awaits hb (value.symm.trans hs)
    · cases closed.symm.trans hs
      obtain ⟨u, blank, n, rfl, outside, hbl, room⟩ := awaits.begun_array
      have reached := reached_complete outside hbl room (Spells.emptyArray hb)
      simpa only [List.append_assoc, List.cons_append, List.nil_append] using reached

theorem Reached.step_openingKey (awaits : AwaitsKey fields st u) (hb : Blank b)
    (hs : (State.openingKey fields st).step c = .ok s) : Reached s (u ++ b ++ [c]) := by
  obtain ⟨space, rfl⟩ | ⟨rfl, rfl, rfl⟩ | ⟨rfl, rfl⟩ := step_openingKey_cases hs
  · rw [List.append_assoc]
    exact .openingKey awaits (hb.concat space)
  · obtain ⟨u, blank, n, rfl, outside, hbl, room⟩ := awaits.begun_object
    have reached := reached_complete outside hbl room (Spells.emptyObject hb)
    simpa only [List.append_assoc, List.cons_append, List.nil_append] using reached
  · exact .keyText awaits hb .nil

theorem minus_infinity_mem :
    (([.char '-', .char 'I'] : Text) ++ ("nfinity" : Text), .float (.infinite true)) ∈ allWords :=
  .tail _ (.tail _ (.tail _ (.tail _ (.tail _ (.head _)))))

theorem Reached.step_number (awaits : Awaits st u) (hb : Blank b) (begun : Number.Begun w n)
    (hs : State.step ⟨.number n, st⟩ c = .ok s) : Reached s (u ++ b ++ w ++ [c]) := by
  obtain ⟨n', more, next⟩ | ⟨rfl, rfl, next⟩ | ⟨-, next⟩ := step_number_cases hs
  · cases next
    rw [List.append_assoc]
    exact .number awaits hb (begun.extend more)
  · cases next
    rw [begun.eq_of_sign, List.append_assoc]
    exact .word awaits hb minus_infinity_mem nofun
  · obtain ⟨v, value, next⟩ := Except.bind_eq_ok_iff.mp next.symm
    obtain ⟨m, hm⟩ := awaits.exists_room
    have reached := reached_between awaits hb hm (.number (begun.numeral value)) blank_nil next
    rwa [List.append_nil] at reached

theorem Reached.step (h : Reached s t) (hs : s.step c = .ok s') : Reached s' (t ++ [c]) := by
  cases h
  case opening awaits hb => exact step_opening awaits hb hs
  case openingKey awaits hb => exact step_openingKey awaits hb hs
  case keyText fields st u b w q awaits hb passes =>
    rw [List.append_assoc, List.cons_append]
    obtain ⟨q', one, rfl⟩ | ⟨key, one, rfl⟩ := step_keyText_cases hs
    · exact .keyText awaits hb (passes.concat one)
    · let padded : Padded Text := ⟨b, .char '"' :: w ++ [c], key, [], hb, blank_nil⟩
      have reached := Reached.colon padded awaits (Quoted.spellsText_of_step passes one)
      simpa only [padded, Padded.text, List.append_nil, List.append_assoc, List.cons_append] using reached
  case colon fields st u key awaits hk =>
    obtain ⟨space, rfl⟩ | ⟨rfl, rfl⟩ := step_colon_cases hs
    · let padded : Padded Text :=
        { key with after := key.after ++ [c], blank_after := key.blank_after.concat space }
      have reached := Reached.colon padded awaits hk
      simpa only [padded, Padded.text, List.append_assoc] using reached
    · exact reached_opening (awaits.member key hk)
  case text st u b w q awaits hb passes =>
    rw [List.append_assoc, List.cons_append]
    obtain ⟨q', one, rfl⟩ | ⟨t, one, rfl⟩ := step_text_cases hs
    · exact .text awaits hb (passes.concat one)
    · obtain ⟨m, hm⟩ := awaits.exists_room
      exact reached_complete awaits hb hm (.string (Quoted.spellsText_of_step passes one))
  case number awaits hb begun => exact step_number awaits hb begun hs
  case word st u b w rest v awaits hb mem ne =>
    obtain ⟨d, rest, rfl⟩ := List.exists_cons_of_ne_nil ne
    rw [List.append_assoc]
    rw [← List.singleton_append, ← List.append_assoc] at mem
    obtain ⟨rfl, ⟨rfl, rfl⟩ | ⟨ne, rfl⟩⟩ := step_word_cases hs
    · rw [List.append_nil] at mem
      obtain ⟨m, hm⟩ := awaits.exists_room
      exact reached_complete awaits hb hm (.word mem)
    · exact .word awaits hb mem ne
  case complete st u b n w v a awaits hb hn spells ha =>
    rw [step_complete] at hs
    exact reached_between awaits hb hn spells ha hs

end State
end Json
end TraitCatalog

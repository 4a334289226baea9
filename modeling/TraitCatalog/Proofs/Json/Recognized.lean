import TraitCatalog.Proofs.Json.Reached

namespace TraitCatalog
namespace Json
namespace State

theorem Reached.reads (h : Reached s t) (run : Reads s u s') : Reached s' (t ++ u) := by
  induction u generalizing s t
  case nil =>
    cases run
    rwa [List.append_nil]
  case cons c u ih =>
    unfold Reads at run
    rw [List.foldlM_cons] at run
    obtain ⟨s₁, one, others⟩ := Except.bind_eq_ok_iff.mp run
    have reached := ih (h.step one) others
    rwa [List.append_assoc] at reached

theorem reached_of_reads (h : Reads initial t s) : Reached s t :=
  (Reached.opening .start blank_nil).reads h

theorem reads_awaits (h : Awaits st u) : Reads initial u (opening st) := by
  induction h
  case start => exact .nil
  case item st u b n front _ hb hn items ih =>
    have array : Reads (opening st) (openArray front)
        (opening (.item (front.map Padded.value).reverse :: st)) :=
      reads_openArray (by omega) fun p hp before => gives_of_spells (items p hp) (by simp; omega)
    exact (ih.append ((skips_opening st).reads hb)).append array
  case member st u b n front key _ hb hn keys items hk ih =>
    have object : Reads (opening st) (openObject front)
        (openingKey (Keyed.ofPairs (front.map Member.pair)) st) :=
      reads_openObject (by omega) keys fun m hm before key => gives_of_spells (items m hm) (by simp; omega)
    have all := ((ih.append ((skips_opening st).reads hb)).append object).append
      (reads_key hk (Keyed.ofPairs (front.map Member.pair)) st)
    rwa [← List.append_assoc] at all

-- No text ends where something is awaited.
theorem finish_opening (st : List Frame) : (opening st).finish = .error .malformed := by
  obtain value | ⟨outer, -, start⟩ := opening_cases st
  · exact value ▸ rfl
  · exact start ▸ rfl

theorem finish_openingKey (fields : Keyed Json) (st : List Frame) :
    (openingKey fields st).finish = .error .malformed := by
  cases fields <;> rfl

theorem finish_complete_cons (v : Json) (f : Frame) (st : List Frame) :
    (complete v (f :: st)).finish = .error .malformed := by
  cases f <;> rfl

theorem finish_eq_ok (h : Reached s t) (hv : s.finish = .ok v) :
    ∃ p : Padded Json, p.text = t ∧ p.value = v ∧ Spells allWords Limit.mostContainers p.word v := by
  cases h
  case opening st _ _ _ _ => cases (finish_opening st).symm.trans hv
  case openingKey fields st _ _ _ _ => cases (finish_openingKey fields st).symm.trans hv
  case number st u b w n awaits hb begun =>
    cases st
    case nil =>
      obtain rfl := awaits.eq_nil
      exact ⟨⟨b, w, v, [], hb, blank_nil⟩, List.append_nil _, rfl, .number (begun.numeral hv)⟩
    case cons =>
      obtain ⟨_, -, error⟩ := Except.bind_eq_ok_iff.mp hv
      cases error
  case complete st u b n w v' a awaits hb hn spells ha =>
    cases st
    case nil =>
      obtain rfl := awaits.eq_nil
      cases hv
      rw [List.length_nil, Nat.zero_add] at hn
      subst hn
      exact ⟨⟨b, w, v, a, hb, ha⟩, rfl, rfl, spells⟩
    case cons => cases (finish_complete_cons _ _ _).symm.trans hv
  all_goals cases hv

end State

-- The reader takes a text for a value just if the grammar has the text for that value, blanks aside.
theorem read_eq_ok_iff : Json.read t = .ok v ↔
    ∃ p : Padded Json, p.text = t ∧ p.value = v ∧ Spells allWords Limit.mostContainers p.word v := by
  constructor
  case mp =>
    intro h
    obtain ⟨s, run, finish⟩ := Except.bind_eq_ok_iff.mp h
    exact State.finish_eq_ok (State.reached_of_reads run) finish
  case mpr =>
    rintro ⟨p, rfl, rfl, spells⟩
    have word : State.Gives [] p.word p.value := State.gives_of_spells spells (by simp)
    obtain ⟨s, run, ends⟩ := word.padded
    rw [State.read_of_reads run]
    cases ends
    case complete     => rfl
    case number value => exact value

theorem Quoted.step_ne_beyond (q : Quoted) (c : Code) (l : Limit) : q.step c ≠ .error (.beyond l) := by
  intro h
  cases q <;> simp only [step] at h
  all_goals
    repeat' split at h
    all_goals cases h

namespace State

theorem between_ne_beyond (s : State) (c : Code) (l : Limit) : s.between c ≠ .error (.beyond l) := by
  intro h
  unfold between at h
  repeat' split at h
  all_goals cases h

theorem openingKey_step_ne_beyond (fields : Keyed Json) (st : List Frame) (c : Code) (l : Limit) :
    (openingKey fields st).step c ≠ .error (.beyond l) := by
  intro h
  cases fields <;> simp only [openingKey, step] at h
  all_goals
    repeat' split at h
    all_goals cases h

theorem Reached.exceeds_of_opening (awaits : Awaits st u) (hb : Blank b)
    (hs : (State.opening st).step c = .error (.beyond l)) (rest : Text) :
    Exceeds l (u ++ b ++ c :: rest) := by
  by_cases space : isSpace c = true
  case pos => cases (skips_opening st c space).symm.trans hs
  case neg =>
    obtain value | ⟨outer, -, -, closed⟩ := step_opening_cases ((Bool.not_eq_true _).mp space) st
    case inr => cases closed.symm.trans hs
    rw [value] at hs
    obtain ⟨n, hn⟩ := awaits.exists_room
    obtain ⟨-, first⟩ | ⟨bracket, first⟩ | ⟨brace, first⟩ | ⟨_, _, -, -, first⟩ | ⟨_, -, first⟩ | first :=
      openValue_cases st c
    all_goals rw [first] at hs
    · cases hs
    · obtain ⟨deep, error⟩ := openContainer_eq_error_iff.mp hs
      cases error
      exact .depth awaits hb (by omega) (.inl bracket)
    · obtain ⟨deep, error⟩ := openContainer_eq_error_iff.mp hs
      cases error
      exact .depth awaits hb (by omega) (.inr brace)
    all_goals cases hs

theorem Reached.exceeds_of_number (awaits : Awaits st u) (hb : Blank b) (begun : Number.Begun w n)
    (hv : n.value = .error (.beyond l)) (stops : n.Stops rest) : Exceeds l (u ++ b ++ w ++ rest) := by
  obtain ⟨rfl, s, d, tail, rfl, whole, many, ends⟩ := begun.endsWhole hv stops
  have exceeds := Exceeds.digits (s := s) awaits hb whole many ends
  simpa only [List.append_assoc] using exceeds

-- Only a container or a number goes beyond a limit.
theorem Reached.exceeds_of_step (h : Reached s t) (hs : s.step c = .error (.beyond l)) (rest : Text) :
    Exceeds l (t ++ c :: rest) := by
  cases h
  case opening awaits hb => exact exceeds_of_opening awaits hb hs rest
  case openingKey fields st _ _ _ _ => exact absurd hs (openingKey_step_ne_beyond fields st c l)
  case number st u b w n awaits hb begun =>
    obtain ⟨_, -, next⟩ | ⟨-, -, next⟩ | ⟨stops, next⟩ := step_number_cases hs
    · cases next
    · cases next
    · cases value : n.value
      case error e =>
        rw [value] at next
        cases next
        exact exceeds_of_number awaits hb begun value (by rintro _ _ ⟨⟩; exact stops)
      case ok v =>
        rw [value] at next
        exact absurd next.symm (between_ne_beyond _ c l)
  case complete => exact absurd ((step_complete _ _ c).symm.trans hs) (between_ne_beyond _ c l)
  case keyText q _ _ _ =>
    obtain error | ⟨next, -, error⟩ := Except.bind_eq_error_iff.mp hs
    · exact absurd error (Quoted.step_ne_beyond q c l)
    · cases next <;> cases error
  case text q _ _ _ =>
    obtain error | ⟨next, -, error⟩ := Except.bind_eq_error_iff.mp hs
    · exact absurd error (Quoted.step_ne_beyond q c l)
    · cases next <;> cases error
  case colon =>
    simp only [State.step] at hs
    repeat' split at hs
    all_goals cases hs
  case word rest v _ _ _ ne =>
    obtain ⟨d, rest, rfl⟩ := List.exists_cons_of_ne_nil ne
    simp only [State.step] at hs
    repeat' split at hs
    all_goals cases hs

theorem Reached.exceeds_of_finish (h : Reached s t) (hs : s.finish = .error (.beyond l)) : Exceeds l t := by
  cases h
  case opening st _ _ _ _ => cases (finish_opening st).symm.trans hs
  case openingKey fields st _ _ _ _ => cases (finish_openingKey fields st).symm.trans hs
  case number st u b w n awaits hb begun =>
    have value : n.value = .error (.beyond l) := by
      cases st
      case nil => exact hs
      case cons =>
        obtain error | ⟨v, -, error⟩ := Except.bind_eq_error_iff.mp hs
        · exact error
        · cases error
    have exceeds : Exceeds l (u ++ b ++ w ++ []) := exceeds_of_number awaits hb begun value nofun
    rwa [List.append_nil] at exceeds
  case complete st _ _ _ _ _ _ _ _ _ _ _ =>
    cases st
    case nil  => cases hs
    case cons => cases (finish_complete_cons _ _ _).symm.trans hs
  all_goals cases hs

theorem read_of_exceeds_depth (awaits : Awaits st u) (hb : Blank b) (deep : st.length = Limit.mostContainers)
    (hc : c = .char '[' ∨ c = .char '\x7b') : Json.read (u ++ b ++ c :: rest) = .error (.beyond .depth) := by
  have first := (reads_awaits awaits).append ((skips_opening st).reads hb)
  have full : ∀ m, openContainer m st = .error (.beyond .depth) := fun m =>
    openContainer_eq_error_iff.mpr ⟨Nat.le_of_eq deep.symm, rfl⟩
  have last : (opening st).step c = .error (.beyond .depth) := by
    obtain rfl | rfl := hc
    · rw [step_opening rfl (by decide)]
      exact full .arrayStart
    · rw [step_opening rfl (by decide)]
      exact full .objectStart
  have run := Except.foldlM_eq_error_iff.mpr ⟨u ++ b, c, rest, opening st, rfl, first, last⟩
  rw [Json.read, run]
  rfl

theorem read_of_exceeds_digits (awaits : Awaits st u) (hb : Blank b) (whole : Whole d)
    (many : Limit.mostDigits < d.length) (ends : EndsWhole rest) (s : Bool) :
    Json.read (u ++ b ++ (minus s ++ d ++ rest)) = .error (.beyond .digits) := by
  obtain ⟨tail, rest, n, rfl, begun, value, stops⟩ := Number.exists_begun_of_endsWhole ends whole many s
  have first := ((reads_awaits awaits).append ((skips_opening st).reads hb)).append (reads_begun begun st)
  have text : u ++ b ++ (minus s ++ d ++ (tail ++ rest)) = u ++ b ++ (minus s ++ d ++ tail) ++ rest := by
    simp only [List.append_assoc]
  rw [text]
  cases rest
  case nil =>
    rw [List.append_nil, read_of_reads first]
    cases st
    case nil  => exact value
    case cons => exact Except.bind_eq_error_iff.mpr (.inl value)
  case cons c rest =>
    have last : State.step ⟨.number n, st⟩ c = .error (.beyond .digits) := by
      have all : State.step ⟨.number n, st⟩ c = _ := rfl
      obtain ⟨n', more, -⟩ | ⟨rfl, -, -⟩ | ⟨-, next⟩ := step_number_cases all
      · cases more.symm.trans (stops c rest rfl)
      · cases value
      · rw [next, value]
        rfl
    have run := Except.foldlM_eq_error_iff.mpr ⟨_, c, rest, _, rfl, first, last⟩
    rw [Json.read, run]
    rfl

end State

-- The reader stops at a limit just on the texts that go beyond it.
theorem read_eq_beyond_iff : Json.read t = .error (.beyond l) ↔ Exceeds l t := by
  constructor
  case mp =>
    intro h
    obtain error | ⟨s, run, finish⟩ := Except.bind_eq_error_iff.mp h
    · obtain ⟨front, c, rest, s, rfl, run, last⟩ := Except.foldlM_eq_error_iff.mp error
      exact (State.reached_of_reads run).exceeds_of_step last rest
    · exact (State.reached_of_reads run).exceeds_of_finish finish
  case mpr =>
    rintro (⟨awaits, hb, whole, many, ends⟩ | ⟨awaits, hb, deep, hc⟩)
    · exact State.read_of_exceeds_digits awaits hb whole many ends _
    · exact State.read_of_exceeds_depth awaits hb deep hc

-- Without a blank at either end, a text with blanks around its word is that word alone.
theorem Padded.word_eq {p : Padded α} (first : p.text = c :: rest) (hc : c ∉ spaces)
    (last : p.text = front ++ [d]) (hd : d ∉ spaces) : p.word = p.text := by
  obtain ⟨before, word, value, after, blank_before, blank_after⟩ := p
  simp only [text] at first last ⊢
  have nothing_before : before = [] := by
    cases before
    case nil => rfl
    case cons b before =>
      obtain ⟨rfl, -⟩ := List.cons_eq_cons.mp first
      exact absurd (blank_before b (List.mem_cons_self ..)) hc
  have nothing_after : after = [] := by
    obtain rfl | ⟨after, b, rfl⟩ := List.eq_nil_or_concat' after
    case inl => rfl
    case inr =>
      rw [← List.append_assoc] at last
      obtain ⟨-, same⟩ := List.append_inj' last rfl
      cases same
      exact absurd (blank_after d (by simp)) hd
  rw [nothing_before, nothing_after, List.nil_append, List.append_nil]

theorem read_eq_ok_iff_of_ends (first : t = c :: rest) (hc : c ∉ spaces) (last : t = front ++ [d])
    (hd : d ∉ spaces) : Json.read t = .ok v ↔ Spells allWords Limit.mostContainers t v := by
  rw [read_eq_ok_iff]
  constructor
  case mp =>
    rintro ⟨p, rfl, rfl, spells⟩
    rwa [Padded.word_eq first hc last hd] at spells
  case mpr =>
    intro spells
    refine ⟨⟨[], t, v, [], blank_nil, blank_nil⟩, ?_, rfl, spells⟩
    rw [Padded.text, List.nil_append, List.append_nil]

-- With more words and more containers there is more that is spelled.
theorem Spells.mono (h : Spells words n w v) (sub : ∀ p ∈ words, p ∈ words') (hn : n ≤ m) :
    Spells words' m w v := by
  induction h generalizing m
  case word mem => exact .word (sub _ mem)
  case number h => exact .number h
  case string h => exact .string h
  all_goals
    obtain ⟨m, rfl⟩ : ∃ k, m = k + 1 := ⟨m - 1, by omega⟩
  case emptyArray hb => exact .emptyArray hb
  case array ne _ ih => exact .array _ ne fun p hp => ih p hp (by omega)
  case emptyObject hb => exact .emptyObject hb
  case object ne keys _ ih => exact .object _ ne keys fun p hp => ih p hp (by omega)

theorem Spells.of_standard (h : Spells standardWords n w v) (hn : n ≤ m) : Spells allWords m w v :=
  h.mono (fun _ => List.mem_append_left _) hn

theorem spells_string_iff : Spells allWords n w (.string t) ↔ SpellsText w t := by
  constructor
  case mp =>
    intro h
    cases h
    case word mem => simp [allWords, standardWords] at mem
    case number h => cases h
    case string h => exact h
  case mpr => exact .string

theorem Spells.exists_inner (h : Spells allWords n w (.array items)) : ∃ inner, w = "[" ++ inner ++ "]" := by
  cases h
  case word mem => simp [allWords, standardWords] at mem
  case number h => cases h
  case emptyArray b _ _ => exact ⟨b, rfl⟩
  case array items _ _ => exact ⟨Text.join [.char ','] (items.map Padded.text), rfl⟩

-- What begins like an array is one.
theorem Spells.exists_items (h : Spells allWords n w v) (hw : w = .char '[' :: rest) :
    ∃ items, v = .array items := by
  cases h
  case word mem =>
    subst hw
    simp [allWords, standardWords, Text.ofString] at mem
  case number h =>
    obtain ⟨_, begun, -⟩ := Number.exists_begun h
    obtain ⟨c, _, _, rfl, start, -⟩ := begun.takes
    obtain ⟨rfl, -⟩ := List.cons_eq_cons.mp hw
    cases start
  case string h =>
    cases h
    cases hw
  case emptyArray => exact ⟨_, rfl⟩
  case array => exact ⟨_, rfl⟩
  case emptyObject => cases hw
  case object => cases hw

end Json
end TraitCatalog

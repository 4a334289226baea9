import TraitCatalog.Proofs.Json.Recognized

namespace TraitCatalog
namespace Json

def lineEnds : Text :=
  "\r\n"

theorem isSpace_of_lineEnd (h : c ∈ lineEnds) : isSpace c = true := by
  have all : ∀ d ∈ lineEnds, isSpace d = true := by decide
  exact all c h

-- A line end does not stand in a string as it is, nor behind a backslash.
theorem Quoted.step_lineEnd (q : Quoted) (h : c ∈ lineEnds) : q.step c = .error .malformed := by
  have all : ∀ d ∈ lineEnds, q.step d = .error .malformed := by
    refine List.forall_mem_cons.mpr ⟨?_, List.forall_mem_singleton.mpr ?_⟩ <;> cases q <;> rfl
  exact all c h

namespace State

-- At a line end the reader either breaks off or comes to where blanks are skipped. Which of the line ends it
-- is makes no difference.
inductive EndsLine (s : State) : Prop
  | fails (e : ReadError) : (∀ c ∈ lineEnds, s.step c = .error e) → EndsLine s
  | goesOn (s' : State) : Skips s' → (∀ c ∈ lineEnds, s.step c = .ok s') → EndsLine s

theorem Skips.endsLine {s : State} (h : s.Skips) : s.EndsLine :=
  .goesOn s h fun c hc => h c (isSpace_of_lineEnd hc)

theorem endsLine_keyText (fields : Keyed Json) (q : Quoted) (st : List Frame) :
    EndsLine ⟨.keyText fields q, st⟩ := by
  refine .fails .malformed fun c hc => ?_
  simp [step, q.step_lineEnd hc]

theorem endsLine_text (q : Quoted) (st : List Frame) : EndsLine ⟨.text q, st⟩ := by
  refine .fails .malformed fun c hc => ?_
  simp [step, q.step_lineEnd hc]

-- A line end ends a number, so it is here that the number turns out to have a value or none.
theorem endsLine_number (n : Number) (st : List Frame) : EndsLine ⟨.number n, st⟩ := by
  have ends : ∀ c ∈ lineEnds, State.step ⟨.number n, st⟩ c = (do (complete (← n.value) st).between c) := by
    intro c hc
    have none := extend?_delimiter (.inl (isSpace_of_lineEnd hc)) n
    obtain ⟨n', some, -⟩ | ⟨-, rfl, -⟩ | ⟨-, next⟩ := step_number_cases (r := State.step ⟨.number n, st⟩ c) rfl
    · cases none.symm.trans some
    · exact absurd hc (by decide)
    · exact next
  cases value : n.value
  case error e =>
    refine .fails e fun c hc => ?_
    rw [ends c hc, value]
    rfl
  case ok v =>
    refine .goesOn _ (skips_complete v st) fun c hc => ?_
    rw [ends c hc, value, Except.ok_bind, ← step_complete]
    exact skips_complete v st c (isSpace_of_lineEnd hc)

theorem endsLine_word (mem : (w ++ rest, v) ∈ allWords) (ne : rest ≠ []) (st : List Frame) :
    EndsLine ⟨.word rest v, st⟩ := by
  have letters : ∀ p ∈ allWords, ∀ c ∈ p.1, c ∉ lineEnds := by decide
  obtain ⟨d, rest, rfl⟩ := List.exists_cons_of_ne_nil ne
  have other : d ∉ lineEnds := letters _ mem d (List.mem_append_right _ (List.mem_cons_self ..))
  refine .fails .malformed fun c hc => ?_
  have differs : c ≠ d := fun same => other (same ▸ hc)
  simp [step, differs]

theorem Reached.endsLine (h : Reached s t) : s.EndsLine := by
  cases h
  case opening     => exact (skips_opening _).endsLine
  case openingKey  => exact (skips_openingKey _ _).endsLine
  case keyText     => exact endsLine_keyText _ _ _
  case colon       => exact (skips_colon _ _ _).endsLine
  case text        => exact endsLine_text _ _
  case number      => exact endsLine_number _ _
  case word mem ne => exact endsLine_word mem ne _
  case complete    => exact (skips_complete _ _).endsLine

theorem EndsLine.step_return {s : State} (h : s.EndsLine) : s.step (.char '\r') = s.step (.char '\n') := by
  cases h
  case fails e breaks    => rw [breaks _ (by decide), breaks _ (by decide)]
  case goesOn s' _ goes  => rw [goes _ (by decide), goes _ (by decide)]

theorem EndsLine.foldlM_feed {s : State} (h : s.EndsLine) (t : Text) :
    (.char '\n' :: .char '\n' :: t).foldlM step s = (.char '\n' :: t).foldlM step s := by
  rw [List.foldlM_cons, List.foldlM_cons]
  cases h
  case fails e breaks => rw [breaks (.char '\n') (by decide), Except.error_bind, Except.error_bind]
  case goesOn s' skips goes =>
    rw [goes (.char '\n') (by decide), Except.ok_bind, Except.ok_bind, List.foldlM_cons, skips _ rfl,
      Except.ok_bind]

-- What comes behind a code point counts only from the states that are reached with it.
theorem foldlM_cons_of_reached (h : Reached s w)
    (rest : ∀ {s' w'}, Reached s' w' → t.foldlM step s' = u.foldlM step s') (c : Code) :
    (c :: t).foldlM step s = (c :: u).foldlM step s := by
  rw [List.foldlM_cons, List.foldlM_cons]
  cases one : s.step c
  case error => rfl
  case ok s' => exact rest (h.step one)

-- From every state that is ever reached, the reader comes to the same end whatever ends the lines.
theorem foldlM_unifyNewlines (h : Reached s w) (t : Text) :
    t.unifyNewlines.foldlM step s = t.foldlM step s := by
  fun_induction Text.unifyNewlines t generalizing s w
  case case1 rest ih =>
    calc (.char '\n' :: Text.unifyNewlines rest).foldlM step s
      _ = (.char '\n' :: rest).foldlM step s := foldlM_cons_of_reached h ih _
      _ = (.char '\n' :: .char '\n' :: rest).foldlM step s := (h.endsLine.foldlM_feed rest).symm
      _ = (.char '\r' :: .char '\n' :: rest).foldlM step s := by
        rw [List.foldlM_cons, List.foldlM_cons, h.endsLine.step_return]
  case case2 rest _ ih =>
    calc (.char '\n' :: Text.unifyNewlines rest).foldlM step s
      _ = (.char '\n' :: rest).foldlM step s := foldlM_cons_of_reached h ih _
      _ = (.char '\r' :: rest).foldlM step s := by
        rw [List.foldlM_cons, List.foldlM_cons, h.endsLine.step_return]
  case case3 c rest _ _ ih => exact foldlM_cons_of_reached h ih c
  case case4 => rfl

end State

theorem read_unifyNewlines (t : Text) : Json.read t.unifyNewlines = Json.read t := by
  rw [Json.read, State.foldlM_unifyNewlines (State.reached_of_reads .nil), Json.read]

end Json
end TraitCatalog

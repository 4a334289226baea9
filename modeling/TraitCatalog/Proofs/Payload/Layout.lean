import Mathlib.Logic.Relation
import TraitCatalog.Proofs.Payload.Recognized

namespace TraitCatalog

-- A text is one line, or a line, its line feed and the text behind it.
@[elab_as_elim]
theorem Text.induction_lines {motive : Text → Prop} (one : ∀ l, Code.char '\n' ∉ l → motive l)
    (more : ∀ l t, Code.char '\n' ∉ l → motive t → motive (l ++ Code.char '\n' :: t)) (t : Text) :
    motive t := by
  by_cases feed : Code.char '\n' ∈ t
  case neg => exact one t feed
  case pos =>
    obtain ⟨l, rest, rfl, first⟩ := List.eq_append_cons_of_mem feed
    exact more l rest first (Text.induction_lines one more rest)
termination_by t.length

namespace Script

open Json (Blank)

-- The lines of a text, the blank ones at its ends too.
def allLines (t : Text) : List Text :=
  (t.splitOn (Code.char '\n')).map (Text.strip isPadding)

theorem lines_eq_allLines (t : Text) : lines t = allLines (t.strip fun c => isPadding c || c.is '\n') :=
  rfl

theorem allLines_of_not_mem (h : Code.char '\n' ∉ l) : allLines l = [l.strip isPadding] := by
  simp [allLines, List.splitOn_eq_singleton h]

theorem allLines_append (s t : Text) : allLines (s ++ Code.char '\n' :: t) = allLines s ++ allLines t := by
  rw [allLines, List.splitOn_append_cons_self, List.map_append, allLines, allLines]

theorem allLines_nil : allLines [] = [[]] :=
  rfl

theorem feed_not_mem (h : a ⊆ padding) : Code.char '\n' ∉ a :=
  fun mem => absurd (h mem) (by decide)

theorem strip_padded (before : a ⊆ padding) (l : Text) (after : b ⊆ padding) :
    (a ++ l ++ b).strip isPadding = l.strip isPadding :=
  trim_append (fun _ hc => mem_padding_iff.mp (before hc)) l fun _ hc => mem_padding_iff.mp (after hc)

theorem allLines_padding_append (h : a ⊆ padding) (t : Text) : allLines (a ++ t) = allLines t := by
  have line {l : Text} (whole : Code.char '\n' ∉ l) : allLines (a ++ l) = allLines l := by
    have same := strip_padded h l (List.nil_subset _)
    rw [List.append_nil] at same
    rw [allLines_of_not_mem (by simp [feed_not_mem h, whole]), same, allLines_of_not_mem whole]
  induction t using Text.induction_lines
  case one l whole      => exact line whole
  case more l t whole _ => rw [← List.append_assoc, allLines_append, line whole, ← allLines_append]

theorem allLines_append_padding (h : b ⊆ padding) (t : Text) : allLines (t ++ b) = allLines t := by
  induction t using Text.induction_lines
  case one l whole =>
    have same : (l ++ b).strip isPadding = l.strip isPadding := strip_padded (List.nil_subset _) l h
    rw [allLines_of_not_mem (by simp [feed_not_mem h, whole]), same, allLines_of_not_mem whole]
  case more l t _ ih => rw [List.append_assoc, List.cons_append, allLines_append, ih, ← allLines_append]

theorem eq_feed_or_mem_padding (h : c ∈ Json.spaces) : c = .char '\n' ∨ c ∈ padding := by
  rw [mem_spaces_iff, Bool.or_eq_true, ← mem_padding_iff, Code.is_iff] at h
  exact h.symm

-- Blanks in front of a text make blank lines above its own.
theorem exists_allLines_blank_append (h : Blank a) :
    ∃ above, (∀ l ∈ above, l.isEmpty = true) ∧ ∀ t, allLines (a ++ t) = above ++ allLines t := by
  induction a
  case nil => exact ⟨[], nofun, fun t => rfl⟩
  case cons c a ih =>
    obtain ⟨space, blank⟩ := List.forall_mem_cons.mp h
    obtain ⟨above, empty, all⟩ := ih blank
    obtain rfl | pad := eq_feed_or_mem_padding space
    case inl =>
      refine ⟨[] :: above, List.forall_mem_cons.mpr ⟨rfl, empty⟩, fun t => ?_⟩
      have split := allLines_append [] (a ++ t)
      rwa [all t, allLines_nil] at split
    case inr =>
      refine ⟨above, empty, fun t => ?_⟩
      rw [← all t]
      exact allLines_padding_append (List.cons_subset.mpr ⟨pad, List.nil_subset _⟩) (a ++ t)

-- Blanks behind it make blank lines below.
theorem exists_allLines_append_blank (h : Blank b) :
    ∃ below, (∀ l ∈ below, l.isEmpty = true) ∧ ∀ t, allLines (t ++ b) = allLines t ++ below := by
  induction b
  case nil => exact ⟨[], nofun, fun t => by simp⟩
  case cons c b ih =>
    obtain ⟨space, blank⟩ := List.forall_mem_cons.mp h
    obtain rfl | pad := eq_feed_or_mem_padding space
    case inl =>
      obtain ⟨above, empty, all⟩ := exists_allLines_blank_append blank
      refine ⟨above ++ [[]], List.forall_mem_append.mpr ⟨empty, by simp⟩, fun t => ?_⟩
      rw [allLines_append, ← List.append_nil b, all, allLines_nil]
    case inr =>
      obtain ⟨below, empty, all⟩ := ih blank
      refine ⟨below, empty, fun t => ?_⟩
      rw [List.append_cons, all, allLines_append_padding (List.cons_subset.mpr ⟨pad, List.nil_subset _⟩)]

theorem isEmpty_strip {c : Code} {l : Text} (mem : c ∈ l) (h : c ∉ Json.spaces) :
    (l.strip isPadding).isEmpty = false := by
  cases empty : (l.strip isPadding).isEmpty
  case false => rfl
  case true =>
    have pad := trim_eq_nil_iff.mp (List.isEmpty_iff.mp empty) c mem
    exact absurd (padding_subset_spaces (mem_padding_iff.mpr pad)) h

theorem feed_mem_spaces : Code.char '\n' ∈ Json.spaces := by
  decide

theorem not_mem_spaces_iff : c ∉ Json.spaces ↔ (isPadding c || c.is '\n') = false := by
  rw [mem_spaces_iff, Bool.not_eq_true]

-- A text that begins without a blank has no blank line at first, and none at last if it ends without one.
theorem head?_allLines {t : Text} (first : ∀ c ∈ t.head?, c ∉ Json.spaces) (ne : t ≠ []) :
    ∀ l ∈ (allLines t).head?, l.isEmpty = false := by
  induction t using Text.induction_lines
  case one l whole =>
    rw [allLines_of_not_mem whole]
    rintro _ ⟨⟩
    obtain ⟨c, l, rfl⟩ := List.exists_cons_of_ne_nil ne
    exact isEmpty_strip (List.mem_cons_self ..) (first c rfl)
  case more l t whole _ =>
    rw [allLines_append, allLines_of_not_mem whole]
    rintro _ ⟨⟩
    cases l
    case nil => exact absurd feed_mem_spaces (first _ rfl)
    case cons c l => exact isEmpty_strip (List.mem_cons_self ..) (first c rfl)

theorem getLast?_allLines {t : Text} (last : ∀ c ∈ t.getLast?, c ∉ Json.spaces) (ne : t ≠ []) :
    ∀ l ∈ (allLines t).getLast?, l.isEmpty = false := by
  induction t using Text.induction_lines
  case one l whole =>
    rw [allLines_of_not_mem whole]
    rintro _ ⟨⟩
    have there := List.getLast_mem ne
    exact isEmpty_strip there (last _ (List.getLast?_eq_some_getLast ne))
  case more l t _ ih =>
    obtain rfl | more := eq_or_ne t []
    case inl => exact absurd feed_mem_spaces (last _ (by simp))
    case inr =>
      have behind : (l ++ Code.char '\n' :: t).getLast? = t.getLast? := by
        rw [List.append_cons, List.getLast?_append_of_ne_nil _ more]
      have lines : allLines t ≠ [] := by simp [allLines, List.splitOn_ne_nil]
      rw [allLines_append, List.getLast?_append_of_ne_nil _ lines]
      exact ih (behind ▸ last) more

-- The lines of a script are all its lines but for the blank ones at both ends.
theorem laid_iff_trim : Laid t body ↔ trim List.isEmpty (allLines t) = prologue :: body ++ [epilogue] := by
  rw [laid_iff, lines_eq_allLines]
  obtain ⟨a, b, text, before, after, first, last⟩ :=
    Text.strip_eq_iff.mp (Eq.refl (t.strip fun c => isPadding c || c.is '\n'))
  generalize t.strip (fun c => isPadding c || c.is '\n') = u at text first last ⊢
  subst text
  simp only [← mem_spaces_iff, ← not_mem_spaces_iff] at before after first last
  obtain ⟨above, empty, all⟩ := exists_allLines_blank_append before
  obtain ⟨below, empty', all'⟩ := exists_allLines_append_blank after
  rw [List.append_assoc, all, all', ← List.append_assoc, trim_append empty _ empty']
  obtain rfl | ne := eq_or_ne u []
  case inl =>
    have nothing : trim List.isEmpty (allLines []) = [] := rfl
    rw [nothing, allLines_nil]
    exact ⟨nofun, nofun⟩
  case inr =>
    have whole : trim List.isEmpty (allLines u) = allLines u :=
      trim_eq_iff.mpr ⟨[], [], by simp, nofun, nofun, head?_allLines first ne, getLast?_allLines last ne⟩
    rw [whole]

theorem laid_iff_allLines : Laid t body ↔ ∃ above below,
    allLines t = above ++ (prologue :: body ++ [epilogue]) ++ below ∧
      (∀ l ∈ above, l.isEmpty = true) ∧ ∀ l ∈ below, l.isEmpty = true := by
  rw [laid_iff_trim, trim_eq_iff]
  constructor
  case mp => exact fun ⟨above, below, all, empty, empty', _⟩ => ⟨above, below, all, empty, empty'⟩
  case mpr =>
    rintro ⟨above, below, all, empty, empty'⟩
    refine ⟨above, below, all, empty, empty', ?first, ?last⟩
    case first =>
      rintro _ ⟨⟩
      rfl
    case last =>
      rw [List.getLast?_concat]
      rintro _ ⟨⟩
      rfl

-- What is read from a script depends on how it is laid out alone.
theorem read_eq_of_laid (h : ∀ body, Laid t body ↔ Laid u body) : read t = read u := by
  by_cases laid : ∃ body, Laid t body
  case pos =>
    obtain ⟨body, laid⟩ := laid
    rw [read_of_laid laid, read_of_laid ((h body).mp laid)]
  case neg =>
    have other : ¬∃ body, Laid u body := fun ⟨body, laid'⟩ => laid ⟨body, (h body).mpr laid'⟩
    rw [read_of_not_laid laid, read_of_not_laid other]

theorem read_eq_of_allLines (h : allLines t = allLines u) : read t = read u :=
  read_eq_of_laid fun _ => by rw [laid_iff_trim, laid_iff_trim, h]

-- The lines of a text that have more to them than blanks.
def nonblank (t : Text) : List Text :=
  (allLines t).filter (· ≠ [])

theorem nonblank_append (s t : Text) : nonblank (s ++ Code.char '\n' :: t) = nonblank s ++ nonblank t := by
  rw [nonblank, allLines_append, List.filter_append, nonblank, nonblank]

theorem filter_empty_iff {ls : List Text} : ls.filter (· ≠ []) = [] ↔ ∀ l ∈ ls, l.isEmpty = true := by
  simp

theorem nonblank_blank_append (h : Blank a) (t : Text) : nonblank (a ++ t) = nonblank t := by
  obtain ⟨above, empty, all⟩ := exists_allLines_blank_append h
  rw [nonblank, all, List.filter_append, filter_empty_iff.mpr empty, List.nil_append, nonblank]

theorem nonblank_append_blank (h : Blank b) (t : Text) : nonblank (t ++ b) = nonblank t := by
  obtain ⟨below, empty, all⟩ := exists_allLines_append_blank h
  rw [nonblank, all, List.filter_append, filter_empty_iff.mpr empty, List.append_nil, nonblank]

-- Which lines a script has, but for its blank ones, can be told from those of the text.
theorem exists_laid_iff : (∃ body, Laid t body ∧ body.filter (· ≠ []) = assigned) ↔
    nonblank t = prologue :: assigned ++ [epilogue] := by
  simp only [laid_iff_allLines, ← filter_empty_iff, nonblank]
  constructor
  case mp =>
    rintro ⟨body, ⟨above, below, all, empty, empty'⟩, rfl⟩
    rw [all, List.filter_append, List.filter_append, empty, empty', List.nil_append, List.append_nil,
      List.filter_append]
    rfl
  case mpr =>
    intro h
    obtain ⟨upper, lower, all, hupper, hlower⟩ := List.filter_eq_append_iff.mp h
    obtain ⟨above, between, rfl, empty, -, rfl⟩ := List.filter_eq_cons_iff.mp hupper
    obtain ⟨gap, below, rfl, between_empty, -, empty'⟩ := List.filter_eq_cons_iff.mp hlower
    refine ⟨between ++ gap, ⟨above, below, ?parted, List.filter_eq_nil_iff.mpr empty, empty'⟩, ?empty⟩
    case parted => simpa only [List.append_assoc, List.cons_append, List.nil_append] using all
    case empty => rw [List.filter_append, List.filter_eq_nil_iff.mpr between_empty, List.append_nil]

-- Why a script is refused, wherever it is.
inductive Reason
  | notScript
  | unexpectedStatement
  | malformedLiteral
  | beyond (l : Limit)

def Fault.reason : Fault → Reason
  | notScript             => .notScript
  | unexpectedStatement _ => .unexpectedStatement
  | malformedLiteral _    => .malformedLiteral
  | beyond l              => .beyond l

theorem mapError_readAssignment (n m : Nat) (line : Text) :
    (readAssignment n line).mapError Fault.reason = (readAssignment m line).mapError Fault.reason := by
  unfold readAssignment
  split
  case h_1 => rfl
  case h_2 => split <;> rfl

-- Empty lines only count when it comes to the numbers of lines.
theorem mapError_readAssignments (n m : Nat) (body : List Text) :
    (readAssignments n body).mapError Fault.reason =
      (readAssignments m (body.filter (· ≠ []))).mapError Fault.reason := by
  induction body generalizing n m
  case nil => rfl
  case cons line rest ih =>
    by_cases empty : line = []
    case pos =>
      subst empty
      exact ih (n + 1) m
    case neg =>
      rw [List.filter_cons_of_pos (by simpa using empty), readAssignments_cons empty,
        readAssignments_cons empty, Except.mapError_bind, Except.mapError_bind, mapError_readAssignment n m]
      simp only [Except.mapError_bind, ih (n + 1) (m + 1)]

theorem mapError_read_of_nonblank (h : nonblank t = nonblank u) :
    (read t).mapError Fault.reason = (read u).mapError Fault.reason := by
  by_cases laid : ∃ body, Laid t body
  case pos =>
    obtain ⟨body, laid⟩ := laid
    have same := h.symm.trans (exists_laid_iff.mp ⟨body, laid, rfl⟩)
    obtain ⟨body', laid', same⟩ := exists_laid_iff.mpr same
    rw [read_of_laid laid, read_of_laid laid', Except.mapError_bind, Except.mapError_bind,
      mapError_readAssignments 2 2 body, mapError_readAssignments 2 2 body', same]
  case neg =>
    have other : ¬∃ body, Laid u body := by
      rintro ⟨body, laid'⟩
      obtain ⟨body', laid', -⟩ := exists_laid_iff.mpr (h.trans (exists_laid_iff.mp ⟨body, laid', rfl⟩))
      exact laid ⟨body', laid'⟩
    rw [read_of_not_laid laid, read_of_not_laid other]

-- Blanks are put at an end of a line, with line feeds among them or not.
inductive Respaced : Text → Text → Prop
  | first  : Blank b → Respaced t (b ++ t)
  | last   : Blank b → Respaced t (t ++ b)
  | before : Blank b → Respaced (s ++ .char '\n' :: t) (s ++ b ++ .char '\n' :: t)
  | behind : Blank b → Respaced (s ++ .char '\n' :: t) (s ++ .char '\n' :: (b ++ t))

theorem Respaced.nonblank_eq (h : Respaced t u) : nonblank t = nonblank u := by
  cases h
  case first blank  => rw [nonblank_blank_append blank]
  case last blank   => rw [nonblank_append_blank blank]
  case before blank => rw [nonblank_append, nonblank_append, nonblank_append_blank blank]
  case behind blank => rw [nonblank_append, nonblank_append, nonblank_blank_append blank]

-- Blanks are put in and taken out at the ends of lines, one after the other.
def Relaid : Text → Text → Prop :=
  Relation.EqvGen Respaced

theorem Relaid.of_eq (h : t = u) : Relaid t u :=
  h ▸ .refl t

theorem Relaid.step (h : Respaced t u) : Relaid t u :=
  .rel _ _ h

theorem Relaid.back (h : Respaced t u) : Relaid u t :=
  .symm _ _ (.rel _ _ h)

instance : Trans Relaid Relaid Relaid where
  trans first second := .trans _ _ _ first second

theorem Relaid.nonblank_eq (h : Relaid t u) : nonblank t = nonblank u := by
  induction h
  case rel one            => exact one.nonblank_eq
  case refl               => rfl
  case symm ih            => exact ih.symm
  case trans first second => exact first.trans second

-- What stands behind a line is relaid as if it stood alone.
theorem Relaid.behind (h : Relaid t u) (l : Text) : Relaid (l ++ .char '\n' :: t) (l ++ .char '\n' :: u) := by
  induction h
  case rel t u one =>
    apply Relaid.step
    cases one
    case first blank => exact .behind blank
    case last b blank =>
      have more := Respaced.last (t := l ++ .char '\n' :: t) blank
      rwa [List.append_assoc] at more
    case before b s t blank =>
      have more := Respaced.before (s := l ++ .char '\n' :: s) (t := t) blank
      simpa only [List.append_assoc, List.cons_append] using more
    case behind b s t blank =>
      have more := Respaced.behind (s := l ++ .char '\n' :: s) (t := t) blank
      simpa only [List.append_assoc, List.cons_append] using more
  case refl               => exact .refl _
  case symm ih            => exact .symm _ _ ih
  case trans first second => exact .trans _ _ _ first second

theorem exists_padding (l : Text) : ∃ a b, l = a ++ l.strip isPadding ++ b ∧ Blank a ∧ Blank b := by
  obtain ⟨a, b, split, before, after, -⟩ := Text.strip_eq_iff.mp (Eq.refl (l.strip isPadding))
  simp only [← mem_padding_iff] at before after
  exact ⟨a, b, split, fun c hc => padding_subset_spaces (before c hc),
    fun c hc => padding_subset_spaces (after c hc)⟩

theorem relaid_strip (l : Text) : Relaid l (l.strip isPadding) := by
  obtain ⟨a, b, split, before, after⟩ := exists_padding l
  generalize l.strip isPadding = line at split ⊢
  subst split
  calc Relaid (a ++ line ++ b) (a ++ line) := .back (.last after)
    Relaid _ line := .back (.first before)

theorem relaid_strip_append (l t : Text) :
    Relaid (l ++ .char '\n' :: t) (l.strip isPadding ++ .char '\n' :: t) := by
  obtain ⟨a, b, split, before, after⟩ := exists_padding l
  generalize l.strip isPadding = line at split ⊢
  subst split
  simp only [List.append_assoc]
  calc Relaid (a ++ (line ++ (b ++ .char '\n' :: t))) (line ++ (b ++ .char '\n' :: t)) := .back (.first before)
    Relaid _ (line ++ b ++ .char '\n' :: t) := .of_eq (List.append_assoc ..).symm
    Relaid _ (line ++ .char '\n' :: t) := .back (.before after)

theorem nonblank_of_not_mem (h : Code.char '\n' ∉ l) :
    nonblank l = if l.strip isPadding = [] then [] else [l.strip isPadding] := by
  rw [nonblank, allLines_of_not_mem h]
  split
  case isTrue empty =>
    rw [empty]
    rfl
  case isFalse more => exact List.filter_cons_of_pos (by simpa using more)

-- Every text can be relaid to its lines that are not blank.
theorem relaid_join (t : Text) : Relaid t (Text.join "\n" (nonblank t)) := by
  have feed : Blank [.char '\n'] := List.forall_mem_singleton.mpr feed_mem_spaces
  induction t using Text.induction_lines
  case one l whole =>
    rw [nonblank_of_not_mem whole]
    have stripped := relaid_strip l
    split
    case isTrue empty => rwa [empty] at stripped
    case isFalse      => simpa [Text.join] using stripped
  case more l t whole ih =>
    rw [nonblank_append, nonblank_of_not_mem whole]
    split
    case isTrue empty =>
      calc Relaid (l ++ .char '\n' :: t) (l.strip isPadding ++ .char '\n' :: t) := relaid_strip_append l t
        Relaid _ ([.char '\n'] ++ t) := .of_eq (by rw [empty]; rfl)
        Relaid _ t := .back (.first feed)
        Relaid _ (Text.join "\n" ([] ++ nonblank t)) := ih
    case isFalse =>
      calc Relaid (l ++ .char '\n' :: t) (l.strip isPadding ++ .char '\n' :: t) := relaid_strip_append l t
        Relaid _ (l.strip isPadding ++ .char '\n' :: Text.join "\n" (nonblank t)) := ih.behind _
        Relaid _ (Text.join "\n" (l.strip isPadding :: nonblank t)) := by
          cases nonblank t
          case nil =>
            have alone : Text.join "\n" [l.strip isPadding] = l.strip isPadding := by simp [Text.join]
            rw [alone]
            exact .back (.last feed)
          case cons => exact .of_eq (by simp [Text.join, Text.ofString])

-- Texts have the same lines, but for blank ones, just if one can be relaid to the other.
theorem relaid_iff : Relaid t u ↔ nonblank t = nonblank u := by
  constructor
  case mp  => exact Relaid.nonblank_eq
  case mpr =>
    intro same
    calc Relaid t (Text.join "\n" (nonblank t)) := relaid_join t
      Relaid _ (Text.join "\n" (nonblank u)) := .of_eq (by rw [same])
      Relaid _ u := .symm _ _ (relaid_join u)

-- A script gives the same, or is refused for the same reason, wherever its lines begin and end and however
-- many blank lines there are: all texts with the same lines otherwise, and so all that one can be relaid to.
theorem read_relaid (t u : Text) :
    (nonblank t = nonblank u → (read t).mapError Fault.reason = (read u).mapError Fault.reason) ∧
    (Relaid t u ↔ nonblank t = nonblank u) :=
  ⟨mapError_read_of_nonblank, relaid_iff⟩

theorem read_relaid_indented :
    let line : Text := "implementors[\"a\"] = [];"
    let t : Text := "\n\t" ++ prologue ++ "\r\n \n  " ++ line ++ " \r\n" ++ epilogue ++ "\n"
    let u : Text := prologue ++ "\n" ++ line ++ "\n" ++ epilogue
    nonblank t = nonblank u ∧ Relaid t u ∧ (read t).mapError Fault.reason = .ok [("a", .array [])] := by
  intro line t u
  have same : nonblank t = nonblank u := by decide
  have plain : (read u).mapError Fault.reason = .ok [("a", .array [])] := rfl
  obtain ⟨alike, relaid⟩ := read_relaid t u
  exact ⟨same, relaid.mpr same, (alike same).trans plain⟩

end Script
end TraitCatalog

import TraitCatalog.Payload.Loading
import TraitCatalog.Proofs.Payload.Layout

namespace TraitCatalog

theorem Text.exists_digit (h : c ∈ ofNat n) : ∃ d : Char, c = .char d ∧ d.isDigit = true := by
  obtain ⟨d, mem, rfl⟩ := List.mem_map.mp h
  exact ⟨d, rfl, Nat.isDigit_of_mem_toDigits (by decide) (by decide) mem⟩

theorem Text.ofNat_injective (h : ofNat n = ofNat m) : n = m := by
  have digits : Nat.toDigits 10 n = Nat.toDigits 10 m :=
    (List.map_inj_right fun _ _ => Code.char.inj).mp h
  rw [← Nat.ofDigitChars_ten_toDigits (n := n), digits, Nat.ofDigitChars_ten_toDigits]

-- The digits of a number end in front of a colon.
theorem Text.takeWhile_ofNat (n : Nat) (rest : Text) :
    (ofNat n ++ .char ':' :: rest).takeWhile (· ≠ .char ':') = ofNat n := by
  have digits : ∀ c ∈ ofNat n, decide (c ≠ .char ':') = true := by
    intro c mem
    obtain ⟨d, rfl, digit⟩ := exists_digit mem
    have other : d ≠ ':' := by
      rintro rfl
      cases digit
    simpa using other
  rw [List.takeWhile_append_of_pos digits, List.takeWhile_cons_of_neg (by simp), List.append_nil]

namespace Script

open Json (allWords)

-- How a message begins that tells the number of a line.
def mark (context : Text) (n : Nat) : Text :=
  context ++ ":" ++ Text.ofNat n ++ ": "

theorem mark_injective (h : mark context n <+: mark context m ++ words) : n = m := by
  obtain ⟨more, same⟩ := h
  simp only [mark, List.append_assoc, List.append_right_inj] at same
  apply Text.ofNat_injective
  calc Text.ofNat n = _ := (Text.takeWhile_ofNat n (.char ' ' :: more)).symm
    _ = _ := congrArg (List.takeWhile (· ≠ .char ':')) same
    _ = Text.ofNat m := Text.takeWhile_ofNat m (.char ' ' :: words)

theorem not_told_by_mark (context words : Text) (n : Nat) : ¬mark context n <+: context ++ ": " ++ words := by
  rintro ⟨more, same⟩
  simp only [mark, List.append_assoc, List.append_right_inj] at same
  obtain ⟨c, digits, first⟩ := List.exists_cons_of_ne_nil
    (show Text.ofNat n ≠ [] from mt List.map_eq_nil_iff.mp Nat.toDigits_ne_nil)
  obtain ⟨d, rfl, digit⟩ := Text.exists_digit (first ▸ List.mem_cons_self ..)
  rw [first] at same
  cases (List.cons_eq_cons.mp (List.cons_eq_cons.mp same).right).left
  cases digit

-- The number of the line that a fault is in.
def Fault.line? : Fault → Option Nat
  | unexpectedStatement n | malformedLiteral n => some n
  | notScript | beyond _                       => none

theorem Fault.exists_message_of_line? {f : Fault} (h : f.line? = some n) (context : Text) :
    ∃ words, LoadError.message (.script context f) = mark context n ++ words := by
  have said (words : Text) : context ++ ":" ++ Text.ofNat n ++ (": " ++ words) = mark context n ++ words := by
    simp [mark]
  cases f <;> cases h
  case unexpectedStatement => exact ⟨"unexpected statement", said _⟩
  case malformedLiteral    => exact ⟨"malformed implementors literal", said _⟩

theorem Fault.exists_message_of_none {f : Fault} (h : f.line? = none) (context : Text) :
    ∃ words, LoadError.message (.script context f) = context ++ ": " ++ words := by
  have said (words : Text) : context ++ (": " ++ words) = context ++ ": " ++ words :=
    (List.append_assoc ..).symm
  cases f
  case notScript => exact ⟨"not an implementors payload script", said _⟩
  case beyond l  => exact ⟨l.message, rfl⟩
  all_goals cases h

-- A message begins with the number of a line just if the fault is in that line.
theorem mark_prefix_iff {f : Fault} :
    mark context n <+: LoadError.message (.script context f) ↔ f.line? = some n := by
  constructor
  case mp =>
    intro told
    cases number : f.line?
    case none =>
      obtain ⟨words, message⟩ := f.exists_message_of_none number context
      exact absurd (message ▸ told) (not_told_by_mark context words n)
    case some m =>
      obtain ⟨words, message⟩ := f.exists_message_of_line? number context
      have same : n = m := mark_injective (message ▸ told)
      rw [same]
  case mpr =>
    intro number
    obtain ⟨words, message⟩ := f.exists_message_of_line? number context
    exact ⟨words, message.symm⟩

-- A line is blank or assigns an array.
def Regular (line : Text) : Prop :=
  line = [] ∨ ∃ p, Assigns allWords Limit.mostContainers line p

theorem exists_body_iff :
    (∃ ps, Body allWords Limit.mostContainers body ps) ↔ ∀ line ∈ body, Regular line := by
  constructor
  case mp =>
    rintro ⟨ps, assigned⟩
    induction assigned
    case nil => exact nofun
    case empty ih => exact List.forall_mem_cons.mpr ⟨.inl rfl, ih⟩
    case assignment assigns _ ih => exact List.forall_mem_cons.mpr ⟨.inr ⟨_, assigns⟩, ih⟩
  case mpr =>
    intro regular
    induction body
    case nil => exact ⟨[], .nil⟩
    case cons line rest ih =>
      obtain ⟨first, others⟩ := List.forall_mem_cons.mp regular
      obtain ⟨ps, assigned⟩ := ih others
      obtain rfl | ⟨p, assigns⟩ := first
      case inl => exact ⟨ps, .empty assigned⟩
      case inr => exact ⟨p :: ps, .assignment assigns assigned⟩

-- The line with the number `n`, counted from the first line of the text, is the first one between the first
-- and the last line of the script that is neither blank nor an assignment.
inductive FaultyAt (t : Text) : Nat → Prop
  | line : allLines t = above ++ (prologue :: (front ++ line :: back) ++ [epilogue]) ++ below →
    (∀ l ∈ above, l.isEmpty = true) → (∀ l ∈ below, l.isEmpty = true) →
    (∀ l ∈ front, Regular l) → ¬Regular line → FaultyAt t (above.length + 1 + front.length + 1)

-- The number of blank lines in front of the first one that is not.
def blanksAbove (t : Text) : Nat :=
  ((allLines t).takeWhile List.isEmpty).length

theorem blanksAbove_eq (h : allLines t = above ++ (prologue :: rest) ++ below)
    (empty : ∀ l ∈ above, l.isEmpty = true) : blanksAbove t = above.length := by
  have text : ¬List.isEmpty prologue = true := nofun
  rw [blanksAbove, h, List.append_assoc, List.takeWhile_append_of_pos empty, List.cons_append,
    List.takeWhile_cons_of_neg text, List.append_nil]

theorem faultyAt_iff : FaultyAt t m ↔ ∃ front line back, Laid t (front ++ line :: back) ∧
    (∀ l ∈ front, Regular l) ∧ ¬Regular line ∧ m = blanksAbove t + 1 + front.length + 1 := by
  constructor
  case mp =>
    rintro @⟨above, front, line, back, below, all, empty, empty', regular, fault⟩
    have laid := laid_iff_allLines.mpr ⟨above, below, all, empty, empty'⟩
    exact ⟨front, line, back, laid, regular, fault, by rw [blanksAbove_eq all empty]⟩
  case mpr =>
    rintro ⟨front, line, back, laid, regular, fault, rfl⟩
    obtain ⟨above, below, all, empty, empty'⟩ := laid_iff_allLines.mp laid
    rw [blanksAbove_eq all empty]
    exact .line all empty empty' regular fault

-- What comes before the first exception is known from the whole.
theorem eq_of_first {P : α → Prop} {back back' : List α} (h : ∀ a ∈ front, P a) (h' : ∀ a ∈ front', P a)
    (last : ¬P a) (last' : ¬P a') (same : front ++ a :: back = front' ++ a' :: back') : front = front' := by
  classical
  have first {front back : List α} {a : α} (h : ∀ a ∈ front, P a) (last : ¬P a) :
      (front ++ a :: back).takeWhile (P ·) = front := by
    rw [List.takeWhile_append_of_pos (by simpa using h), List.takeWhile_cons_of_neg (by simpa using last),
      List.append_nil]
  rw [← first h last, same, first h' last']

-- There is at most one such line.
theorem FaultyAt.unique (h : FaultyAt t m) (h' : FaultyAt t n) : m = n := by
  obtain ⟨front, line, back, laid, regular, fault, rfl⟩ := faultyAt_iff.mp h
  obtain ⟨front', line', back', laid', regular', fault', rfl⟩ := faultyAt_iff.mp h'
  rw [eq_of_first regular regular' fault fault' (laid.unique laid')]

theorem readAssignment_line (h : readAssignment n line = .error f) (number : f.line? = some m) : m = n := by
  unfold readAssignment at h
  split at h
  case h_1 =>
    cases h
    cases number
    rfl
  case h_2 =>
    split at h <;> cases h <;> cases number
    rfl

-- The fault is in the first line that is neither blank nor an assignment. Its number leaves out the blank
-- lines at the beginning.
theorem faultyAt_of_read (h : read t = .error f) (number : f.line? = some n) :
    FaultyAt t (blanksAbove t + n) := by
  by_cases laid : ∃ body, Laid t body
  case neg =>
    cases (read_of_not_laid laid).symm.trans h
    cases number
  case pos =>
    obtain ⟨body, laid⟩ := laid
    rw [read_of_laid laid] at h
    obtain error | ⟨_, -, error⟩ := Except.bind_eq_error_iff.mp h
    case inr => cases error
    case inl =>
      obtain ⟨front, line, back, ps, rfl, assigned, more, error⟩ := readAssignments_eq_error_iff.mp error
      have fault : ¬Regular line := by
        rintro (rfl | ⟨p, assigns⟩)
        · exact more rfl
        · cases error.symm.trans (readAssignment_eq_ok_iff.mpr ⟨p, rfl, assigns⟩)
      refine faultyAt_iff.mpr ⟨front, line, back, laid, exists_body_iff.mp ⟨ps, assigned⟩, fault, ?_⟩
      rw [readAssignment_line error number]
      omega

-- Where a message tells the number of a line, the line at fault has this number if the text does not begin
-- with blank lines. Otherwise it stands as many lines further down.
theorem told_line {context t : Text} {e : LoadError} {n : Nat} (h : Payload.read context t .script = .error e)
    (told : mark context n <+: e.message) (m : Nat) : FaultyAt t m ↔ m = blanksAbove t + n := by
  obtain ⟨f, fault, rfl⟩ := Except.mapError_eq_error_iff.mp h
  have faulty := faultyAt_of_read fault (mark_prefix_iff.mp told)
  constructor
  case mp => exact fun other => other.unique faulty
  case mpr =>
    rintro rfl
    exact faulty

theorem told_line_unpadded :
    let t : Text := prologue ++ "\n \nx\n" ++ epilogue
    ∃ e, Payload.read defaultContext t .script = .error e ∧ mark defaultContext 3 <+: e.message ∧
      FaultyAt t 3 := by
  intro t
  let e : LoadError := .script defaultContext (.unexpectedStatement 3)
  have fault : Payload.read defaultContext t .script = .error e := rfl
  have told : mark defaultContext 3 <+: e.message := mark_prefix_iff.mpr rfl
  exact ⟨e, fault, told, (told_line fault told 3).mpr rfl⟩

-- Below a blank line the number is that of the line before.
theorem told_line_padded :
    let t : Text := "\n" ++ prologue ++ "\nx\n" ++ epilogue
    ∃ e, Payload.read defaultContext t .script = .error e ∧ mark defaultContext 2 <+: e.message ∧
      ¬FaultyAt t 2 := by
  intro t
  let e : LoadError := .script defaultContext (.unexpectedStatement 2)
  have fault : read t = .error (.unexpectedStatement 2) := rfl
  have told : mark defaultContext 2 <+: e.message := mark_prefix_iff.mpr rfl
  have faulty : FaultyAt t 3 := faultyAt_of_read fault rfl
  refine ⟨e, Except.mapError_eq_error_iff.mpr ⟨_, fault, rfl⟩, told, fun other => ?_⟩
  cases other.unique faulty

end Script
end TraitCatalog

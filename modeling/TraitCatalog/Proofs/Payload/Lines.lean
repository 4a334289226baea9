import Mathlib.Data.List.TakeWhile
import TraitCatalog.Proofs.Json.Reads
import TraitCatalog.Proofs.Payload.Grammar

namespace TraitCatalog

theorem dropWhile_of_head? {p : α → Bool} {t : List α} (h : ∀ c ∈ t.head?, p c = false) :
    t.dropWhile p = t := by
  cases t
  case nil => rfl
  case cons c t => simp [h c rfl]

theorem head?_dropWhile {p : α → Bool} {t : List α} (h : c ∈ (t.dropWhile p).head?) : p c = false := by
  have all := List.head?_dropWhile_not p t
  rwa [Option.mem_def.mp h] at all

-- A list without what satisfies `p` at both ends.
def trim (p : α → Bool) (t : List α) : List α :=
  ((t.dropWhile p).reverse.dropWhile p).reverse

-- What is left is what stands between two ends that go away as a whole.
theorem trim_eq_iff {p : α → Bool} {t s : List α} : trim p t = s ↔
    ∃ a b, t = a ++ s ++ b ∧ (∀ c ∈ a, p c = true) ∧ (∀ c ∈ b, p c = true) ∧
      (∀ c ∈ s.head?, p c = false) ∧ ∀ c ∈ s.getLast?, p c = false := by
  constructor
  case mp =>
    rintro rfl
    have front : t = t.takeWhile p ++ t.dropWhile p := List.takeWhile_append_dropWhile.symm
    have back : t.dropWhile p = trim p t ++ ((t.dropWhile p).reverse.takeWhile p).reverse := by
      rw [trim, ← List.reverse_append, List.takeWhile_append_dropWhile, List.reverse_reverse]
    refine ⟨t.takeWhile p, ((t.dropWhile p).reverse.takeWhile p).reverse, ?text, ?before, ?after, ?first, ?last⟩
    case text => rw [List.append_assoc, ← back, ← front]
    case before => exact fun c hc => List.mem_takeWhile_imp hc
    case after => exact fun c hc => List.mem_takeWhile_imp (List.mem_reverse.mp hc)
    case first =>
      intro c hc
      apply head?_dropWhile (t := t)
      rw [back, List.head?_append, Option.mem_def.mp hc]
      rfl
    case last =>
      intro c hc
      rw [trim, List.getLast?_reverse] at hc
      exact head?_dropWhile hc
  case mpr =>
    rintro ⟨a, b, rfl, before, after, first, last⟩
    rw [trim, List.append_assoc, List.dropWhile_append_of_pos before]
    cases s
    case nil =>
      rw [List.nil_append, List.dropWhile_eq_nil_iff.mpr after]
      rfl
    case cons c s =>
      have ends : (c :: s ++ b).dropWhile p = c :: s ++ b := dropWhile_of_head? first
      have behind : ∀ c ∈ b.reverse, p c = true := fun c hc => after c (List.mem_reverse.mp hc)
      have stops : ∀ d ∈ (c :: s).reverse.head?, p d = false := by rwa [List.head?_reverse]
      rw [ends, List.reverse_append, List.dropWhile_append_of_pos behind, dropWhile_of_head? stops,
        List.reverse_reverse]

theorem trim_eq_nil_iff {p : α → Bool} {t : List α} : trim p t = [] ↔ ∀ c ∈ t, p c = true := by
  rw [trim_eq_iff]
  constructor
  case mp =>
    rintro ⟨a, b, rfl, before, after, -⟩
    rw [List.append_nil]
    exact List.forall_mem_append.mpr ⟨before, after⟩
  case mpr => exact fun all => ⟨t, [], by simp, all, nofun, nofun, nofun⟩

-- More of it at the ends makes no difference.
theorem trim_append {p : α → Bool} {a b : List α} (before : ∀ c ∈ a, p c = true) (t : List α)
    (after : ∀ c ∈ b, p c = true) : trim p (a ++ t ++ b) = trim p t := by
  obtain ⟨a', b', split, before', after', ends⟩ := trim_eq_iff.mp (Eq.refl (trim p t))
  refine trim_eq_iff.mpr ⟨a ++ a', b' ++ b, ?_, List.forall_mem_append.mpr ⟨before, before'⟩,
    List.forall_mem_append.mpr ⟨after', after⟩, ends⟩
  calc a ++ t ++ b = a ++ (a' ++ trim p t ++ b') ++ b := by rw [← split]
    _ = a ++ a' ++ trim p t ++ (b' ++ b) := by simp only [List.append_assoc]

namespace Text

theorem strip_eq_iff {p : Code → Bool} {t s : Text} : strip p t = s ↔
    ∃ a b, t = a ++ s ++ b ∧ (∀ c ∈ a, p c = true) ∧ (∀ c ∈ b, p c = true) ∧
      (∀ c ∈ s.head?, p c = false) ∧ ∀ c ∈ s.getLast?, p c = false :=
  trim_eq_iff

-- No separator stands in a part between separators.
theorem not_mem_of_mem_splitOn {t part : Text} {sep : Code} (hp : part ∈ t.splitOn sep) : sep ∉ part := by
  induction t generalizing part
  case nil =>
    rw [List.splitOn_nil, List.mem_singleton] at hp
    exact hp ▸ List.not_mem_nil
  case cons c t ih =>
    rw [List.splitOn_cons_eq_if_modifyHead] at hp
    split at hp
    case isTrue =>
      cases List.mem_cons.mp hp
      case inl hp => exact hp ▸ List.not_mem_nil
      case inr hp => exact ih hp
    case isFalse other =>
      cases parts : t.splitOn sep
      case nil => exact absurd parts (List.splitOn_ne_nil sep t)
      case cons first others =>
        rw [parts] at hp ih
        cases List.mem_cons.mp hp
        case inl hp =>
          subst hp
          rw [List.mem_cons, not_or]
          exact ⟨fun same => other (by simp [same]), ih (List.mem_cons_self ..)⟩
        case inr hp => exact ih (List.mem_cons_of_mem _ hp)

-- There is one part more than separators.
theorem length_splitOn (sep : Code) (t : Text) : (t.splitOn sep).length = t.count sep + 1 := by
  induction t
  case nil => rfl
  case cons c t ih =>
    rw [List.splitOn_cons_eq_if_modifyHead, List.count_cons]
    split <;> simp [ih]

theorem join_append_cons (sep x y : Text) (parts : List Text) :
    join sep ((x ++ y) :: parts) = x ++ join sep (y :: parts) := by
  cases parts
  case nil => simp [join]
  case cons =>
    rw [join, join, List.intercalate_cons_of_ne_nil (List.cons_ne_nil _ _),
      List.intercalate_cons_of_ne_nil (List.cons_ne_nil _ _)]
    simp only [List.append_assoc]

-- Texts that are joined end with the last one of them.
theorem exists_join_concat (sep : Text) (parts : List Text) :
    ∃ front, ∀ last, join sep (parts ++ [last]) = front ++ last := by
  induction parts
  case nil => exact ⟨[], fun last => by simp [join]⟩
  case cons part parts ih =>
    obtain ⟨front, h⟩ := ih
    refine ⟨part ++ sep ++ front, fun last => ?_⟩
    have hne : parts ++ [last] ≠ [] := by simp
    rw [join, List.cons_append, List.intercalate_cons_of_ne_nil hne, ← join, h last]
    simp only [List.append_assoc]

theorem join_concat_append (sep x y : Text) (parts : List Text) :
    join sep (parts ++ [x ++ y]) = join sep (parts ++ [x]) ++ y := by
  obtain ⟨front, h⟩ := exists_join_concat sep parts
  rw [h, h, List.append_assoc]

end Text

namespace Script

open Json (Blank)

theorem mem_padding_iff : c ∈ padding ↔ isPadding c = true := by
  simp [padding, Text.ofString, isPadding, Code.is_iff, or_assoc]

theorem not_mem_padding_iff : c ∉ padding ↔ isPadding c = false := by
  rw [mem_padding_iff, Bool.not_eq_true]

theorem line_iff : Line written line ↔ Code.char '\n' ∉ written ∧ written.strip isPadding = line := by
  rw [Text.strip_eq_iff]
  simp only [← not_mem_padding_iff, ← mem_padding_iff]
  constructor
  case mp =>
    rintro @⟨a, _, b, before, bare, after⟩
    refine ⟨?_, a, b, rfl, before, after, bare.first, bare.last⟩
    have feed : Code.char '\n' ∉ padding := by decide
    simp only [List.mem_append, not_or]
    exact ⟨⟨fun mem => feed (before mem), bare.whole⟩, fun mem => feed (after mem)⟩
  case mpr =>
    rintro ⟨whole, a, b, rfl, before, after, first, last⟩
    simp only [List.mem_append, not_or] at whole
    exact .padded before ⟨whole.left.right, first, last⟩ after

theorem forall₂_line_iff : List.Forall₂ Line written body ↔
    (∀ w ∈ written, Code.char '\n' ∉ w) ∧ written.map (Text.strip isPadding) = body := by
  induction written generalizing body
  case nil =>
    rw [List.forall₂_nil_left_iff, List.map_nil, eq_comm]
    exact ⟨fun h => ⟨nofun, h⟩, And.right⟩
  case cons w written ih =>
    rw [List.forall₂_cons_left_iff, List.forall_mem_cons, List.map_cons]
    constructor
    case mp =>
      rintro ⟨line, body, hl, others, rfl⟩
      obtain ⟨whole, rfl⟩ := line_iff.mp hl
      obtain ⟨wholes, rfl⟩ := ih.mp others
      exact ⟨⟨whole, wholes⟩, rfl⟩
    case mpr =>
      rintro ⟨⟨whole, wholes⟩, rfl⟩
      exact ⟨_, _, line_iff.mpr ⟨whole, rfl⟩, ih.mpr ⟨wholes, rfl⟩, rfl⟩

theorem bare_prologue : Bare prologue where
  whole := by decide
  first := by decide
  last  := by decide

theorem bare_epilogue : Bare epilogue where
  whole := by decide
  first := by decide
  last  := by decide

theorem Bare.line (h : Bare l) : Line l l := by
  have padded := Line.padded (List.nil_subset _) h (List.nil_subset _)
  rwa [List.nil_append, List.append_nil] at padded

-- Bare lines are the lines of their script.
theorem laid_join (h : ∀ line ∈ body, Bare line) :
    Laid (Text.join "\n" (prologue :: body ++ [epilogue])) body := by
  have same : List.Forall₂ Line body body := List.forall₂_same.mpr fun line hl => (h line hl).line
  have laid := Laid.between Json.blank_nil (List.nil_subset _) same (List.nil_subset _) Json.blank_nil
  rwa [List.append_nil, List.append_nil, List.nil_append, List.nil_append] at laid

theorem bare_statement (hk : Code.char '\n' ∉ key) (hv : Code.char '\n' ∉ value) :
    Bare (statement key value) where
  whole := by
    simp only [statement, List.mem_append, hk, hv, or_false, not_or]
    decide
  first := by
    rintro _ ⟨⟩
    decide
  last := by
    rw [statement, List.getLast?_append]
    rintro _ ⟨⟩
    decide

theorem mem_spaces_iff : c ∈ Json.spaces ↔ (isPadding c || c.is '\n') = true := by
  rw [Json.mem_spaces_iff, Json.isSpace, isPadding]
  simp only [Bool.or_eq_true]
  tauto

theorem padding_subset_spaces : padding ⊆ Json.spaces := by
  decide

-- Around the first and the last line there is nothing left.
theorem strip_laid (hbefore : Blank before) (hafter : Blank after) (parts : List Text) (a b : Text) :
    (before ++ Text.join "\n" ((prologue ++ a) :: parts ++ [b ++ epilogue]) ++ after).strip
      (fun c => isPadding c || c.is '\n') = Text.join "\n" ((prologue ++ a) :: parts ++ [b ++ epilogue]) := by
  refine Text.strip_eq_iff.mpr ⟨before, after, rfl, ?before, ?after, ?first, ?last⟩
  case before => exact fun c hc => mem_spaces_iff.mp (hbefore c hc)
  case after => exact fun c hc => mem_spaces_iff.mp (hafter c hc)
  case first =>
    rw [List.cons_append, Text.join_append_cons]
    rintro _ ⟨⟩
    rfl
  case last =>
    obtain ⟨front, h⟩ := Text.exists_join_concat "\n" ((prologue ++ a) :: parts)
    rw [h, ← List.append_assoc, List.getLast?_append]
    rintro _ ⟨⟩
    rfl

-- Cutting a script up gives the lines that it is laid out as.
theorem laid_iff : Laid t body ↔ lines t = prologue :: body ++ [epilogue] := by
  constructor
  case mp =>
    rintro @⟨before, a, written, body, b, after, hbefore, ha, hwritten, hb, hafter⟩
    have first : Line (prologue ++ a) prologue := .padded (List.nil_subset _) bare_prologue ha
    have last : Line (b ++ epilogue ++ []) epilogue := .padded hb bare_epilogue (List.nil_subset _)
    rw [List.append_nil] at last
    have all : List.Forall₂ Line ((prologue ++ a) :: written ++ [b ++ epilogue])
        (prologue :: body ++ [epilogue]) := List.rel_append (.cons first hwritten) (.cons last .nil)
    obtain ⟨whole, stripped⟩ := forall₂_line_iff.mp all
    have cut : (Text.join "\n" ((prologue ++ a) :: written ++ [b ++ epilogue])).splitOn (Code.char '\n') = _ :=
      List.splitOn_intercalate _ whole (by simp)
    rw [lines, strip_laid hbefore hafter, cut, stripped]
  case mpr =>
    intro h
    generalize inside : t.strip (fun c => isPadding c || c.is '\n') = u
    rw [lines, inside] at h
    obtain ⟨before, after, rfl, hbefore, hafter, -⟩ := Text.strip_eq_iff.mp inside
    simp only [← mem_spaces_iff] at hbefore hafter
    obtain ⟨front, back, split, hfront, hback⟩ := List.map_eq_append_iff.mp h
    obtain ⟨first, written, rfl, hfirst, hwritten⟩ := List.map_eq_cons_iff.mp hfront
    obtain ⟨last, rfl, hlast⟩ := List.map_eq_singleton_iff.mp hback
    have whole : ∀ w ∈ u.splitOn (Code.char '\n'), Code.char '\n' ∉ w := fun _ => Text.not_mem_of_mem_splitOn
    have joined : Text.join "\n" (u.splitOn (Code.char '\n')) = u := List.intercalate_splitOn _
    rw [split] at whole joined
    have between : List.Forall₂ Line written body :=
      forall₂_line_iff.mpr ⟨fun w hw => whole w (by simp [hw]), hwritten⟩
    -- What goes away in front of the first line and behind the last one goes with the blanks there.
    obtain ⟨a₀, a, rfl, ha₀, ha, -⟩ := Text.strip_eq_iff.mp hfirst
    obtain ⟨b, b₀, rfl, hb, hb₀, -⟩ := Text.strip_eq_iff.mp hlast
    simp only [← mem_padding_iff] at ha₀ ha hb hb₀
    have front : Blank (before ++ a₀) :=
      List.forall_mem_append.mpr ⟨hbefore, fun c hc => padding_subset_spaces (ha₀ c hc)⟩
    have back : Blank (b₀ ++ after) :=
      List.forall_mem_append.mpr ⟨fun c hc => padding_subset_spaces (hb₀ c hc), hafter⟩
    have laid := Laid.between front ha between hb back
    rw [← joined, Text.join_concat_append, List.append_assoc a₀, List.cons_append, Text.join_append_cons]
    simpa only [List.append_assoc, List.cons_append] using laid

-- There is one way to lay a script out.
theorem Laid.unique (h : Laid t body) (h' : Laid t body') : body = body' := by
  have same := (laid_iff.mp h).symm.trans (laid_iff.mp h')
  exact (List.cons_eq_cons.mp (List.append_cancel_right same)).right

end Script
end TraitCatalog

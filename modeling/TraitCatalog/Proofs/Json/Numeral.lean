import TraitCatalog.Proofs.Json.Grammar
import TraitCatalog.Proofs.Json.Quoted

namespace TraitCatalog

theorem forall_mem_concat {P : α → Prop} {front : List α} :
    (∀ a ∈ front ++ [last], P a) ↔ (∀ a ∈ front, P a) ∧ P last := by
  rw [List.forall_mem_append, List.forall_mem_singleton]

namespace Json

theorem mem_decimals_iff : c ∈ decimals ↔ c.isDigit = true := by
  constructor
  case mp =>
    have all : ∀ c ∈ decimals, c.isDigit = true := by decide
    exact all c
  case mpr =>
    have digit : ∀ i < 10, Code.ofNat (0x30 + i) ∈ decimals := by decide
    intro h
    obtain ⟨n, h⟩ := Option.isSome_iff_exists.mp h
    obtain ⟨range, -⟩ := Option.ite_none_right_eq_some.mp h
    obtain ⟨i, hi⟩ := Nat.exists_eq_add_of_le range.left
    rw [← c.ofNat_toNat, hi]
    exact digit i (by omega)

theorem not_mem_decimals_iff : c ∉ decimals ↔ c.isDigit = false := by
  rw [mem_decimals_iff, Bool.not_eq_true]

theorem Digits.all (h : Digits d) : ∀ c ∈ d, c.isDigit = true :=
  fun c hc => mem_decimals_iff.mp (h.right c hc)

theorem digits_singleton (h : c.isDigit = true) : Digits [c] :=
  ⟨List.cons_ne_nil _ _, List.forall_mem_singleton.mpr (mem_decimals_iff.mpr h)⟩

theorem Digits.concat (h : Digits d) (hc : c.isDigit = true) : Digits (d ++ [c]) :=
  ⟨List.concat_ne_nil c d, forall_mem_concat.mpr ⟨h.right, mem_decimals_iff.mpr hc⟩⟩

theorem whole_zero : Whole [.char '0'] :=
  ⟨digits_singleton rfl, fun _ => rfl⟩

theorem whole_singleton (h : c.isDigit = true) : Whole [c] :=
  ⟨digits_singleton h, fun head => congrArg (fun b => [b]) (Option.some.inj head)⟩

theorem Whole.concat (h : Whole d) (hd : d ≠ [.char '0']) (hc : c.isDigit = true) : Whole (d ++ [c]) := by
  refine ⟨h.left.concat hc, fun head => ?_⟩
  rw [List.head?_append, Option.or_of_isSome (List.isSome_head?.mpr h.left.left)] at head
  exact absurd (h.right head) hd

theorem isMark_iff : isMark c = true ↔ c = .char 'e' ∨ c = .char 'E' := by
  rw [isMark, Bool.or_eq_true, Code.is_iff, Code.is_iff]

theorem isDigit_of_isMark (h : isMark c = true) : c.isDigit = false := by
  obtain rfl | rfl := isMark_iff.mp h <;> rfl

theorem is_eq_false_of_isDigit {c : Code} (h : c.isDigit = true) (hd : (Code.char d).isDigit = false) :
    c.is d = false := by
  by_contra same
  rw [Bool.not_eq_false, Code.is_iff] at same
  rw [same, hd] at h
  cases h

namespace Number

-- How far the reader is behind the digits of a whole number.
def ofWhole (negative : Bool) (d : Text) : Number :=
  if d = [.char '0'] then zero negative else whole negative d.reverse

theorem ofWhole_of_ne (h : d ≠ [.char '0']) (s : Bool) : ofWhole s d = whole s d.reverse :=
  if_neg h

-- How far the reader is in a number behind the text `w` of it.
inductive Begun : (w : Text) → Number → Prop
  | sign     : Begun [.char '-'] sign
  | whole    : Whole d → Begun (minus s ++ d) (ofWhole s d)
  | point    : Whole d → Begun (minus s ++ d ++ [.char '.']) (point s d.reverse)
  | fraction : Whole d → Digits places →
    Begun (minus s ++ d ++ .char '.' :: places) (fraction s d.reverse places.reverse)
  | mark     : Whole d → Fraction f places → isMark e = true →
    Begun (minus s ++ d ++ f ++ [e]) (mark s d.reverse places.reverse)
  | markSign : Whole d → Fraction f places → isMark e = true →
    Begun (minus s ++ d ++ f ++ [e, .char (if b then '-' else '+')])
      (markSign s d.reverse places.reverse b)
  | exponent : Whole d → Fraction f places → Mark m below → Digits power →
    Begun (minus s ++ d ++ f ++ m ++ power) (exponent s d.reverse places.reverse below power.reverse)

theorem Begun.eq_of_sign (h : Begun w .sign) : w = [.char '-'] := by
  generalize hn : Number.sign = n at h
  cases h
  case sign => rfl
  case whole =>
    unfold ofWhole at hn
    split at hn <;> cases hn
  all_goals cases hn

theorem begun_start {c : Code} (h : start? c = some n) : Begun [c] n := by
  unfold start? at h
  split at h
  case isTrue minus =>
    cases h
    rw [Code.is_iff.mp minus]
    exact .sign
  case isFalse =>
    split at h
    case isTrue zero =>
      cases h
      rw [Code.is_iff.mp zero]
      exact Begun.whole (s := false) whole_zero
    case isFalse zero =>
      split at h
      case isTrue digit =>
        cases h
        have other : [c] ≠ [.char '0'] := by simpa [Code.is] using zero
        have begun := Begun.whole (s := false) (whole_singleton digit)
        rwa [ofWhole_of_ne other] at begun
      case isFalse => cases h

theorem Begun.extend_whole (h : Whole d) (he : (ofWhole s d).extend? c = some n) :
    Begun (minus s ++ d ++ [c]) n := by
  have later (he : (if c.is '.' then some (.point s d.reverse)
      else if isMark c then some (.mark s d.reverse []) else none) = some n) :
      Begun (minus s ++ d ++ [c]) n := by
    split at he
    case isTrue point =>
      cases he
      rw [Code.is_iff.mp point]
      exact .point h
    case isFalse =>
      split at he
      case isTrue mark =>
        cases he
        have begun := Begun.mark (s := s) h .none mark
        rwa [List.append_nil] at begun
      case isFalse => cases he
  by_cases zero : d = [.char '0']
  case pos =>
    subst zero
    exact later he
  case neg =>
    rw [ofWhole_of_ne zero] at he
    by_cases digit : c.isDigit = true
    case pos =>
      have longer : d ++ [c] ≠ [.char '0'] := by
        intro same
        have short := congrArg List.length same
        rw [List.length_append] at short
        exact h.left.left (List.length_eq_zero_iff.mp (Nat.succ.inj short))
      have begun := Begun.whole (s := s) (h.concat zero digit)
      rw [ofWhole_of_ne longer, List.reverse_concat] at begun
      rw [extend?, if_pos digit] at he
      cases he
      rwa [List.append_assoc]
    case neg =>
      rw [extend?, if_neg digit] at he
      exact later he

theorem Begun.extend (h : Begun w n) (he : n.extend? c = some n') : Begun (w ++ [c]) n' := by
  cases h
  case sign =>
    rw [extend?] at he
    split at he
    case isTrue zero =>
      cases he
      rw [Code.is_iff.mp zero]
      exact Begun.whole (s := true) whole_zero
    case isFalse zero =>
      split at he
      case isTrue digit =>
        cases he
        have other : [c] ≠ [.char '0'] := by simpa [Code.is] using zero
        have begun := Begun.whole (s := true) (whole_singleton digit)
        rwa [ofWhole_of_ne other] at begun
      case isFalse => cases he
  case whole h => exact extend_whole h he
  case point d s h =>
    obtain ⟨digit, he⟩ := Option.ite_none_right_eq_some.mp he
    cases he
    rw [List.append_assoc]
    exact .fraction h (digits_singleton digit)
  case fraction d places s h hp =>
    rw [extend?] at he
    split at he
    case isTrue digit =>
      cases he
      have begun := Begun.fraction (s := s) h (hp.concat digit)
      rwa [List.reverse_concat, ← List.cons_append, ← List.append_assoc] at begun
    case isFalse =>
      obtain ⟨mark, he⟩ := Option.ite_none_right_eq_some.mp he
      cases he
      exact .mark h (.point hp) mark
  case mark d f places e s h hf mark =>
    rw [extend?] at he
    split at he
    case isTrue digit =>
      cases he
      exact .exponent h hf (.bare mark) (digits_singleton digit)
    case isFalse =>
      split at he
      case isTrue plus =>
        cases he
        rw [Code.is_iff.mp plus, List.append_assoc]
        exact Begun.markSign (b := false) h hf mark
      case isFalse =>
        obtain ⟨minus, he⟩ := Option.ite_none_right_eq_some.mp he
        cases he
        rw [Code.is_iff.mp minus, List.append_assoc]
        exact Begun.markSign (b := true) h hf mark
  case markSign d f places e s b h hf mark =>
    obtain ⟨digit, he⟩ := Option.ite_none_right_eq_some.mp he
    cases he
    cases b
    case false => exact .exponent h hf (.plus mark) (digits_singleton digit)
    case true  => exact .exponent h hf (.minus mark) (digits_singleton digit)
  case exponent d f places m below power s h hf hm hp =>
    obtain ⟨digit, he⟩ := Option.ite_none_right_eq_some.mp he
    cases he
    have begun := Begun.exponent (s := s) h hf hm (hp.concat digit)
    rwa [List.reverse_concat, ← List.append_assoc] at begun

-- The number takes in the text `w` and is then as far as `n'`.
def Grows (n : Number) (w : Text) (n' : Number) : Prop :=
  w.foldlM extend? n = some n'

theorem Grows.nil : Grows n [] n :=
  rfl

theorem Grows.cons (h : n.extend? c = some n₁) (others : Grows n₁ w n₂) : Grows n (c :: w) n₂ := by
  unfold Grows at *
  rw [List.foldlM_cons, h]
  exact others

theorem Grows.append (h₁ : Grows n v n₁) (h₂ : Grows n₁ w n₂) : Grows n (v ++ w) n₂ := by
  unfold Grows at *
  rw [List.foldlM_append, h₁]
  exact h₂

-- Digits are put in front of the ones before them.
theorem grows_digits {f : Text → Number} (one : ∀ c front, c.isDigit = true →
    (f front).extend? c = some (f (c :: front))) (h : ∀ c ∈ d, c.isDigit = true) (front : Text) :
    Grows (f front) d (f (d.reverse ++ front)) := by
  induction d generalizing front
  case nil => exact .nil
  case cons c d ih =>
    rw [List.forall_mem_cons] at h
    rw [List.reverse_cons, List.append_assoc]
    exact .cons (one c front h.left) (ih h.right (c :: front))

-- The first digit may also lead on from another place.
theorem grows_of_digits {f : Text → Number} (h : Digits d)
    (first : ∀ c, c.isDigit = true → n.extend? c = some (f [c]))
    (one : ∀ c front, c.isDigit = true → (f front).extend? c = some (f (c :: front))) :
    Grows n d (f d.reverse) := by
  obtain ⟨c, v, rfl⟩ := List.exists_cons_of_ne_nil h.left
  obtain ⟨digit, digits⟩ := List.forall_mem_cons.mp h.all
  have others := grows_digits one digits [c]
  rw [← List.reverse_cons] at others
  exact .cons (first c digit) others

-- The reader of numbers takes in the text `w` from its start.
def Takes (w : Text) (n : Number) : Prop :=
  ∃ c v n₁, w = c :: v ∧ start? c = some n₁ ∧ Grows n₁ v n

theorem Takes.append (h : Takes w n) (others : Grows n v n') : Takes (w ++ v) n' := by
  obtain ⟨c, w, n₁, rfl, start, first⟩ := h
  exact ⟨c, w ++ v, n₁, rfl, start, first.append others⟩

theorem start?_of_digit (h : c.isDigit = true) (zero : c ≠ .char '0') :
    start? c = some (whole false [c]) := by
  have minus : c.is '-' = false := is_eq_false_of_isDigit h rfl
  have other : c.is '0' = false := by simpa [Code.is] using zero
  simp [start?, minus, other, h]

theorem takes_whole (h : Whole d) (s : Bool) : Takes (minus s ++ d) (ofWhole s d) := by
  by_cases zero : d = [.char '0']
  case pos =>
    subst zero
    cases s
    case false => exact ⟨_, _, _, rfl, rfl, .nil⟩
    case true  => exact ⟨_, _, _, rfl, rfl, .cons rfl .nil⟩
  case neg =>
    rw [ofWhole_of_ne zero]
    obtain ⟨c, v, rfl⟩ := List.exists_cons_of_ne_nil h.left.left
    obtain ⟨digit, digits⟩ := List.forall_mem_cons.mp h.left.all
    have other : c ≠ .char '0' := fun same => zero (h.right (congrArg some same))
    have others := grows_digits (f := whole s) (fun _ _ digit => if_pos digit) digits [c]
    rw [← List.reverse_cons] at others
    cases s
    case false => exact ⟨_, _, _, rfl, start?_of_digit digit other, others⟩
    case true =>
      have hz : c.is '0' = false := by simpa [Code.is] using other
      have first : sign.extend? c = some (whole true [c]) := by simp [extend?, hz, digit]
      exact ⟨_, _, _, rfl, rfl, .cons first others⟩

theorem extend?_point (s : Bool) (d : Text) : (ofWhole s d).extend? (.char '.') = some (point s d.reverse)
    := by
  unfold ofWhole
  split
  case isTrue zero => exact zero ▸ rfl
  case isFalse => rfl

theorem extend?_mark (h : isMark e = true) (s : Bool) (d : Text) :
    (ofWhole s d).extend? e = some (mark s d.reverse []) := by
  have digit := isDigit_of_isMark h
  have point : e.is '.' = false := by obtain rfl | rfl := isMark_iff.mp h <;> rfl
  unfold isMark at h
  unfold ofWhole
  split
  case isTrue zero =>
    subst zero
    simp only [extend?, point, h, if_true]
    rfl
  case isFalse => simp [extend?, digit, point, h]

theorem takes_fraction (h : Whole d) (hp : Digits places) (s : Bool) :
    Takes (minus s ++ d ++ .char '.' :: places) (fraction s d.reverse places.reverse) := by
  have grows : Grows (point s d.reverse) places (fraction s d.reverse places.reverse) :=
    grows_of_digits hp (fun _ digit => if_pos digit) (fun _ _ digit => if_pos digit)
  exact (takes_whole h s).append (.cons (extend?_point s d) grows)

theorem takes_mark (h : Whole d) (hf : Fraction f places) (mark : isMark e = true) (s : Bool) :
    Takes (minus s ++ d ++ f ++ [e]) (.mark s d.reverse places.reverse) := by
  cases hf
  case none =>
    rw [List.append_nil]
    exact (takes_whole h s).append (.cons (extend?_mark mark s d) .nil)
  case point hp =>
    refine (takes_fraction h hp s).append (.cons ?_ .nil)
    have digit := isDigit_of_isMark mark
    unfold isMark at mark
    simp [extend?, digit, mark]

theorem takes_markSign (h : Whole d) (hf : Fraction f places) (mark : isMark e = true) (s b : Bool) :
    Takes (minus s ++ d ++ f ++ [e, .char (if b then '-' else '+')])
      (markSign s d.reverse places.reverse b) := by
  have sign : (Number.mark s d.reverse places.reverse).extend? (.char (if b then '-' else '+')) =
      some (markSign s d.reverse places.reverse b) := by
    cases b <;> rfl
  have all := (takes_mark h hf mark s).append (.cons sign .nil)
  rwa [List.append_assoc] at all

theorem takes_exponent (h : Whole d) (hf : Fraction f places) (hm : Mark m b) (hp : Digits power)
    (s : Bool) : Takes (minus s ++ d ++ f ++ m ++ power)
      (exponent s d.reverse places.reverse b power.reverse) := by
  have grows {n : Number} (first : ∀ c : Code, c.isDigit = true →
      n.extend? c = some (exponent s d.reverse places.reverse b [c])) :
      Grows n power (exponent s d.reverse places.reverse b power.reverse) :=
    grows_of_digits hp first fun _ _ digit => if_pos digit
  cases hm
  case bare mark  => exact (takes_mark h hf mark s).append (grows fun _ digit => if_pos digit)
  case plus mark  => exact (takes_markSign h hf mark s false).append (grows fun _ digit => if_pos digit)
  case minus mark => exact (takes_markSign h hf mark s true).append (grows fun _ digit => if_pos digit)

theorem Begun.takes (h : Begun w n) : Takes w n := by
  cases h
  case sign                  => exact ⟨_, _, _, rfl, rfl, .nil⟩
  case whole d s h           => exact takes_whole h s
  case point d s h           => exact (takes_whole h s).append (.cons (extend?_point s d) .nil)
  case fraction s h hp       => exact takes_fraction h hp s
  case mark s h hf mark      => exact takes_mark h hf mark s
  case markSign s b h hf mark => exact takes_markSign h hf mark s b
  case exponent s h hf hm hp => exact takes_exponent h hf hm hp s

theorem readInteger_reverse (s : Bool) (d : Text) : readInteger s d.reverse =
    if Limit.mostDigits < d.length then .error (.beyond .digits)
    else .ok (if s then -(Text.decimalValue d : Int) else Text.decimalValue d) := by
  rw [readInteger, List.length_reverse, List.reverse_reverse]

theorem value_ofWhole (s : Bool) (d : Text) : (ofWhole s d).value =
    if Limit.mostDigits < d.length then .error (.beyond .digits)
    else .ok (.int (if s then -(Text.decimalValue d : Int) else Text.decimalValue d)) := by
  by_cases zero : d = [.char '0']
  case pos =>
    subst zero
    cases s <;> rfl
  case neg =>
    rw [ofWhole_of_ne zero, value, readInteger_reverse]
    split <;> rfl

theorem value_point (s : Bool) (d : Text) : (point s d.reverse).value =
    if Limit.mostDigits < d.length then .error (.beyond .digits) else .error .malformed := by
  rw [value, readInteger_reverse]
  split <;> rfl

theorem broken_reverse (s : Bool) (d places : Text) : value.broken s d.reverse places.reverse =
    if places = [] ∧ Limit.mostDigits < d.length then .error (.beyond .digits) else .error .malformed := by
  unfold value.broken
  rw [readInteger_reverse]
  cases places
  case nil =>
    simp only [List.reverse_nil, List.isEmpty_nil, if_true, true_and]
    split <;> rfl
  case cons => simp

theorem float_reverse (s : Bool) (d places : Text) (power : Int) : float s d.reverse places.reverse power =
    .float (Double.ofDecimal s (Text.decimalValue (d ++ places)) (power - places.length)) := by
  rw [float, List.length_reverse, List.reverse_reverse, List.reverse_reverse]

-- A number has no other value than the grammar has for its text.
theorem Begun.numeral (h : Begun w n) (hv : n.value = .ok v) : Numeral w v := by
  cases h
  case sign => cases hv
  case whole d s h =>
    rw [value_ofWhole] at hv
    split at hv
    case isTrue => cases hv
    case isFalse few =>
      cases hv
      exact .int h (Nat.le_of_not_lt few)
  case point d s h =>
    rw [value_point] at hv
    split at hv <;> cases hv
  case fraction d places s h hp =>
    rw [value, float_reverse, Int.zero_sub] at hv
    cases hv
    exact .fraction h hp
  case mark d f places e s h hf mark =>
    rw [value, broken_reverse] at hv
    split at hv <;> cases hv
  case markSign d f places e s b h hf mark =>
    rw [value, broken_reverse] at hv
    split at hv <;> cases hv
  case exponent d f places m b power s h hf hm hp =>
    rw [value, float_reverse, List.reverse_reverse] at hv
    cases hv
    rw [List.append_assoc]
    exact .exponent h hf (.mark hm hp)

theorem exists_begun (h : Numeral w v) : ∃ n, Begun w n ∧ n.value = .ok v := by
  cases h
  case int d s h few =>
    refine ⟨_, .whole h, ?_⟩
    rw [value_ofWhole, if_neg (Nat.not_lt.mpr few)]
  case fraction d places s h hp =>
    refine ⟨_, .fraction h hp, ?_⟩
    rw [value, float_reverse, Int.zero_sub]
  case exponent d f places e power s h hf he =>
    cases he with | mark hm hp =>
      have begun := Begun.exponent (s := s) h hf hm hp
      rw [List.append_assoc] at begun
      refine ⟨_, begun, ?_⟩
      rw [value, float_reverse, List.reverse_reverse]

-- The number ends in front of `rest`.
def Stops (n : Number) (rest : Text) : Prop :=
  ∀ c r, rest = c :: r → n.extend? c = none

theorem Stops.not_digit {n : Number} (h : Stops n rest) (one : ∀ c, c.isDigit = true → n.extend? c ≠ none)
    (hr : rest = c :: r) : c ∉ decimals :=
  fun digit => one c (mem_decimals_iff.mp digit) (h c r hr)

theorem endsWhole_of_ofWhole (hd : d ≠ [.char '0']) (h : Stops (ofWhole s d) rest) : EndsWhole rest where
  digits := h.not_digit fun c digit => by
    rw [ofWhole_of_ne hd]
    simp [extend?, digit]
  places hr := by cases (extend?_point s d).symm.trans (h _ _ hr)
  power hm hr := by
    cases hm
    case bare mark  => cases (extend?_mark mark s d).symm.trans (h _ _ hr)
    case plus mark  => cases (extend?_mark mark s d).symm.trans (h _ _ hr)
    case minus mark => cases (extend?_mark mark s d).symm.trans (h _ _ hr)

theorem endsWhole_of_point (h : Stops (point s d) rest) : EndsWhole (.char '.' :: rest) where
  digits hr := by
    cases hr
    decide
  places hr := by
    obtain ⟨-, hr⟩ := List.cons_eq_cons.mp hr
    exact h.not_digit (fun c digit => by simp [extend?, digit]) hr
  power hm hr := by
    cases hm
    all_goals
      obtain ⟨rfl, -⟩ := List.cons_eq_cons.mp hr
      contradiction

theorem endsWhole_of_mark (mark : isMark e = true) (h : Stops (.mark s d places) rest) :
    EndsWhole (e :: rest) where
  digits hr := by
    obtain ⟨rfl, -⟩ := List.cons_eq_cons.mp hr
    exact not_mem_decimals_iff.mpr (isDigit_of_isMark mark)
  places hr := by
    obtain ⟨rfl, -⟩ := List.cons_eq_cons.mp hr
    cases mark
  power hm hr := by
    cases hm
    case bare =>
      obtain ⟨-, hr⟩ := List.cons_eq_cons.mp hr
      exact h.not_digit (fun c digit => by simp [extend?, digit]) hr
    case plus =>
      obtain ⟨-, hr⟩ := List.cons_eq_cons.mp hr
      cases h _ _ hr
    case minus =>
      obtain ⟨-, hr⟩ := List.cons_eq_cons.mp hr
      cases h _ _ hr

theorem endsWhole_of_markSign (mark : isMark e = true) (h : Stops (markSign s d places b) rest) :
    EndsWhole (e :: .char (if b then '-' else '+') :: rest) where
  digits hr := by
    obtain ⟨rfl, -⟩ := List.cons_eq_cons.mp hr
    exact not_mem_decimals_iff.mpr (isDigit_of_isMark mark)
  places hr := by
    obtain ⟨rfl, -⟩ := List.cons_eq_cons.mp hr
    cases mark
  power hm hr := by
    cases hm
    case bare =>
      obtain ⟨-, hr⟩ := List.cons_eq_cons.mp hr
      obtain ⟨rfl, -⟩ := List.cons_eq_cons.mp hr
      cases b <;> decide
    case plus =>
      obtain ⟨-, hr⟩ := List.cons_eq_cons.mp hr
      obtain ⟨-, hr⟩ := List.cons_eq_cons.mp hr
      exact h.not_digit (fun c digit => by simp [extend?, digit]) hr
    case minus =>
      obtain ⟨-, hr⟩ := List.cons_eq_cons.mp hr
      obtain ⟨-, hr⟩ := List.cons_eq_cons.mp hr
      exact h.not_digit (fun c digit => by simp [extend?, digit]) hr

-- Only whole numbers have too many digits, also where they break off behind a point or a mark.
theorem Begun.endsWhole (h : Begun w n) (hv : n.value = .error (.beyond l)) (stops : Stops n rest) :
    l = .digits ∧ ∃ s d tail, w = minus s ++ d ++ tail ∧ Whole d ∧ Limit.mostDigits < d.length ∧
      EndsWhole (tail ++ rest) := by
  cases h
  case sign => cases hv
  case whole d s h =>
    rw [value_ofWhole] at hv
    split at hv
    case isTrue many =>
      cases hv
      have long : d ≠ [.char '0'] := by
        rintro rfl
        exact absurd many (by decide)
      exact ⟨rfl, s, d, [], (List.append_nil _).symm, h, many, endsWhole_of_ofWhole long stops⟩
    case isFalse => cases hv
  case point d s h =>
    rw [value_point] at hv
    split at hv
    case isTrue many =>
      cases hv
      exact ⟨rfl, s, d, _, rfl, h, many, endsWhole_of_point stops⟩
    case isFalse => cases hv
  case fraction => cases hv
  case mark d f places e s h hf mark =>
    rw [value, broken_reverse] at hv
    split at hv
    case isTrue many =>
      cases hv
      obtain ⟨rfl, many⟩ := many
      cases hf
      case none => exact ⟨rfl, s, d, [e], by simp, h, many, endsWhole_of_mark mark stops⟩
      case point hp => exact absurd rfl hp.left
    case isFalse => cases hv
  case markSign d f places e s b h hf mark =>
    rw [value, broken_reverse] at hv
    split at hv
    case isTrue many =>
      cases hv
      obtain ⟨rfl, many⟩ := many
      cases hf
      case none =>
        exact ⟨rfl, s, d, [e, .char (if b then '-' else '+')], by simp, h, many,
          endsWhole_of_markSign mark stops⟩
      case point hp => exact absurd rfl hp.left
    case isFalse => cases hv
  case exponent => cases hv

theorem stops_ofWhole (digit : c ∉ decimals) (point : c ≠ .char '.') (mark : ¬isMark c = true)
    (s : Bool) (d : Text) : Stops (ofWhole s d) (c :: rest) := by
  rintro _ _ ⟨⟩
  have hp : c.is '.' = false := by simpa [Code.is] using point
  unfold isMark at mark
  unfold ofWhole
  rw [not_mem_decimals_iff] at digit
  split <;> simp [extend?, digit, hp, mark]

theorem stops_point (ends : EndsWhole (.char '.' :: rest)) (s : Bool) (d : Text) : Stops (point s d) rest := by
  rintro c r rfl
  simp [extend?, not_mem_decimals_iff.mp (ends.places rfl)]

theorem stops_markSign (mark : isMark e = true) (ends : EndsWhole (e :: .char (if b then '-' else '+') :: rest))
    (s : Bool) (d places : Text) : Stops (markSign s d places b) rest := by
  have marked : Mark [e, .char (if b then '-' else '+')] b := by
    cases b
    case false => exact .plus mark
    case true  => exact .minus mark
  rintro c r rfl
  simp [extend?, not_mem_decimals_iff.mp (ends.power marked rfl)]

theorem stops_mark (mark : isMark e = true) (ends : EndsWhole (e :: rest))
    (unsigned : ∀ b : Bool, ∀ r, rest ≠ .char (if b then '-' else '+') :: r) (s : Bool) (d places : Text) :
    Stops (.mark s d places) rest := by
  rintro c r rfl
  have plus : c.is '+' = false := by
    by_contra plus
    rw [Bool.not_eq_false, Code.is_iff] at plus
    exact unsigned false r (plus ▸ rfl)
  have minus : c.is '-' = false := by
    by_contra minus
    rw [Bool.not_eq_false, Code.is_iff] at minus
    exact unsigned true r (minus ▸ rfl)
  simp [extend?, not_mem_decimals_iff.mp (ends.power (.bare mark) rfl), plus, minus]

-- A whole number with too many digits ends somewhere behind them, where nothing makes another number of it.
theorem exists_begun_of_endsWhole (ends : EndsWhole rest) (h : Whole d) (many : Limit.mostDigits < d.length)
    (s : Bool) : ∃ tail rest' n, rest = tail ++ rest' ∧ Begun (minus s ++ d ++ tail) n ∧
      n.value = .error (.beyond .digits) ∧ Stops n rest' := by
  have digits : (ofWhole s d).value = .error (.beyond .digits) := by rw [value_ofWhole, if_pos many]
  have broken : value.broken s d.reverse [] = .error (.beyond .digits) :=
    (broken_reverse s d []).trans (if_pos ⟨rfl, many⟩)
  have begun : Begun (minus s ++ d ++ []) (ofWhole s d) := by
    rw [List.append_nil]
    exact .whole h
  cases rest
  case nil => exact ⟨[], [], _, rfl, begun, digits, nofun⟩
  case cons c rest =>
    by_cases point : c = .char '.'
    case pos =>
      subst point
      have value := (value_point s d).trans (if_pos many)
      exact ⟨[_], rest, _, rfl, .point h, value, stops_point ends s _⟩
    case neg =>
      by_cases mark : isMark c = true
      case neg => exact ⟨[], _, _, rfl, begun, digits, stops_ofWhole (ends.digits rfl) point mark s d⟩
      case pos =>
        by_cases sign : ∃ b : Bool, ∃ r, rest = .char (if b then '-' else '+') :: r
        case pos =>
          obtain ⟨b, rest, rfl⟩ := sign
          have begun := Begun.markSign (s := s) (b := b) h .none mark
          rw [List.append_nil] at begun
          exact ⟨[c, _], rest, _, rfl, begun, broken, stops_markSign mark ends s _ _⟩
        case neg =>
          have begun := Begun.mark (s := s) h .none mark
          rw [List.append_nil] at begun
          have unsigned (b : Bool) (r : Text) (same : rest = .char (if b then '-' else '+') :: r) :=
            sign ⟨b, r, same⟩
          exact ⟨[c], rest, _, rfl, begun, broken, stops_mark mark ends unsigned s _ _⟩

end Number
end Json
end TraitCatalog

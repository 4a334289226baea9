import TraitCatalog.Proofs.Json.Grammar
import TraitCatalog.Proofs.Json.Quoted

namespace TraitCatalog
namespace Json

-- The number of a code point tells which hexadecimal digit it is.
theorem hexDigit?_eq_some_iff {c : Code} : c.hexDigit? = some n ↔ HexDigit c n := by
  have digit : ∀ i < 10, ("0123456789abcdef" : Text)[i]? = some (Code.ofNat (0x30 + i)) := by decide
  have lower : ∀ i < 6, ("0123456789abcdef" : Text)[i + 10]? = some (Code.ofNat (0x61 + i)) := by decide
  have upper : ∀ i < 6, ("0123456789ABCDEF" : Text)[i + 10]? = some (Code.ofNat (0x41 + i)) := by decide
  constructor
  case mp =>
    unfold Code.hexDigit?
    intro h
    rw [← c.ofNat_toNat]
    split at h
    case isTrue range =>
      obtain ⟨i, hi⟩ := Nat.exists_eq_add_of_le range.left
      rw [hi, Nat.add_sub_cancel_left] at h
      rw [hi, ← Option.some.inj h]
      exact .lower (digit i (by omega))
    case isFalse =>
      split at h
      case isTrue range =>
        obtain ⟨i, hi⟩ := Nat.exists_eq_add_of_le range.left
        rw [hi, Nat.add_sub_cancel_left] at h
        rw [hi, ← Option.some.inj h]
        exact .upper (upper i (by omega))
      case isFalse =>
        obtain ⟨range, h⟩ := Option.ite_none_right_eq_some.mp h
        obtain ⟨i, hi⟩ := Nat.exists_eq_add_of_le range.left
        rw [hi, Nat.add_sub_cancel_left] at h
        rw [hi, ← Option.some.inj h]
        exact .lower (lower i (by omega))
  case mpr =>
    have all : ∀ digits ∈ (["0123456789abcdef", "0123456789ABCDEF"] : List Text), digits.length = 16 ∧
        ∀ n < 16, ∀ c ∈ digits[n]?, c.hexDigit? = some n := by decide
    rintro (digit | digit)
    · obtain ⟨length, digits⟩ := all _ (.head _)
      exact digits n (length ▸ (List.getElem?_eq_some_iff.mp digit).1) c digit
    · obtain ⟨length, digits⟩ := all _ (.tail _ (.head _))
      exact digits n (length ▸ (List.getElem?_eq_some_iff.mp digit).1) c digit

theorem HexDigit.unique {c : Code} (h : HexDigit c n) (h' : HexDigit c m) : n = m :=
  Option.some.inj ((hexDigit?_eq_some_iff.mpr h).symm.trans (hexDigit?_eq_some_iff.mpr h'))

theorem Escape.length_eq (h : Escape u n) : u.length = 6 := by
  cases h
  rfl

theorem Escape.unique (h : Escape u n) (h' : Escape u m) : n = m := by
  cases h with | digits ha hb hc hd =>
    cases h' with | digits ha' hb' hc' hd' =>
      rw [ha.unique ha', hb.unique hb', hc.unique hc', hd.unique hd']

theorem IsHigh.not_isLow (h : IsHigh n) : ¬IsLow n :=
  fun low => Nat.not_lt.mpr low.left h.right

-- Whether the first escape is one of a low surrogate.
theorem Escape.startsLow_append_iff (h : Escape u n) (w : Text) : StartsLow (u ++ w) ↔ IsLow n := by
  constructor
  case mp =>
    rintro ⟨v, m, rest, hv, low, same⟩
    have lengths : u.length = v.length := h.length_eq.trans hv.length_eq.symm
    obtain ⟨rfl, -⟩ := List.append_inj same lengths
    exact h.unique hv ▸ low
  case mpr => exact fun low => ⟨u, n, w, h, low, rfl⟩

theorem not_startsLow_nil : ¬StartsLow [] := by
  rintro ⟨u, m, rest, hu, -, same⟩
  cases hu
  cases same

theorem not_startsLow_of_head (h : c ≠ .char '\\') : ¬StartsLow (c :: w) := by
  rintro ⟨u, m, rest, hu, -, same⟩
  cases hu
  exact h (List.cons_eq_cons.mp same).left

theorem not_startsLow_of_letter (h : c ≠ .char 'u') : ¬StartsLow (.char '\\' :: c :: w) := by
  rintro ⟨u, m, rest, hu, -, same⟩
  cases hu
  exact h (List.cons_eq_cons.mp (List.cons_eq_cons.mp same).right).left

namespace Quoted

theorem letter?_eq_some_iff : letter? c = some d ↔ (c, d) ∈ letters := by
  constructor
  case mp =>
    unfold letter?
    intro h
    repeat' split at h
    case isTrue same =>
      cases h
      simp only [Bool.or_eq_true, Code.is_iff] at same
      obtain (rfl | rfl) | rfl := same <;> decide
    case isFalse.isFalse.isFalse.isFalse.isFalse.isFalse => cases h
    all_goals
      rename_i letter
      cases h
      rw [Code.is_iff.mp letter]
      decide
  case mpr =>
    have all : ∀ p ∈ letters, letter? p.1 = some p.2 := by decide
    exact all (c, d)
theorem ne_u_of_mem_letters (h : (c, d) ∈ letters) : c ≠ .char 'u' := by
  rintro rfl
  cases letter?_eq_some_iff.mpr h

-- The code points that are still to come for a surrogate that is held back.
def pending : Option Nat → Text
  | none      => []
  | some high => [Code.ofNat high]

theorem reverse_settle (text : Text) (held : Option Nat) :
    (settle text held).reverse = text.reverse ++ pending held := by
  cases held <;> simp [settle, pending]

theorem step_quote (text : Text) (held : Option Nat) :
    (plain text held).step (.char '"') = .ok (.inr (text.reverse ++ pending held)) := by
  rw [← reverse_settle]
  rfl

theorem step_backslash (text : Text) (held : Option Nat) :
    (plain text held).step (.char '\\') = .ok (.inl (escape text held)) := rfl

theorem step_plain (control : 0x20 ≤ c.toNat) (quote : c ≠ .char '"') (backslash : c ≠ .char '\\')
    (text : Text) (held : Option Nat) :
    (plain text held).step c = .ok (.inl (plain (c :: settle text held) none)) := by
  have hq : c.is '"' = false := by simpa [Code.is] using quote
  have hb : c.is '\\' = false := by simpa [Code.is] using backslash
  simp [step, hq, hb, Nat.not_lt.mpr control]

theorem step_letter (h : (c, d) ∈ letters) (text : Text) (held : Option Nat) :
    (escape text held).step c = .ok (.inl (plain (d :: settle text held) none)) := by
  have hu : c.is 'u' = false := by simpa [Code.is] using ne_u_of_mem_letters h
  simp [step, hu, letter?_eq_some_iff.mpr h]

-- A numbered escape as a whole.
theorem passes_escape (h : Escape u n) (text : Text) (held : Option Nat) :
    Passes (plain text held) u (named text held n) := by
  cases h with | digits ha hb hc hd =>
    rw [← hexDigit?_eq_some_iff] at ha hb hc hd
    refine .cons rfl (.cons rfl (.cons (step_hex ha) (.cons (step_hex hb) (.cons (step_hex hc)
      (.cons (step_hex hd) ?_)))))
    simp only [Nat.mul_zero, Nat.zero_add]
    exact .nil

theorem named_of_not_low (h : held = none ∨ ¬IsLow n) (text : Text) :
    named text held n = if IsHigh n then plain (settle text held) (some n)
      else plain (Code.ofNat n :: settle text held) none := by
  cases held
  case none => rfl
  case some high =>
    have other : ¬(0xDC00 ≤ n ∧ n < 0xE000) := h.resolve_left nofun
    rw [named, if_neg other]
    rfl

theorem named_of_low (h : IsLow n) (text : Text) (high : Nat) :
    named text (some high) n = plain (joinSurrogates high n :: text) none :=
  if_pos h

-- The reader passes over `w` and is then through with the text `t` at the quote.
def Takes (q : Quoted) (w t : Text) : Prop :=
  ∃ q', Passes q w q' ∧ q'.step (.char '"') = .ok (.inr t)

theorem Takes.cons (h : q.step c = .ok (.inl q₁)) (takes : Takes q₁ w t) : Takes q (c :: w) t := by
  obtain ⟨q', passes, closed⟩ := takes
  exact ⟨q', .cons h passes, closed⟩

theorem Passes.takes (h : Passes q w q₁) (takes : Takes q₁ v t) : Takes q (w ++ v) t := by
  obtain ⟨q', passes, closed⟩ := takes
  exact ⟨q', h.append passes, closed⟩

theorem takes_of_quotes (h : Quotes w t) (text : Text) (held : Option Nat)
    (free : held = none ∨ ¬StartsLow w) : Takes (plain text held) w (text.reverse ++ pending held ++ t) := by
  induction h generalizing text held
  case nil =>
    rw [List.append_nil]
    exact ⟨_, .nil, step_quote text held⟩
  case plain c w t control quote backslash _ ih =>
    have others := ih (c :: settle text held) none (.inl rfl)
    simp only [List.reverse_cons, reverse_settle, pending, List.append_nil, List.append_assoc,
      List.singleton_append] at others ⊢
    exact others.cons (step_plain control quote backslash text held)
  case letter c d w t letter _ ih =>
    have others := ih (d :: settle text held) none (.inl rfl)
    simp only [List.reverse_cons, reverse_settle, pending, List.append_nil, List.append_assoc,
      List.singleton_append] at others ⊢
    exact (others.cons (step_letter letter text held)).cons (step_backslash text held)
  case number u n w t escape free' _ ih =>
    have first := passes_escape escape text held
    rw [escape.startsLow_append_iff] at free
    rw [named_of_not_low free] at first
    split at first
    case isTrue high =>
      have others := ih (settle text held) (some n) (.inr fun low => free' ⟨high, low⟩)
      rw [reverse_settle, List.append_assoc] at others
      exact first.takes others
    case isFalse =>
      have others := ih (Code.ofNat n :: settle text held) none (.inl rfl)
      simp only [List.reverse_cons, reverse_settle, pending, List.append_nil, List.append_assoc,
        List.singleton_append] at others ⊢
      exact first.takes others
  case pair u high v low w t escape isHigh escape' isLow _ ih =>
    have first := passes_escape escape text held
    rw [named_of_not_low (.inr isHigh.not_isLow), if_pos isHigh] at first
    have second := passes_escape escape' (settle text held) (some high)
    rw [named_of_low isLow] at second
    have others := ih (joinSurrogates high low :: settle text held) none (.inl rfl)
    simp only [List.reverse_cons, reverse_settle, pending, List.append_nil, List.append_assoc,
      List.singleton_append] at others ⊢
    exact first.takes (second.takes others)

-- What is taken in behind a surrogate that is held back makes a string with the escape of it in front.
def Completes (held : Option Nat) (w t : Text) : Prop :=
  match held with
  | none      => Quotes w t
  | some high => ∀ u, Escape u high → Quotes (u ++ w) t

theorem completes_of_quotes (h : Quotes w t) (free : held = none ∨ ¬StartsLow w) :
    Completes held w (pending held ++ t) := by
  cases held
  case none => exact h
  case some high =>
    intro u escape
    exact .number escape (fun starts => free.resolve_left nofun starts.right) h

theorem Takes.exists_step (h : Takes q (c :: w) t) : ∃ q₁, q.step c = .ok (.inl q₁) ∧ Takes q₁ w t := by
  obtain ⟨q', passes, closed⟩ := h
  cases passes with | cons one others => exact ⟨_, one, q', others, closed⟩

theorem Takes.closed (h : Takes q [] t) : q.step (.char '"') = .ok (.inr t) := by
  obtain ⟨q', passes, closed⟩ := h
  cases passes
  exact closed

-- Among the digits of an escape there is always one more.
theorem Takes.exists_digit (h : Takes (hex text held count value) w t) : ∃ a i rest, w = a :: rest ∧
    HexDigit a i ∧ Takes (if count = 3 then named text held (16 * value + i)
      else hex text held (count + 1) (16 * value + i)) rest t := by
  cases w
  case nil => cases h.closed
  case cons a rest =>
    obtain ⟨q₁, one, others⟩ := h.exists_step
    cases digit : a.hexDigit?
    case none => simp [step, digit] at one
    case some i =>
      rw [step_hex digit] at one
      cases one
      exact ⟨a, i, rest, rfl, hexDigit?_eq_some_iff.mp digit, others⟩

theorem Takes.exists_escape (h : Takes (hex text held 0 0) w t) : ∃ u n rest,
    .char '\\' :: .char 'u' :: w = u ++ rest ∧ Escape u n ∧ Takes (named text held n) rest t := by
  obtain ⟨a, i, _, rfl, ha, h⟩ := h.exists_digit
  obtain ⟨b, j, _, rfl, hb, h⟩ := Takes.exists_digit h
  obtain ⟨c, k, _, rfl, hc, h⟩ := Takes.exists_digit h
  obtain ⟨d, l, rest, rfl, hd, h⟩ := Takes.exists_digit h
  simp only [Nat.mul_zero, Nat.zero_add] at h
  exact ⟨_, _, rest, rfl, .digits ha hb hc hd, h⟩

theorem nothing_held : ∀ n ∈ (none : Option Nat), IsHigh n := by
  simp

-- A numbered escape, from what is taken in behind it.
theorem completes_of_escape (high : ∀ n ∈ held, IsHigh n) (escape : Escape u n)
    (takes : Takes (named text held n) w s)
    (others : ∀ text held, (∀ n ∈ held, IsHigh n) → Takes (plain text held) w s →
      ∃ t, s = text.reverse ++ t ∧ Completes held w t) :
    ∃ t, s = text.reverse ++ t ∧ Completes held (u ++ w) t := by
  by_cases free : held = none ∨ ¬IsLow n
  case pos =>
    rw [named_of_not_low free] at takes
    rw [← escape.startsLow_append_iff w] at free
    split at takes
    case isTrue isHigh =>
      obtain ⟨t, same, inside⟩ := others _ _ (by rintro _ ⟨⟩; exact isHigh) takes
      rw [reverse_settle, List.append_assoc] at same
      exact ⟨_, same, completes_of_quotes (inside u escape) free⟩
    case isFalse other =>
      obtain ⟨t, same, inside⟩ := others _ _ nothing_held takes
      rw [List.reverse_cons, reverse_settle, List.append_assoc, List.append_assoc] at same
      have quotes : Quotes (u ++ w) (Code.ofNat n :: t) := .number escape (fun h => other h.left) inside
      exact ⟨_, same, completes_of_quotes quotes free⟩
  case neg =>
    rw [not_or, not_not] at free
    obtain ⟨first, rfl⟩ := Option.ne_none_iff_exists'.mp free.left
    rw [named_of_low free.right] at takes
    obtain ⟨t, same, inside⟩ := others _ _ nothing_held takes
    rw [List.reverse_cons, List.append_assoc] at same
    refine ⟨_, same, fun v escape' => ?_⟩
    rw [← List.append_assoc]
    exact .pair escape' (high first rfl) escape free.right inside

-- What stands behind a backslash, and from there on.
theorem completes_of_backslash (high : ∀ n ∈ held, IsHigh n) (takes : Takes (escape text held) w s)
    (others : ∀ v, v.length < w.length → ∀ text held, (∀ n ∈ held, IsHigh n) →
      Takes (plain text held) v s → ∃ t, s = text.reverse ++ t ∧ Completes held v t) :
    ∃ t, s = text.reverse ++ t ∧ Completes held (.char '\\' :: w) t := by
  cases w
  case nil => cases takes.closed
  case cons c w =>
    obtain ⟨q, one, takes⟩ := takes.exists_step
    by_cases numbered : c = .char 'u'
    case pos =>
      subst numbered
      cases one
      obtain ⟨u, n, rest, split, escape, takes⟩ := takes.exists_escape
      have shorter : rest.length < w.length + 1 := by
        have lengths := congrArg List.length split
        simp only [List.length_cons, List.length_append, escape.length_eq] at lengths
        omega
      rw [split]
      exact completes_of_escape high escape takes (others rest shorter)
    case neg =>
      have hu : c.is 'u' = false := by simpa [Code.is] using numbered
      cases letter : letter? c
      case none => simp [step, hu, letter] at one
      case some d =>
        rw [letter?_eq_some_iff] at letter
        rw [step_letter letter] at one
        cases one
        obtain ⟨t, same, inside⟩ := others w (Nat.lt_succ_self _) _ _ nothing_held takes
        rw [List.reverse_cons, reverse_settle, List.append_assoc, List.append_assoc] at same
        exact ⟨_, same, completes_of_quotes (.letter letter inside) (.inr (not_startsLow_of_letter numbered))⟩

theorem completes_of_takes (high : ∀ n ∈ held, IsHigh n) (takes : Takes (plain text held) w s) :
    ∃ t, s = text.reverse ++ t ∧ Completes held w t := by
  -- An escape takes several code points at once.
  induction hn : w.length using Nat.strongRecOn generalizing w text held
  case ind n ih =>
    subst hn
    cases w
    case nil =>
      have closed := takes.closed
      rw [step_quote] at closed
      cases closed
      have last : Completes held [] (pending held ++ []) :=
        completes_of_quotes .nil (.inr not_startsLow_nil)
      rw [List.append_nil] at last
      exact ⟨_, rfl, last⟩
    case cons c w =>
      have others (v : Text) (shorter : v.length < w.length + 1) text held (high : ∀ n ∈ held, IsHigh n)
          (takes : Takes (plain text held) v s) := ih _ shorter high takes rfl
      obtain ⟨q, one, takes⟩ := takes.exists_step
      by_cases quote : c = .char '"'
      case pos =>
        rw [quote, step_quote] at one
        cases one
      case neg =>
        by_cases backslash : c = .char '\\'
        case pos =>
          subst backslash
          cases one
          exact completes_of_backslash high takes fun v shorter => others v (Nat.lt_succ_of_lt shorter)
        case neg =>
          by_cases control : c.toNat < 0x20
          case pos => rw [step_control control] at one; cases one
          case neg =>
            rw [step_plain (Nat.le_of_not_lt control) quote backslash] at one
            cases one
            obtain ⟨t, same, inside⟩ := others w (Nat.lt_succ_self _) _ _ nothing_held takes
            rw [List.reverse_cons, reverse_settle, List.append_assoc, List.append_assoc] at same
            exact ⟨_, same, completes_of_quotes (.plain (Nat.le_of_not_lt control) quote backslash inside)
              (.inr (not_startsLow_of_head backslash))⟩

-- The reader goes from quote to quote just over what the grammar has for a text.
theorem takes_iff_quotes : Takes (plain [] none) w t ↔ Quotes w t := by
  constructor
  case mp =>
    intro takes
    obtain ⟨_, rfl, quotes⟩ := completes_of_takes nothing_held takes
    exact quotes
  case mpr => exact fun quotes => takes_of_quotes quotes [] none (.inl rfl)

end Quoted

theorem Quotes.guarded (h : Quotes w t) : Guarded w := by
  obtain ⟨q, passes, closed⟩ := Quoted.takes_iff_quotes.mpr h
  have closes : Quoted.Closes q [] := by
    cases q
    case plain  => exact .nil
    case escape => cases closed
    case hex    => cases closed
  have guarded := passes.closes closes
  rwa [List.append_nil] at guarded

end Json
end TraitCatalog

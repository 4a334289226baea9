import Mathlib.Tactic.Common
import TraitCatalog.Json.Reader
import TraitCatalog.Json.Writer

namespace TraitCatalog

theorem Code.is_iff {c : Code} {d : Char} : c.is d = true ↔ c = .char d := by
  simp [Code.is]

theorem Code.is_eq_false_of_lt {c : Code} {d : Char} (h : c.toNat < d.toNat) : c.is d = false := by
  by_contra hc
  rw [Bool.not_eq_false, Code.is_iff] at hc
  exact Nat.lt_irrefl _ (hc ▸ h)

namespace Json

-- Below U+0020, the four digits of an escape are two zeros and the two digits of the number.
theorem hex_four_of_control : ∀ n < 0x20, Text.hex 4 n =
    [.char '0', .char '0', .char (Nat.digitChar (n / 16)), .char (Nat.digitChar (n % 16))] := by
  decide

theorem hexDigit?_digitChar : ∀ n < 16, (Code.char (Nat.digitChar n)).hexDigit? = some n := by
  decide

-- Text in which every quote stands behind a backslash of its own.
inductive Guarded : Text → Prop
  | nil     : Guarded []
  | escaped : Guarded w → Guarded ('\\' :: c :: w)
  | plain   : (c ≠ .char '"') → (c ≠ .char '\\') → Guarded w → Guarded (c :: w)

namespace Quoted

-- The code points of `w` lead from `q` to `q'`, and none of them closes the string.
inductive Passes : (q : Quoted) → (w : Text) → (q' : Quoted) → Prop
  | nil  : Passes q [] q
  | cons : (q.step c = .ok (.inl q₁)) → Passes q₁ w q₂ → Passes q (c :: w) q₂

theorem Passes.append (h₁ : Passes q₁ v q₂) (h₂ : Passes q₂ w q₃) : Passes q₁ (v ++ w) q₃ := by
  induction h₁
  case nil            => exact h₂
  case cons hs _ ih => exact .cons hs (ih h₂)

theorem step_hex (h : c.hexDigit? = some d) : (hex text held count value).step c =
    .ok (.inl (if count = 3 then named text held (16 * value + d)
      else hex text held (count + 1) (16 * value + d))) := by
  simp [step, h]

-- An escape that names no surrogate stands for one code point.
theorem named_control (h : n < 0x20) : named text none n = plain (Code.ofNat n :: text) none := by
  have hn : ¬(0xD800 ≤ n ∧ n < 0xDC00) := by omega
  simp [named, named.fresh, hn]

theorem passes_control (h : c.toNat < 0x20) :
    Passes (plain text none) ("\\u" ++ Text.hex 4 c.toNat) (plain (c :: text) none) := by
  have high := hexDigit?_digitChar (c.toNat / 16) (by omega)
  have low := hexDigit?_digitChar (c.toNat % 16) (by omega)
  have third : (hex text none 2 0).step (.char (Nat.digitChar (c.toNat / 16))) =
      .ok (.inl (hex text none 3 (c.toNat / 16))) := by
    simp [step_hex high]
  have fourth : (hex text none 3 (c.toNat / 16)).step (.char (Nat.digitChar (c.toNat % 16))) =
      .ok (.inl (plain (c :: text) none)) := by
    rw [step_hex low, if_pos rfl, Nat.div_add_mod, named_control h, Code.ofNat_toNat]
  rw [hex_four_of_control _ h]
  exact .cons rfl (.cons rfl (.cons rfl (.cons rfl (.cons third (.cons fourth .nil)))))

theorem passes_writeCode (c : Code) (text : Text) :
    Passes (plain text none) (writeCode c) (plain (c :: text) none) := by
  unfold writeCode
  repeat' split
  case isFalse.isFalse.isFalse.isFalse.isFalse.isFalse.isFalse.isTrue h => exact passes_control h
  case isFalse.isFalse.isFalse.isFalse.isFalse.isFalse.isFalse.isFalse hq hb _ _ _ _ _ hc =>
    refine .cons ?_ .nil
    simp [step, hq, hb, hc, settle]
  -- The escapes of a letter each.
  all_goals
    rename_i h
    rw [Code.is_iff.mp h]
    exact .cons rfl (.cons rfl .nil)

theorem passes_flatMap_writeCode (t text : Text) :
    Passes (plain text none) (t.flatMap writeCode) (plain (t.reverse ++ text) none) := by
  induction t generalizing text
  case nil => exact .nil
  case cons c t ih =>
    have h := (passes_writeCode c text).append (ih (c :: text))
    simpa using h

-- No control character may stand in a string.
theorem step_control (h : c.toNat < 0x20) (q : Quoted) : q.step c = .error .malformed := by
  have hd (d : Char) (hd : 0x20 ≤ d.toNat) : c.is d = false := Code.is_eq_false_of_lt (by omega)
  cases q
  case plain => simp [step, hd, h]
  case escape => simp [step, letter?, hd]
  case hex =>
    have hx : c.hexDigit? = none := by grind [Code.hexDigit?]
    simp [step, hx]

theorem Passes.not_control (h : Passes q w q') (hc : c ∈ w) : 0x20 ≤ c.toNat := by
  induction h
  case nil => contradiction
  case cons hs _ ih =>
    cases hc
    case head =>
      by_contra hn
      simp [step_control (Nat.lt_of_not_le hn)] at hs
    case tail hc => exact ih hc

-- What the rest of a string is like: behind a backslash, its first code point is a free one.
def Closes : (q : Quoted) → (w : Text) → Prop
  | escape .., w => ∃ c v, w = c :: v ∧ Guarded v
  | _, w => Guarded w

theorem closes_named : Closes (named text held n) w ↔ Guarded w := by
  unfold named
  split
  case h_1 =>
    split
    case isTrue  => rfl
    case isFalse => unfold named.fresh; split <;> rfl
  case h_2 => unfold named.fresh; split <;> rfl

theorem closes_step (h : q.step c = .ok (.inl q')) (hc : Closes q' w) : Closes q (c :: w) := by
  cases q <;> simp only [step] at h
  case plain =>
    split at h
    case isTrue => cases h
    case isFalse hq =>
      split at h
      case isTrue hb =>
        cases h
        obtain ⟨d, v, rfl, hv⟩ := hc
        rw [Code.is_iff.mp hb]
        exact .escaped hv
      case isFalse hb =>
        split at h <;> cases h
        exact .plain (Code.is_iff.not.mp hq) (Code.is_iff.not.mp hb) hc
  case escape =>
    refine ⟨c, w, rfl, ?_⟩
    split at h
    case isTrue => cases h; exact hc
    case isFalse => split at h <;> cases h; exact hc
  case hex =>
    split at h
    case h_1 => cases h
    case h_2 hd =>
      have hw : Guarded w := by
        cases h
        split at hc
        case isTrue  => exact closes_named.mp hc
        case isFalse => exact hc
      refine .plain ?_ ?_ hw <;> rintro rfl <;> cases hd

theorem Passes.closes (h : Passes q w q') (hc : Closes q' v) : Closes q (w ++ v) := by
  induction h
  case nil            => exact hc
  case cons hs _ ih => exact closes_step hs (ih hc)

end Quoted

open Quoted

theorem not_control_of_mem_writeString (h : c ∈ writeString t) : 0x20 ≤ c.toNat := by
  simp only [writeString, List.cons_append, List.mem_cons, List.mem_append, List.not_mem_nil,
    or_false] at h
  obtain rfl | h | rfl := h
  · decide
  · exact (passes_flatMap_writeCode t []).not_control h
  · decide

end Json
end TraitCatalog

namespace TraitCatalog

-- A code point: a character, or the lone surrogate with the number `0xD800 + n`. No UTF-8 file holds such a
-- surrogate, but an escape in a JSON string can name one.
inductive Code
  | char (c : Char)
  | lone (n : Fin 2048)
  deriving DecidableEq, Repr

abbrev Text := List Code

instance : Coe Char Code := ⟨Code.char⟩

namespace Code

def toNat : Code → Nat
  | char c => c.toNat
  | lone n => 0xD800 + n.val

-- The code point with the number `n`; numbers past the last one give U+FFFD.
def ofNat (n : Nat) : Code :=
  if h : n.isValidChar then
    char (Char.ofNatAux n h)
  else if h : n - 0xD800 < 2048 then
    lone ⟨n - 0xD800, h⟩
  else
    char '\uFFFD'

theorem toNat_ofNat (h : n < 0x110000) : (ofNat n).toNat = n := by
  by_cases hv : n.isValidChar
  case pos => exact (congrArg toNat (dif_pos hv)).trans rfl
  case neg =>
    have bound : n - 0xD800 < 2048 ∧ 0xD800 ≤ n := by
      simp only [Nat.isValidChar, not_or, not_and] at hv
      omega
    have e : ofNat n = lone ⟨n - 0xD800, bound.left⟩ := (dif_neg hv).trans (dif_pos bound.left)
    rw [e]
    exact Nat.add_sub_of_le bound.right

theorem ofNat_toNat (c : Code) : ofNat c.toNat = c := by
  cases c
  case char c => exact (dif_pos (show c.toNat.isValidChar from c.valid)).trans rfl
  case lone n =>
    have invalid : ¬(0xD800 + n.val).isValidChar := by
      have := n.isLt
      unfold Nat.isValidChar
      omega
    have bound : 0xD800 + n.val - 0xD800 < 2048 := by omega
    have e : ofNat (0xD800 + n.val) = lone ⟨0xD800 + n.val - 0xD800, bound⟩ :=
      (dif_neg invalid).trans (dif_pos bound)
    exact e.trans (congrArg lone (Fin.ext (Nat.add_sub_cancel_left ..)))

def is (c : Code) (d : Char) : Bool :=
  c == char d

-- The value of an ASCII decimal digit.
def digit? (c : Code) : Option Nat :=
  if 0x30 ≤ c.toNat ∧ c.toNat ≤ 0x39 then some (c.toNat - 0x30) else none

def isDigit (c : Code) : Bool :=
  c.digit?.isSome

-- The value of an ASCII hexadecimal digit of either case.
def hexDigit? (c : Code) : Option Nat :=
  if 0x30 ≤ c.toNat ∧ c.toNat ≤ 0x39 then some (c.toNat - 0x30)
  else if 0x41 ≤ c.toNat ∧ c.toNat ≤ 0x46 then some (c.toNat - 0x41 + 10)
  else if 0x61 ≤ c.toNat ∧ c.toNat ≤ 0x66 then some (c.toNat - 0x61 + 10)
  else none

-- The lower case of an ASCII letter; every other code point stays as it is.
def lower : Code → Code
  | char c => char c.toLower
  | c => c

end Code

namespace Text

def ofString (s : String) : Text :=
  s.toList.map Code.char

-- The string of a text without lone surrogates.
def toString? (t : Text) : Option String :=
  (t.mapM char?).map String.ofList
where
  char? : Code → Option Char
    | .char c => some c
    | .lone _ => none

end Text

instance : Coe String Text := ⟨Text.ofString⟩

namespace Text

def ofNat (n : Nat) : Text :=
  (Nat.toDigits 10 n).map Code.char

-- The decimal digits of `i` behind its sign.
def ofInt : Int → Text
  | .ofNat n => ofNat n
  | .negSucc n => "-" ++ ofNat (n + 1)

-- The lower case hexadecimal digits of `n`, filled with zeros to `width`.
def hex (width n : Nat) : Text :=
  let digits := (Nat.toDigits 16 n).map Code.char
  List.replicate (width - digits.length) (Code.char '0') ++ digits

def decimalValue (digits : Text) : Nat :=
  digits.foldl (fun n c => 10 * n + c.digit?.getD 0) 0

-- The text without the code points that satisfy `p` at both ends.
def strip (p : Code → Bool) (t : Text) : Text :=
  ((t.dropWhile p).reverse.dropWhile p).reverse

def lower (t : Text) : Text :=
  t.map Code.lower

-- Texts are ordered by the numbers of their code points.
def le : Text → Text → Bool
  | [], _ => true
  | _ :: _, [] => false
  | a :: s, b :: t => a.toNat < b.toNat || (a = b && le s t)

def join (sep : Text) (parts : List Text) : Text :=
  sep.intercalate parts

-- What follows `start` in `t`, if `t` begins with it.
def after? : (start t : Text) → Option Text
  | [], t => some t
  | _ :: _, [] => none
  | a :: start, b :: t => if a = b then after? start t else none

theorem after?_eq_some_iff {start t rest : Text} : after? start t = some rest ↔ t = start ++ rest := by
  fun_induction after? start t
  case case1 => simp [eq_comm]
  case case2 => simp
  case case3 ih => simp [ih]
  case case4 h => simp [Ne.symm h]

-- What comes before `last` in `t`, if `t` ends with it.
def before? (last t : Text) : Option Text :=
  (after? last.reverse t.reverse).map List.reverse

theorem before?_eq_some_iff {last t first : Text} : before? last t = some first ↔ t = first ++ last := by
  simp only [before?, Option.map_eq_some_iff, after?_eq_some_iff]
  constructor
  case mp =>
    rintro ⟨r, h, rfl⟩
    simpa using congrArg List.reverse h
  case mpr =>
    rintro rfl
    exact ⟨first.reverse, by simp, by simp⟩

-- The segments between the occurrences of `::`, found from the left.
def segments : Text → List Text
  | ':' :: ':' :: rest => [] :: segments rest
  | c :: rest =>
    match segments rest with
    | [] => [[c]]
    | first :: others => (c :: first) :: others
  | [] => [[]]

-- The text before the first `::`, or all of it.
def beforeSeparator : Text → Text
  | ':' :: ':' :: _ => []
  | c :: rest => c :: beforeSeparator rest
  | [] => []

-- The text behind the last `::`, or all of it.
def afterLastSeparator (t : Text) : Text :=
  (beforeSeparator t.reverse).reverse

-- A carriage return, alone or before a line feed, reads as a line feed.
def unifyNewlines : Text → Text
  | '\r' :: '\n' :: rest => '\n' :: unifyNewlines rest
  | '\r' :: rest => '\n' :: unifyNewlines rest
  | c :: rest => c :: unifyNewlines rest
  | [] => []

theorem unifyNewlines_of_no_return {t : Text} (h : Code.char '\r' ∉ t) : unifyNewlines t = t := by
  fun_induction unifyNewlines t <;> simp_all

end Text
end TraitCatalog

import TraitCatalog.Toml.Basic

namespace TraitCatalog
namespace Toml

abbrev Reader (α : Type) := Text → Except Fault (α × Text)

def isBlank (c : Code) : Bool :=
  c.is ' ' || c.is '\t'

-- Control characters, which stand nowhere but in escapes. The tab is not among them.
def isControl (c : Code) : Bool :=
  (c.toNat < 0x20 && !c.is '\t') || c.toNat = 0x7F

def skipBlanks (t : Text) : Text :=
  t.dropWhile isBlank

-- The text from the end of the line on, if a comment begins here.
def skipComment (t : Text) : Except Fault Text :=
  if t.head?.any (·.is '#') then
    let comment := t.takeWhile fun c => !c.is '\n'
    if comment.any isControl then .error .malformed else .ok (t.drop comment.length)
  else
    .ok t

-- The text behind blanks, line ends and comments.
def skipFiller (inComment : Bool) : Text → Except Fault Text
  | [] => .ok []
  | c :: rest =>
    if c.is '\n' then skipFiller false rest
    else if inComment then
      if isControl c then .error .malformed else skipFiller true rest
    else if isBlank c then skipFiller false rest
    else if c.is '#' then skipFiller true rest
    else .ok (c :: rest)

-- Where a reader stands in a string in double quotes: in the text, perhaps behind a trimmed line
-- end, behind a backslash, among the digits of an escape, or behind a backslash that trims the
-- line.
inductive StringMode
  | text (trimming : Bool)
  | escape
  | hex (missing value : Nat)
  | lineEnd

def letterEscape? (c : Code) : Option Code :=
  if c.is 'b' then some '\x08'
  else if c.is 't' then some '\t'
  else if c.is 'n' then some '\n'
  else if c.is 'f' then some '\x0c'
  else if c.is 'r' then some '\r'
  else if c.is '"' || c.is '\\' then some c
  else none

-- The inside of a string in double quotes, from a place in it on. What is read stands in reverse.
def quotedFrom (multiline : Bool) (mode : StringMode) (read : Text) : Reader Text
  | [] => .error .malformed
  | c :: rest =>
    match mode with
    | .text trimming =>
      if trimming && (isBlank c || c.is '\n') then quotedFrom multiline mode read rest
      else if c.is '\\' then quotedFrom multiline .escape read rest
      else if c.is '"' then
        if !multiline then .ok (read.reverse, rest)
        else match Text.after? "\"\"" rest with
          | some rest => .ok (read.reverse, rest)
          | none => quotedFrom multiline (.text false) (c :: read) rest
      else if isControl c && !(multiline && c.is '\n') then .error .malformed
      else quotedFrom multiline (.text false) (c :: read) rest
    | .escape =>
      if multiline && isBlank c then quotedFrom multiline .lineEnd read rest
      else if multiline && c.is '\n' then quotedFrom multiline (.text true) read rest
      else if c.is 'u' then quotedFrom multiline (.hex 4 0) read rest
      else if c.is 'U' then quotedFrom multiline (.hex 8 0) read rest
      else match letterEscape? c with
        | some d => quotedFrom multiline (.text false) (d :: read) rest
        | none => .error .malformed
    | .hex missing value =>
      match c.hexDigit? with
      | none => .error .malformed
      | some d =>
        let value := 16 * value + d
        if 1 < missing then quotedFrom multiline (.hex (missing - 1) value) read rest
        else if value.isValidChar then
          quotedFrom multiline (.text false) (Code.ofNat value :: read) rest
        else .error .malformed
    | .lineEnd =>
      if isBlank c then quotedFrom multiline .lineEnd read rest
      else if c.is '\n' then quotedFrom multiline (.text true) read rest
      else .error .malformed

-- The inside of a string in single quotes, in which nothing is escaped.
def literalFrom (multiline : Bool) (read : Text) : Reader Text
  | [] => .error .malformed
  | c :: rest =>
    if c.is '\x27' then
      if !multiline then .ok (read.reverse, rest)
      else match Text.after? "\x27\x27" rest with
        | some rest => .ok (read.reverse, rest)
        | none => literalFrom multiline (c :: read) rest
    else if isControl c && !(multiline && c.is '\n') then .error .malformed
    else literalFrom multiline (c :: read) rest

-- Up to two quotes in front of the closing ones belong to the string.
def takeQuotes (quote : Char) (read rest : Text) : Text × Text :=
  let extra := (rest.take 2).takeWhile (·.is quote)
  (read ++ extra, rest.drop extra.length)

-- A string of more than one line; a line end right behind the quotes is not part of it.
def multilineString (quote : Char) (inside : Reader Text) : Reader Text := fun t => do
  let t := match t with
    | '\n' :: rest => rest
    | t => t
  let (read, rest) ← inside t
  return takeQuotes quote read rest

-- A string on one line, with the text behind its first quote.
def lineString? (t : Text) : Option (Except Fault (Text × Text)) :=
  match t with
  | '"' :: rest => some (quotedFrom false (.text false) [] rest)
  | '\x27' :: rest => some (literalFrom false [] rest)
  | _ => none

def string? (t : Text) : Option (Except Fault (Text × Text)) :=
  match Text.after? "\"\"\"" t, Text.after? "\x27\x27\x27" t with
  | some rest, _ => some (multilineString '"' (quotedFrom true (.text false) []) rest)
  | none, some rest => some (multilineString '\x27' (literalFrom true []) rest)
  | none, none => lineString? t

-- A number of exactly `width` digits between two bounds.
def fixed? (width low high : Nat) (t : Text) : Option (Nat × Text) :=
  let digits := t.take width
  let n := Text.decimalValue digits
  if digits.length = width ∧ digits.all Code.isDigit ∧ low ≤ n ∧ n ≤ high then
    some (n, t.drop width)
  else
    none

def isLeapYear (year : Nat) : Bool :=
  year % 4 = 0 && (year % 100 ≠ 0 || year % 400 = 0)

def daysIn (year month : Nat) : Nat :=
  if month = 2 then (if isLeapYear year then 29 else 28)
  else if month = 4 ∨ month = 6 ∨ month = 9 ∨ month = 11 then 30
  else 31

-- What is left behind a time of day.
def afterTime? (t : Text) : Option Text := do
  let (_, t) ← fixed? 2 0 23 t
  let (_, t) ← fixed? 2 0 59 (← Text.after? ":" t)
  let (_, t) ← fixed? 2 0 59 (← Text.after? ":" t)
  match t with
  | '.' :: places => return if places.head?.any Code.isDigit then places.dropWhile Code.isDigit else t
  | _ => return t

-- What is left behind the offset of a time, if there is one.
def afterOffset (t : Text) : Text :=
  match t with
  | 'Z' :: rest => rest
  | 'z' :: rest => rest
  | sign :: rest =>
    if sign.is '+' || sign.is '-' then (numeric? rest).getD t else t
  | [] => []
where
  numeric? (t : Text) : Option Text := do
    let (_, t) ← fixed? 2 0 23 t
    let (_, t) ← fixed? 2 0 59 (← Text.after? ":" t)
    return t

-- What is left behind the time that can follow a date.
def afterDateTime (t : Text) : Text :=
  match t with
  | mark :: rest =>
    if mark.is 'T' || mark.is 't' || mark.is ' ' then ((afterTime? rest).map afterOffset).getD t else t
  | [] => []

-- Year, month and day of a date, and what is left behind it.
def date? (t : Text) : Option (Nat × Nat × Nat × Text) := do
  let (year, t) ← fixed? 4 0 9999 t
  let (month, t) ← fixed? 2 1 12 (← Text.after? "-" t)
  let (day, t) ← fixed? 2 1 31 (← Text.after? "-" t)
  return (year, month, day, t)

-- A date or a time. A date that is not in the calendar is refused.
def moment? (t : Text) : Option (Except Fault (Toml × Text)) :=
  match date? t, afterTime? t with
  | some (year, month, day, rest), _ =>
    if year = 0 ∨ daysIn year month < day then some (.error .malformed)
    else some (written (afterDateTime rest))
  | none, some rest => some (written rest)
  | none, none => none
where
  written (rest : Text) : Except Fault (Toml × Text) :=
    .ok (.moment (t.take (t.length - rest.length)), rest)

-- The longest run of digits, in which an underscore may stand between two digits. Gives the digits
-- without underscores.
def digitRun (isDigit : Code → Bool) : Text → Text × Text
  | [] => ([], [])
  | c :: rest =>
    if isDigit c then
      let (digits, left) := digitRun isDigit rest
      (c :: digits, left)
    else if c.is '_' && rest.head?.any isDigit then digitRun isDigit rest
    else ([], c :: rest)

def digits? (isDigit : Code → Bool) (t : Text) : Option (Text × Text) :=
  if t.head?.any isDigit then some (digitRun isDigit t) else none

-- A whole number written in base 2, 8 or 16.
def based? (t : Text) : Option (Toml × Text) :=
  match t with
  | '0' :: 'x' :: rest => number 16 rest
  | '0' :: 'b' :: rest => number 2 rest
  | '0' :: 'o' :: rest => number 8 rest
  | _ => none
where
  number (base : Nat) (t : Text) : Option (Toml × Text) := do
    let (digits, rest) ← digits? (fun c => c.hexDigit?.any (· < base)) t
    return (.int (digits.foldl (fun (n : Nat) c => base * n + c.hexDigit?.getD 0) 0 : Nat), rest)

def sign (t : Text) : Bool × Text :=
  match t with
  | '-' :: rest => (true, rest)
  | '+' :: rest => (false, rest)
  | _ => (false, t)

def places (t : Text) : Text × Text :=
  ((Text.after? "." t).bind (digits? Code.isDigit)).getD ([], t)

def power? (t : Text) : Option (Int × Text) :=
  match t with
  | mark :: rest => do
    if !(mark.is 'e' || mark.is 'E') then
      none
    let (negative, rest) := sign rest
    let (digits, rest) ← digits? Code.isDigit rest
    let n : Int := Text.decimalValue digits
    return (if negative then -n else n, rest)
  | [] => none

def decimal? (t : Text) : Option (Except Fault (Toml × Text)) := do
  let (negative, t) := sign t
  let (whole, rest) ← match t with
    | '0' :: rest => some (("0" : Text), rest)
    | t => digits? Code.isDigit t
  let (fraction, rest) := places rest
  match fraction, power? rest with
  | [], none =>
    if Limit.mostDigits < whole.length then
      return .error (.beyond .digits)
    let n : Int := Text.decimalValue whole
    return .ok (.int (if negative then -n else n), rest)
  | fraction, some (power, rest) => return .ok (float negative whole fraction power, rest)
  | fraction, none => return .ok (float negative whole fraction 0, rest)
where
  float (negative : Bool) (whole fraction : Text) (power : Int) : Toml :=
    .float (Double.ofDecimal negative (Text.decimalValue (whole ++ fraction)) (power - fraction.length))

-- The numbers that are written as words.
def wordNumber? (t : Text) : Option (Toml × Text) :=
  let (negative, rest) := sign t
  match Text.after? "inf" rest, Text.after? "nan" rest with
  | some rest, _ => some (.float (.infinite negative), rest)
  | none, some rest => some (.float .nan, rest)
  | none, none => none

def boolean? (t : Text) : Option (Toml × Text) :=
  match Text.after? "true" t, Text.after? "false" t with
  | some rest, _ => some (.bool true, rest)
  | none, some rest => some (.bool false, rest)
  | none, none => none

def scalar : Reader Toml := fun t =>
  match string? t with
  | some r => r.map fun (s, rest) => (.string s, rest)
  | none =>
    match boolean? t, moment? t with
    | some r, _ => .ok r
    | none, some r => r
    | none, none =>
      match based? t, decimal? t with
      | some r, _ => .ok r
      | none, some r => r
      | none, none =>
        match wordNumber? t with
        | some r => .ok r
        | none => .error .malformed

end Toml
end TraitCatalog

import TraitCatalog.Double.Shortest
import TraitCatalog.Json.Basic

namespace TraitCatalog
namespace Json

-- A code point between the quotes of a string.
def writeCode (c : Code) : Text :=
  if c.is '"' then "\\\""
  else if c.is '\\' then "\\\\"
  else if c.is '\n' then "\\n"
  else if c.is '\r' then "\\r"
  else if c.is '\t' then "\\t"
  else if c.is '\x0c' then "\\f"
  else if c.is '\x08' then "\\b"
  else if c.toNat < 0x20 then "\\u" ++ Text.hex 4 c.toNat
  else [c]

-- Only quotes, backslashes and control characters are escaped, so no line feed stands inside a string.
def writeString (t : Text) : Text :=
  Code.char '"' :: t.flatMap writeCode ++ [Code.char '"']

-- The names of the numbers that are no numbers.
def floatStyle : Double.Style :=
  { Double.Style.plain with nan := "NaN", infinity := "Infinity" }

-- `compact` has no blanks at all; `indented` gives each item a line of its own.
inductive Layout
  | compact
  | indented (width : Nat)

namespace Layout

-- The layout for an indentation, if there is one. An indentation below zero breaks the lines without
-- indenting them.
def ofIndent : Option Int → Layout
  | none => compact
  | some n => indented n.toNat

-- The break in front of an item at nesting depth `depth`.
def newline (l : Layout) (depth : Nat) : Text :=
  match l with
  | compact => []
  | indented width => Code.char '\n' :: List.replicate (width * depth) (Code.char ' ')

def colon : Layout → Text
  | compact => ":"
  | indented _ => ": "

end Layout

mutual

def write (l : Layout) (depth : Nat) : Json → Text
  | null => "null"
  | bool true => "true"
  | bool false => "false"
  | int n => Text.ofInt n
  | float x => x.text floatStyle
  | string t => writeString t
  | array [] => "[]"
  | array (v :: items) =>
    "[" ++ l.newline (depth + 1) ++ write l (depth + 1) v ++ writeItems l (depth + 1) items ++
      l.newline depth ++ "]"
  | object [] => "\x7b\x7d"
  | object ((key, v) :: fields) =>
    "\x7b" ++ l.newline (depth + 1) ++ writeString key ++ l.colon ++ write l (depth + 1) v ++
      writeFields l (depth + 1) fields ++ l.newline depth ++ "\x7d"

-- The items behind the first one.
def writeItems (l : Layout) (depth : Nat) : List Json → Text
  | [] => []
  | v :: items => "," ++ l.newline depth ++ write l depth v ++ writeItems l depth items

def writeFields (l : Layout) (depth : Nat) : List (Text × Json) → Text
  | [] => []
  | (key, v) :: fields =>
    "," ++ l.newline depth ++ writeString key ++ l.colon ++ write l depth v ++
      writeFields l depth fields

end

-- The value on one line without blanks.
def compact (v : Json) : Text :=
  write .compact 0 v

end Json
end TraitCatalog

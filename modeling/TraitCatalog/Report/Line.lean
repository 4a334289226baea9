import TraitCatalog.Catalog.Summary
import TraitCatalog.Handoff.Exchange
import TraitCatalog.Text.Columns

namespace TraitCatalog

inductive Severity
  | ok
  | warn
  | fail
  deriving DecidableEq, Repr

namespace Severity

def badge : Severity → Text
  | ok => "✅ "
  | warn => "⚠️ "
  | fail => "❌ "

-- The number of the color on a terminal: green, yellow or red.
def color : Severity → Text
  | ok => "32"
  | warn => "33"
  | fail => "31"

end Severity

namespace Report

-- Control characters that never reach the output.
def isDropped (c : Code) : Bool :=
  c.toNat = 0x07 || c.toNat = 0x08 || c.toNat = 0x0B || c.toNat = 0x0C || c.toNat = 0x0D

-- `t` without the control characters that never reach the output.
def clean (t : Text) : Text :=
  t.filter fun c => !isDropped c

-- The columns between the places that a tab leads to.
def tabWidth : Nat := 8

-- The text in front of a tab with the blanks that the tab stands for: at least one, up to the next
-- column that the width of tabs divides.
def fill (t : Text) : Text :=
  let t := t ++ " "
  t ++ List.replicate ((tabWidth - t.columns % tabWidth) % tabWidth) (Code.char ' ')

-- The parts of a line between its tabs, each tab replaced by blanks at the end of a part.
def parts (line : Text) : List Text :=
  let between := line.splitOn (Code.char '\t')
  between.dropLast.map fill ++ between.getLast?.toList

-- A part of a line in a color. An empty one has none.
def paint (color part : Text) : Text :=
  if part.isEmpty then [] else "\x1b[" ++ color ++ "m" ++ part ++ "\x1b[0m"

-- How lines look: with or without badges, and in color or not; `none` means in color on a terminal.
structure Look where
  emoji : Bool
  color : Option Bool
  deriving DecidableEq, Repr

-- A status line, without the line feed behind it. `terminal` is what the output says of itself, if
-- it says anything. What is said of reports rests on this account of how badges, colors and tabs come out.
def line (look : Look) (terminal : Option Bool) (severity : Severity) (message : Text) : Text :=
  let terminal := terminal.getD false
  let badge : Text := if look.emoji then severity.badge else []
  let colored := look.color.getD terminal && terminal
  let put (part : Text) : Text := if colored then paint severity.color part else part
  let lines := (clean (badge ++ message)).splitOn (Code.char '\n')
  Text.join "\n" (lines.map fun line => (parts line).flatMap put)

-- What is said of a registered catalog.
def registration (outcome : Outcome) (c : Catalog) (consumer : Option Text) (group : Text) :
    Severity × Text :=
  match outcome with
  | .delivered =>
    (.ok, "delivered " ++ Text.ofNat c.entries.length ++ " libraries to consumer '" ++
      consumer.getD "None" ++ "'")
  | .pending =>
    (.warn, "no consumer registered under '" ++ group ++ "'; catalog left pending")

end Report
end TraitCatalog

import TraitCatalog.Proofs.Files.Written
import TraitCatalog.Proofs.Json.Newlines
import TraitCatalog.Proofs.Payload.Layout

namespace TraitCatalog

theorem Document.read_unifyNewlines (t : Text) : read t.unifyNewlines = read t := by
  rw [read, Json.read_unifyNewlines, read]

-- Each carriage return stands right in front of a line feed.
def Text.Paired (t : Text) : Prop :=
  ∀ front back, t = front ++ .char '\r' :: back → back.head? = some (.char '\n')

theorem Text.paired_cons_iff {t : Text} :
    Paired (c :: t) ↔ (c = .char '\r' → t.head? = some (.char '\n')) ∧ t.Paired := by
  constructor
  case mp =>
    refine fun paired => ⟨?first, ?others⟩
    case first =>
      rintro rfl
      exact paired [] t rfl
    case others =>
      rintro front back rfl
      exact paired (c :: front) back rfl
  case mpr =>
    rintro ⟨first, others⟩ front back split
    cases front
    case nil =>
      obtain ⟨rfl, rfl⟩ := List.cons_eq_cons.mp split
      exact first rfl
    case cons d front => exact others front back (List.cons_eq_cons.mp split).right

instance Text.decidablePaired : (t : Text) → Decidable t.Paired
  | [] => .isTrue fun front _ split => absurd split.symm (List.append_ne_nil_of_right_ne_nil front nofun)
  | _ :: t =>
    have := decidablePaired t
    decidable_of_iff _ paired_cons_iff.symm

namespace Script

open Text (paired_cons_iff)

-- A carriage return in front of a line feed goes with the padding of its line.
theorem allLines_append_unifyNewlines (h : t.Paired) (front : Text) :
    allLines (front ++ t.unifyNewlines) = allLines (front ++ t) := by
  fun_induction Text.unifyNewlines t generalizing front
  case case1 rest ih =>
    have return_padding : [Code.char '\r'] ⊆ padding := by decide
    have whole := ih (paired_cons_iff.mp (paired_cons_iff.mp h).right).right []
    rw [List.nil_append, List.nil_append] at whole
    rw [List.append_cons front (.char '\r'), allLines_append, allLines_append,
      allLines_append_padding return_padding, whole]
  case case2 rest alone _ =>
    obtain ⟨feed, behind⟩ := List.head?_eq_some_iff.mp (h [] rest rfl)
    exact absurd behind (alone feed)
  case case3 c rest _ _ ih =>
    have whole := ih (paired_cons_iff.mp h).right (front ++ [c])
    rwa [← List.append_cons, ← List.append_cons] at whole
  case case4 => rfl

theorem read_unifyNewlines {t : Text} (h : t.Paired) : read t.unifyNewlines = read t :=
  read_eq_of_allLines (allLines_append_unifyNewlines h [])

end Script

variable {tree : FileTree} {path : Path} {t : Text}

theorem Payload.fieldsAt_of_node (file : tree.node path = .ok (.file bytes)) (text : t.utf8? = some bytes)
    (format : Format) : fieldsAt tree path format = read path.text t.unifyNewlines format := by
  simp [fieldsAt, FileTree.readText_of_node file text]

theorem Loader.loadFields_of_not_validates {l : Loader} (h : l.validates = false) (format : Option Format) :
    l.loadFields tree path format = Payload.fieldsAt tree path (format.getD (.ofPath path)) := by
  cases read : Payload.fieldsAt tree path (format.getD (.ofPath path)) <;> simp [loadFields, h, read]

-- The file of a text gives what the text itself gives, be it data or the reason that there is none: for a
-- document whatever its line ends are, for a script if no carriage return stands without its line feed. The limit of
-- depth is the same for both, as for text that is read at one depth of calls.
theorem Payload.fieldsAt_eq_read (file : tree.node path = .ok (.file bytes)) (text : t.utf8? = some bytes) :
    fieldsAt tree path .json = read path.text t .json ∧
    (t.Paired → ∀ l : Loader, l.validates = false →
      l.loadFields tree path (some .script) = read path.text t .script) := by
  constructor
  case left => rw [fieldsAt_of_node file text, read, Document.read_unifyNewlines, read]
  case right =>
    intro paired l quiet
    rw [Loader.loadFields_of_not_validates quiet, Option.getD_some, fieldsAt_of_node file text, read,
      Script.read_unifyNewlines paired, read]

namespace Payload

-- Two files with line ends of every kind.
def returnedDocument : Text :=
  "\x7b\r\"a\":\r\n[]\n\x7d\r"

def returnedScript : Text :=
  Script.prologue ++ "\r\nimplementors[\"a\"] = [];\n" ++ Script.epilogue ++ "\r\n"

def returnedFiles : FileTree :=
  ⟨[(⟨.above 0, ["a.json"]⟩, .file (returnedDocument.utf8?.getD [])),
    (⟨.above 0, ["a.js"]⟩, .file (returnedScript.utf8?.getD []))]⟩

theorem node_returned :
    returnedFiles.node (.ofText "a.json") = .ok (.file (returnedDocument.utf8?.getD [])) ∧
    returnedFiles.node (.ofText "a.js") = .ok (.file (returnedScript.utf8?.getD [])) :=
  ⟨rfl, rfl⟩

theorem fieldsAt_eq_read_returned :
    fieldsAt returnedFiles (.ofText "a.json") .json = .ok [("a", .array [])] ∧
    (Loader.new none false).loadFields returnedFiles (.ofText "a.js") (some .script) =
      .ok [("a", .array [])] := by
  have document : returnedDocument.utf8? = some (returnedDocument.utf8?.getD []) := rfl
  have script : returnedScript.utf8? = some (returnedScript.utf8?.getD []) := by decide +kernel
  have paired : returnedScript.Paired := by decide +kernel
  obtain ⟨file, file'⟩ := node_returned
  have first := (fieldsAt_eq_read file document).left
  have second := (fieldsAt_eq_read file' script).right paired (Loader.new none false) rfl
  rw [first, second]
  exact ⟨rfl, rfl⟩

end Payload
end TraitCatalog

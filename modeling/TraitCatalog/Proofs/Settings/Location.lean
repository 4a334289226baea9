import TraitCatalog.Command.Conversion
import TraitCatalog.Proofs.Text.Segments

namespace TraitCatalog

-- The text stands in a path as one name.
structure Text.IsName (t : Text) : Prop where
  ne_nil  : t ≠ []
  ne_here : t ≠ "."
  single  : .char '/' ∉ t

instance (t : Text) : Decidable t.IsName :=
  decidable_of_iff (t ≠ [] ∧ t ≠ "." ∧ .char '/' ∉ t)
    ⟨fun h => ⟨h.left, h.right.left, h.right.right⟩, fun h => ⟨h.ne_nil, h.ne_here, h.single⟩⟩

namespace Path

variable {t stem extension : Text}

theorem namesOf_of_isName (h : t.IsName) : namesOf t = [t] := by
  have here : t ≠ [Code.char '.'] := h.ne_here
  have whole : t.splitOn (Code.char '/') = [t] := by
    refine List.splitOnP_eq_singleton fun c hc => ?_
    rw [beq_eq_false_iff_ne]
    rintro rfl
    exact h.single hc
  simp [namesOf, whole, h.ne_nil, here]

theorem anchorOf_of_isName (h : t.IsName) : anchorOf t = .here := by
  have single := h.single
  unfold anchorOf
  split <;> simp_all

theorem child_of_isName (p : Path) (h : t.IsName) : p.child t = ⟨p.anchor, p.names ++ [t]⟩ := by
  have relative : (ofText t).isAbsolute = false := by simp [isAbsolute, ofText, anchorOf_of_isName h]
  rw [child, join, relative, ofText, namesOf_of_isName h]
  rfl

theorem foldl_child {parts : List Text} (h : ∀ t ∈ parts, t.IsName) (p : Path) :
    parts.foldl child p = ⟨p.anchor, p.names ++ parts⟩ := by
  induction parts generalizing p
  case nil => rw [List.foldl_nil, List.append_nil]
  case cons t parts ih =>
    obtain ⟨first, others⟩ := List.forall_mem_cons.mp h
    rw [List.foldl_cons, child_of_isName p first, ih others, List.append_assoc]
    rfl

@[simp]
theorem name_concat (anchor : Anchor) (names : List Text) (t : Text) : name ⟨anchor, names ++ [t]⟩ = t := by
  simp [name]

-- A name is cut in front of its last dot.
theorem splitName_append (hs : stem ≠ []) (he : extension ≠ []) (undotted : .char '.' ∉ extension) :
    splitName (stem ++ .char '.' :: extension) = (stem, .char '.' :: extension) := by
  have plain : ∀ c ∈ extension.reverse, (!c.is '.') = true := by
    intro c hc
    simp only [Code.is, Bool.not_eq_true', beq_eq_false_iff_ne]
    rintro rfl
    exact undotted (List.mem_reverse.mp hc)
  have behind : (stem ++ .char '.' :: extension).reverse.takeWhile (fun c => !c.is '.') = extension.reverse := by
    rw [List.reverse_append, List.reverse_cons, List.append_assoc, List.takeWhile_append_of_pos plain]
    simp [Code.is]
  have front : (stem ++ .char '.' :: extension).length - extension.length - 1 = stem.length := by
    simp only [List.length_append, List.length_cons]
    omega
  simp only [splitName, behind, List.reverse_reverse, front, List.take_left]
  simp [hs, he]

end Path

namespace Settings

-- The last name of the location of the payload script.
def scriptName (s : Settings) : Text :=
  "trait." ++ s.trait.lastSegment ++ ".js"

variable {s s' : Settings}

theorem isName_scriptName (h : .char '/' ∉ s.trait.lastSegment) : s.scriptName.IsName where
  ne_nil  := nofun
  ne_here := nofun
  single  := by
    simp only [scriptName, List.mem_append, not_or]
    exact ⟨⟨by decide, h⟩, by decide⟩

theorem name_payloadPath (single : .char '/' ∉ s.trait) : s.payloadPath.name = s.scriptName := by
  have named := isName_scriptName fun h => single (Text.mem_of_mem_segments s.trait.lastSegment_mem h)
  have path : s.payloadPath = (s.trait.segments.dropLast.foldl Path.child s.payloadDir).child s.scriptName := rfl
  rw [path, Path.child_of_isName _ named, Path.name_concat]

-- The payload script has the name of the trait in its own name, and a colon in front of it if an odd number
-- of colons stands there.
theorem payloadPath_named (single : .char '/' ∉ s.trait) :
    (¬s.trait.HasStrayColon → s.payloadPath.name = "trait." ++ s.traitName ++ ".js") ∧
    (s.trait.HasStrayColon → s.payloadPath.name = "trait." ++ (.char ':' :: s.traitName) ++ ".js") := by
  rw [name_payloadPath single, scriptName, traitName]
  constructor
  case left =>
    intro h
    rw [Text.lastSegment_of_not_hasStrayColon h]
  case right =>
    intro h
    rw [Text.lastSegment_of_hasStrayColon h]

-- The settings for another trait.
def forTrait (trait : Text) : Settings :=
  { standard with trait }

theorem payloadPath_named_runs :
    .char '/' ∉ (forTrait "a::::b:c").trait ∧ .char '/' ∉ (forTrait "a::b:::c").trait ∧
    (forTrait "a::::b:c").payloadPath.name = "trait." ++ (forTrait "a::::b:c").traitName ++ ".js" ∧
    (forTrait "a::b:::c").payloadPath.name =
      "trait." ++ (.char ':' :: (forTrait "a::b:::c").traitName) ++ ".js" := by
  have even : ¬(forTrait "a::::b:c").trait.HasStrayColon := by
    intro stray
    exact absurd (Text.lastSegment_of_hasStrayColon stray) (by decide)
  have odd : (forTrait "a::b:::c").trait.HasStrayColon := ⟨"a::b", 0, by decide, by decide⟩
  have single : .char '/' ∉ (forTrait "a::::b:c").trait := by decide
  have single' : .char '/' ∉ (forTrait "a::b:::c").trait := by decide
  exact ⟨single, single', (payloadPath_named single).left even, (payloadPath_named single').right odd⟩

-- A trait that can be set lies in a file that is not called after its name.
theorem payloadPath_misnamed :
    ∃ s, standard.set .trait (.string "a:::b") = .ok s ∧ .char '/' ∉ s.trait ∧ s.traitName = "b" ∧
      s.payloadPath.name = "trait.:b.js" ∧ s.payloadPath.name ≠ "trait." ++ s.traitName ++ ".js" := by
  refine ⟨forTrait "a:::b", rfl, ?_, ?_, ?_, ?_⟩ <;> decide

-- Each segment of the trait stands in a path as one name.
def IsPlaced (s : Settings) : Prop :=
  ∀ segment ∈ s.trait.segments, segment.IsName

instance (s : Settings) : Decidable s.IsPlaced :=
  inferInstanceAs (Decidable (∀ segment ∈ s.trait.segments, segment.IsName))

theorem IsPlaced.payloadPath_eq (h : s.IsPlaced) : s.payloadPath =
    ⟨s.payloadDir.anchor, s.payloadDir.names ++ s.trait.segments.dropLast ++ [s.scriptName]⟩ := by
  have named := isName_scriptName (h _ s.trait.lastSegment_mem).single
  have path : s.payloadPath = (s.trait.segments.dropLast.foldl Path.child s.payloadDir).child s.scriptName := rfl
  rw [path, Path.child_of_isName _ named, Path.foldl_child fun t ht => h t (List.dropLast_subset _ ht)]

-- The file leads back to the trait, segment by segment.
theorem IsPlaced.trait_eq (h : s.IsPlaced) (h' : s'.IsPlaced) (dir : s'.payloadDir = s.payloadDir)
    (same : s'.payloadPath = s.payloadPath) : s'.trait = s.trait := by
  rw [h.payloadPath_eq, h'.payloadPath_eq, dir, Path.mk.injEq, List.append_assoc, List.append_assoc,
    List.append_cancel_left_eq] at same
  obtain ⟨others, last⟩ := List.append_inj' same.right rfl
  have segment : s'.trait.lastSegment = s.trait.lastSegment := by
    simpa [scriptName] using last
  apply Text.segments_injective
  rw [← Text.dropLast_segments_append, ← Text.dropLast_segments_append s.trait, others, segment]

theorem splitName_scriptName (s : Settings) :
    Path.splitName s.scriptName = ("trait." ++ s.trait.lastSegment, Text.ofString ".js") :=
  Path.splitName_append (List.cons_ne_nil _ _) (List.cons_ne_nil _ _) (by decide)

theorem IsPlaced.location_json (h : s.IsPlaced) :
    (Command.defaultLocation s .json).name = "trait." ++ s.trait.lastSegment ++ ".json" := by
  rw [Command.defaultLocation, h.payloadPath_eq, Path.withSuffix]
  simp only [Path.name_concat, splitName_scriptName]

-- Traits with one directory for their payloads have files of their own. The file of a script is told by its
-- suffix, and that of a document is another one, which is read as a document.
theorem locations_apart (h : s.IsPlaced) :
    (∀ s' : Settings, s'.payloadDir = s.payloadDir → s'.IsPlaced → s'.payloadPath = s.payloadPath →
      s'.trait = s.trait) ∧
    s.payloadPath.suffix = ".js" ∧
    (∀ s' : Settings, s'.IsPlaced → Command.defaultLocation s .json ≠ s'.payloadPath) ∧
    Format.ofPath (Command.defaultLocation s .json) = .json := by
  refine ⟨fun s' dir h' same => h.trait_eq h' dir same, ?suffix, fun s' h' same => ?apart, ?document⟩
  case suffix =>
    rw [Path.suffix, h.payloadPath_eq, Path.name_concat, splitName_scriptName]
  case apart =>
    have names := congrArg Path.name same
    rw [h.location_json, h'.payloadPath_eq, Path.name_concat, scriptName] at names
    have ends := congrArg List.getLast? names
    simp only [List.getLast?_append] at ends
    nomatch (show some (Code.char 'n') = some (Code.char 's') from ends)
  case document =>
    have split : Path.splitName ("trait." ++ s.trait.lastSegment ++ ".json") =
      ("trait." ++ s.trait.lastSegment, Text.ofString ".json") :=
        Path.splitName_append (List.cons_ne_nil _ _) (List.cons_ne_nil _ _) (by decide)
    rw [Format.ofPath, Path.suffix, h.location_json, split]
    rfl

-- Traits with a segment that leads up, with dots in their names, and with one name in two modules.
theorem locations_apart_dotted :
    (forTrait "a::..::b.js").IsPlaced ∧ (forTrait "b.js").IsPlaced ∧ (forTrait "a::b").IsPlaced ∧
    (forTrait "b.js").payloadPath ≠ (forTrait "a::..::b.js").payloadPath ∧
    (forTrait "a::..::b.js").payloadPath.suffix = ".js" ∧
    Command.defaultLocation (forTrait "a::..::b.js") .json ≠ (forTrait "a::b").payloadPath ∧
    Format.ofPath (Command.defaultLocation (forTrait "a::..::b.js") .json) = .json := by
  have first : (forTrait "a::..::b.js").IsPlaced := by decide
  have second : (forTrait "b.js").IsPlaced := by decide
  have third : (forTrait "a::b").IsPlaced := by decide
  obtain ⟨apart, suffix, other, read⟩ := locations_apart first
  have differ : (forTrait "b.js").payloadPath ≠ (forTrait "a::..::b.js").payloadPath := by
    intro same
    exact absurd (apart (forTrait "b.js") rfl second same) (by decide)
  exact ⟨first, second, third, differ, suffix, other _ third, read⟩

end Settings
end TraitCatalog

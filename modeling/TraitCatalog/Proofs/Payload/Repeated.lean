import TraitCatalog.Payload.Loading
import TraitCatalog.Proofs.Catalog.Rebuilt
import TraitCatalog.Proofs.Payload.Recognized

namespace TraitCatalog

open Json (Padded Member SpellsText Spells allWords)

namespace Json

-- A member with an array for a library. The array stands on one line, and there is room for a document
-- around it.
structure Member.Gives (m : Member) (p : Text × List Json) : Prop where
  key   : SpellsText m.key.word p.1
  array : ∃ n < Limit.mostContainers, Spells allWords n m.item.word (.array p.2)
  pair  : m.pair = Script.field p
  whole : Code.char '\n' ∉ m.item.word

end Json

-- The script with a line for each of the members, without the blanks around their words.
def Script.ofMembers (ms : List Member) : Text :=
  Text.join "\n" (prologue :: ms.map (fun m => statement m.key.word m.item.word) ++ [epilogue])

def Document.ofMembers (ms : List Member) : Text :=
  .char '\x7b' :: Text.join [.char ','] (ms.map Member.text) ++ [.char '\x7d']

variable {ms : List Member} {pairs : List (Text × List Json)}

theorem Json.map_pair_of_gives (h : List.Forall₂ Member.Gives ms pairs) :
    ms.map Member.pair = pairs.map Script.field := by
  induction h
  case nil => rfl
  case cons first _ ih => rw [List.map_cons, List.map_cons, first.pair, ih]

theorem Json.exists_gives {m : Member} (h : List.Forall₂ Member.Gives ms pairs) (hm : m ∈ ms) :
    ∃ p, m.Gives p := by
  induction h
  case nil => cases hm
  case cons first _ ih =>
    obtain rfl | hm := List.mem_cons.mp hm
    · exact ⟨_, first⟩
    · exact ih hm

theorem Json.Member.Gives.bare {m : Member} (h : m.Gives p) :
    Script.Bare (Script.statement m.key.word m.item.word) :=
  Script.bare_statement h.key.feed_not_mem h.whole

theorem Json.Member.Gives.assigns {m : Member} (h : m.Gives p) :
    Script.Assigns allWords Limit.mostContainers (Script.statement m.key.word m.item.word) p := by
  obtain ⟨n, room, spells⟩ := h.array
  exact .statement h.key (spells.mono (fun _ => id) (Nat.le_of_lt room))

theorem Script.follows_ofMembers (h : List.Forall₂ Member.Gives ms pairs) :
    Follows allWords Limit.mostContainers (ofMembers ms) pairs := by
  refine ⟨_, laid_join ?bare, ?body⟩
  case bare =>
    intro line mem
    obtain ⟨m, hm, rfl⟩ := List.mem_map.mp mem
    obtain ⟨p, gives⟩ := Json.exists_gives h hm
    exact gives.bare
  case body =>
    induction h
    case nil => exact .nil
    case cons first _ ih => exact .assignment first.assigns ih

theorem Json.Member.Gives.spells {m : Member} (h : m.Gives p) (hn : n + 1 = Limit.mostContainers) :
    SpellsText m.key.word m.key.value ∧ Spells allWords n m.item.word m.item.value := by
  obtain ⟨library, array⟩ : m.key.value = p.1 ∧ m.item.value = .array p.2 := Prod.ext_iff.mp h.pair
  obtain ⟨k, room, spells⟩ := h.array
  rw [library, array]
  exact ⟨h.key, spells.mono (fun _ => id) (by omega)⟩

theorem Document.spells_ofMembers (h : List.Forall₂ Member.Gives ms pairs) :
    Spells allWords Limit.mostContainers (ofMembers ms) (.object (Keyed.ofPairs (pairs.map Script.field))) := by
  obtain ⟨n, hn⟩ : ∃ n, n + 1 = Limit.mostContainers := ⟨989, rfl⟩
  rw [← hn, ← Json.map_pair_of_gives h]
  by_cases none : ms = []
  case pos =>
    subst none
    exact .emptyObject Json.blank_nil
  case neg =>
    have words : ∀ m ∈ ms, SpellsText m.key.word m.key.value ∧ Spells allWords n m.item.word m.item.value := by
      intro m hm
      obtain ⟨p, gives⟩ := Json.exists_gives h hm
      exact gives.spells hn
    exact .object ms none (fun m hm => (words m hm).left) fun m hm => (words m hm).right

theorem Document.read_ofMembers (h : List.Forall₂ Member.Gives ms pairs) :
    read (ofMembers ms) = .ok (Keyed.ofPairs (pairs.map Script.field)) := by
  let data : Json := .object (Keyed.ofPairs (pairs.map Script.field))
  let whole : Padded Json := ⟨[], ofMembers ms, data, [], Json.blank_nil, Json.blank_nil⟩
  have value : Json.read (ofMembers ms) = .ok data :=
    Json.read_eq_ok_iff.mpr ⟨whole, List.append_nil _, rfl, spells_ofMembers h⟩
  rw [read, value]

-- Libraries that are put together as data make the catalog that they make when they are put together as
-- lists of implementors.
theorem Catalog.ofFields_ofPairs {built : List (Text × List Implementor)} {ps : List (Text × Json)}
    (h : Keyed.Alike Lists ps built) (context : Text) :
    ofFields context (Keyed.ofPairs ps) = .ok (ofPairs built) := by
  have again : ofPairs (Keyed.ofPairs built) = ofPairs built := by
    simp [ofPairs, Keyed.ofPairs_of_nodup (Keyed.nodup_keys_ofPairs built)]
  exact (ofFields_eq_ok_iff context).mpr ⟨_, h.ofPairs, again.symm⟩

-- A script and a document with the same members give the same data: each library once, at its first
-- place, with its last array. If all of the arrays list implementors, the catalog of the data is the one
-- of the lists. Both are read at one depth of calls, for which `Limit.mostContainers` stands.
theorem Payload.read_members (ms : List Member) (pairs : List (Text × List Json))
    (h : List.Forall₂ Member.Gives ms pairs) (context : Text) :
    ∃ fields, read context (Script.ofMembers ms) .script = .ok fields ∧
      read context (Document.ofMembers ms) .json = .ok fields ∧
      Script.Collects pairs fields ∧
      ∀ built, Keyed.Alike Catalog.Lists (pairs.map Script.field) built →
        Catalog.ofJson context (.object fields) = .ok (.ofPairs built) := by
  refine ⟨Keyed.ofPairs (pairs.map Script.field), ?script, ?document, ?collects, ?built⟩
  case script =>
    have fields := Script.read_eq_ok_iff.mpr ⟨pairs, Script.follows_ofMembers h, Script.collects_ofPairs pairs⟩
    rw [read, fields]
    rfl
  case document =>
    rw [read, Document.read_ofMembers h]
    rfl
  case collects => exact Script.collects_ofPairs pairs
  case built =>
    intro built lists
    simp [Catalog.ofJson, Json.expectObject, Catalog.ofFields_ofPairs lists]

-- A member without blanks.
def Json.Member.tight (key : Text) (library : Text) (array : Text) (items : List Json) : Member :=
  ⟨⟨[], key, library, [], blank_nil, blank_nil⟩, ⟨[], array, .array items, [], blank_nil, blank_nil⟩⟩

-- A library that is repeated under an escape, with an implementor that it did not have at first.
theorem Payload.read_members_escaped :
    let d : Implementor := ⟨"impl T", false, ["a::S"], by decide, by decide⟩
    let ms : List Member := [.tight "\"a\"" "a" "[]" [], .tight "\"b\"" "b" "[]" [],
      .tight "\"\\u0061\"" "a" (Json.array [d.toJson]).compact [d.toJson]]
    let pairs : List (Text × List Json) := [("a", []), ("b", []), ("a", [d.toJson])]
    List.Forall₂ Member.Gives ms pairs ∧
    Keyed.Alike Catalog.Lists (pairs.map Script.field) [("a", []), ("b", []), ("a", [d])] ∧
    ∃ fields, read "doc" (Script.ofMembers ms) .script = .ok fields ∧
      read "doc" (Document.ofMembers ms) .json = .ok fields ∧
      Script.Collects pairs fields ∧
      Catalog.ofJson "doc" (.object fields) = .ok (.ofPairs [("a", []), ("b", []), ("a", [d])]) := by
  intro d ms pairs
  have a : SpellsText "\"a\"" "a" := Script.spellsText_a
  have b : SpellsText "\"b\"" "b" := .quoted (.plain (by decide) (by decide) (by decide) .nil)
  have escaped : SpellsText "\"\\u0061\"" "a" := by
    have four : Json.Escape "\\u0061" 0x61 :=
      .digits (.lower (n := 0) rfl) (.lower (n := 0) rfl) (.lower (n := 6) rfl) (.lower (n := 1) rfl)
    exact .quoted (.number four (fun high => absurd high.left (by decide)) .nil)
  have empty : ∃ n < Limit.mostContainers, Spells allWords n "[]" (.array []) :=
    ⟨1, by decide, .emptyArray Json.blank_nil⟩
  have full : ∃ n < Limit.mostContainers, Spells allWords n (Json.array [d.toJson]).compact
      (.array [d.toJson]) :=
    ⟨3, by decide, (Json.spells_write .compact 0 (Catalog.plain_library [d])).of_standard (Nat.le_refl _)⟩
  have gives : List.Forall₂ Member.Gives ms pairs :=
    .cons ⟨a, empty, rfl, by decide⟩ (.cons ⟨b, empty, rfl, by decide⟩
      (.cons ⟨escaped, full, rfl, by decide⟩ .nil))
  have lists : Keyed.Alike Catalog.Lists (pairs.map Script.field) [("a", []), ("b", []), ("a", [d])] :=
    .cons ⟨rfl, [], rfl, .nil⟩ (.cons ⟨rfl, [], rfl, .nil⟩
      (.cons ⟨rfl, _, rfl, .cons ⟨_, rfl, d.describedBy_toFields⟩ .nil⟩ .nil))
  obtain ⟨fields, script, document, collects, built⟩ := read_members ms pairs gives "doc"
  exact ⟨gives, lists, fields, script, document, collects, built _ lists⟩

theorem Script.read_tight (hk : SpellsText key library) (line : Code.char '\n' ∉ array)
    (spells : Spells allWords Limit.mostContainers array (.array items)) :
    read (ofMembers [.tight key library array items]) = .ok [(library, .array items)] := by
  have laid := laid_single hk.feed_not_mem line
  exact read_eq_ok_iff.mpr ⟨[(library, items)], ⟨_, laid, .assignment (.statement hk spells) .nil⟩,
    collects_iff.mpr rfl⟩

theorem Document.ofMembers_tight (key library array : Text) (items : List Json) :
    ofMembers [.tight key library array items] = .char '\x7b' :: key ++ [.char ':'] ++ array ++ [.char '\x7d'] := by
  simp [ofMembers, Member.tight, Member.text, Padded.text, Text.join]

-- An integer that is too long is refused in both forms.
theorem Payload.read_tight_of_digits (hk : SpellsText key library) (whole : Json.Whole d)
    (many : Limit.mostDigits < d.length) (items : List Json) :
    let ms : List Member := [.tight key library (.char '[' :: d ++ [.char ']']) items]
    Script.read (Script.ofMembers ms) = .error (.beyond .digits) ∧
      Document.read (Document.ofMembers ms) = .error (.beyond .digits) := by
  constructor
  case left =>
    have digits : Code.char '\n' ∉ d := fun feed => absurd (whole.left.right _ feed) (by decide)
    have line : Code.char '\n' ∉ .char '[' :: d ++ [.char ']'] :=
      (Json.mem_bracketed (by decide) (by decide)).not.mpr digits
    have exceeds := Json.Awaits.start.exceeds_of_digits (by decide) whole many []
    rw [List.append_nil] at exceeds
    exact Script.read_eq_beyond_iff.mpr
      ⟨[], _, [], [], Script.laid_single hk.feed_not_mem line, .nil, .statement hk exceeds⟩
  case right =>
    have room : 1 < Limit.mostContainers := by decide
    have exceeds := (Json.awaits_first hk).exceeds_of_digits room whole many [.char '\x7d']
    rw [Document.ofMembers_tight, Document.read, Json.read_eq_beyond_iff.mpr exceeds]

-- Where there is no room for the document, or where an integer is too long, the two forms do not mean the
-- same, or mean nothing.
theorem Payload.read_members_beyond :
    (∃ items, Spells allWords 990 (Json.nested 990) (.array items) ∧
      let ms : List Member := [.tight "\"a\"" "a" (Json.nested 990) items]
      Script.read (Script.ofMembers ms) = .ok [("a", .array items)] ∧
      Document.read (Document.ofMembers ms) = .error (.beyond .depth)) ∧
    let long : Text := List.replicate 4301 (.char '1')
    let ms : List Member :=
      [.tight "\"a\"" "a" (.char '[' :: long ++ [.char ']']) [.int (Text.decimalValue long)]]
    Json.Whole long ∧ Script.read (Script.ofMembers ms) = .error (.beyond .digits) ∧
      Document.read (Document.ofMembers ms) = .error (.beyond .digits) := by
  constructor
  case left =>
    obtain ⟨items, spells⟩ : ∃ items, Spells allWords 990 (Json.nested 990) (.array items) :=
      Json.exists_spells_nested 989
    have line : Code.char '\n' ∉ Json.nested 990 := by
      simp only [Json.nested, List.mem_append, List.mem_replicate]
      decide
    have exceeds := (Json.awaits_first Script.spellsText_a).exceeds_of_brackets (n := 990) (by decide)
      (List.replicate 990 (.char ']') ++ [.char '\x7d'])
    have read : Json.read _ = _ := Json.read_eq_beyond_iff.mpr exceeds
    refine ⟨items, spells, Script.read_tight Script.spellsText_a line spells, ?_⟩
    rw [Document.ofMembers_tight, Json.nested, Document.read]
    simp only [List.append_assoc] at read ⊢
    rw [read]
  case right =>
    intro long ms
    have whole : Json.Whole long := Json.whole_ones 4300
    have many : Limit.mostDigits < long.length := by
      rw [List.length_replicate]
      decide
    exact ⟨whole, read_tight_of_digits Script.spellsText_a whole many _⟩

end TraitCatalog

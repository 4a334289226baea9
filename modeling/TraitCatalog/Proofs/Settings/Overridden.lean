import TraitCatalog.Proofs.Except
import TraitCatalog.Proofs.Keyed
import TraitCatalog.Settings.Project

namespace TraitCatalog
namespace Settings

-- The field holds what it takes from the value.
def Takes (s : Settings) (v : Value) : Field → Prop
  | .trait           => v.toName = .ok s.trait
  | .consumerGroup   => v.toName = .ok s.consumerGroup
  | .consumer        => v.optional Value.toText = .ok s.consumer
  | .validatesSchema => v.toBool = .ok s.validatesSchema
  | .schemaRoot      => v.optional Value.toPath = .ok s.schemaRoot
  | .emoji           => v.toBool = .ok s.emoji
  | .color           => v.toBool = .ok s.color
  | .payloadDir      => v.toPath = .ok s.payloadDir

-- Likewise, with paths seen from the root.
def TakesFrom (s : Settings) (root : Path) (v : Value) : Field → Prop
  | .schemaRoot => ∃ p, v.optional Value.toPath = .ok p ∧ s.schemaRoot = p.map root.join
  | .payloadDir => ∃ p, v.toPath = .ok p ∧ s.payloadDir = root.join p
  | f           => s.Takes v f

variable {s s' : Settings} {f g : Field} {v w : Value} {given : Keyed Value}

theorem takes_of_set (h : s.set f v = .ok s') : s'.Takes v f := by
  cases f <;> simp only [set, Except.bind_eq_ok_iff, Except.pure_eq_ok, Except.ok.injEq] at h <;>
    obtain ⟨_, taken, rfl⟩ := h <;> exact taken

-- Setting one field leaves the others as they are.
theorem takes_set_other (h : s.set f v = .ok s') (other : g ≠ f) : s'.Takes w g ↔ s.Takes w g := by
  cases f <;> simp only [set, Except.bind_eq_ok_iff, Except.pure_eq_ok, Except.ok.injEq] at h <;>
    obtain ⟨_, -, rfl⟩ := h <;> cases g <;> first | rfl | exact absurd rfl other

theorem takesFrom_locate (h : s.Takes v f) (root : Path) : (s.locate root).TakesFrom root v f := by
  cases f
  case schemaRoot => exact ⟨_, h, rfl⟩
  case payloadDir => exact ⟨_, h, rfl⟩
  all_goals exact h

-- No issue comes up with a field that has no value or takes the one it has.
theorem take_eq_iff : s.take given f = (s', []) ↔
    (given.get? f.name = none ∧ s = s') ∨ ∃ v, given.get? f.name = some v ∧ s.set f v = .ok s' := by
  unfold take
  cases value : given.get? f.name
  case none => simp
  case some v => cases set : s.set f v <;> simp [set]

theorem takeAll_cons_eq_iff : s.takeAll given (f :: fields) = (s', []) ↔
    ∃ s₁, s.take given f = (s₁, []) ∧ s₁.takeAll given fields = (s', []) := by
  simp only [takeAll, Prod.ext_iff, List.append_eq_nil_iff]
  constructor
  case mp =>
    rintro ⟨rfl, first, others⟩
    exact ⟨_, ⟨rfl, first⟩, rfl, others⟩
  case mpr =>
    rintro ⟨s₁, ⟨rfl, first⟩, rfl, others⟩
    exact ⟨rfl, first, others⟩

theorem takes_take_other (h : s.take given f = (s', [])) (other : g ≠ f) : s'.Takes w g ↔ s.Takes w g := by
  obtain ⟨-, rfl⟩ | ⟨v, -, set⟩ := take_eq_iff.mp h
  · rfl
  · exact takes_set_other set other

theorem takes_takeAll_other (h : s.takeAll given fields = (s', [])) (other : g ∉ fields) :
    s'.Takes w g ↔ s.Takes w g := by
  induction fields generalizing s
  case nil =>
    cases h
    rfl
  case cons f fields ih =>
    obtain ⟨s₁, first, others⟩ := takeAll_cons_eq_iff.mp h
    rw [List.mem_cons, not_or] at other
    rw [ih others other.right, takes_take_other first other.left]

-- Every field takes the value that is given for it.
theorem takes_of_takeAll (h : s.takeAll given fields = (s', [])) (nodup : fields.Nodup) (mem : f ∈ fields)
    (value : given.get? f.name = some v) : s'.Takes v f := by
  induction fields generalizing s
  case nil => cases mem
  case cons g fields ih =>
    obtain ⟨s₁, first, others⟩ := takeAll_cons_eq_iff.mp h
    obtain ⟨new, nodup⟩ := List.nodup_cons.mp nodup
    obtain rfl | mem := List.mem_cons.mp mem
    case inr => exact ih others nodup mem
    case inl =>
      obtain ⟨none, -⟩ | ⟨w, same, set⟩ := take_eq_iff.mp first
      · cases none.symm.trans value
      · obtain rfl : w = v := Option.some.inj (same.symm.trans value)
        exact (takes_takeAll_other others new).mpr (takes_of_set set)

-- Values are taken as settings only if every one of them is taken and every name is one of a field.
theorem ofValues_eq_ok (h : ofValues given = .ok s) :
    standard.takeAll given Field.all = (s, []) ∧ ∀ name ∈ given.keys, (Field.ofName? name).isSome := by
  unfold ofValues at h
  cases taken : standard.takeAll given Field.all with | mk s₁ refused
  simp only [taken] at h
  split at h
  case isTrue => cases h
  case isFalse =>
    split at h
    case h_2 => cases h
    case h_1 none =>
      cases h
      obtain ⟨rfl, unknown⟩ := List.append_eq_nil_iff.mp none
      refine ⟨rfl, fun name mem => ?_⟩
      have known := List.filter_eq_nil_iff.mp (List.map_eq_nil_iff.mp unknown) name mem
      rwa [Bool.not_eq_true, Option.isNone_eq_false_iff] at known

-- The pairs with a key that means the same setting.
def spellings (values : Keyed Value) (key : Text) : Keyed Value :=
  values.filter fun p => settingName p.1 = settingName key

-- The setting of the key is named again behind the key itself.
def Respelled (values : Keyed Value) (key : Text) : Prop :=
  ∃ front p back, values = front ++ p :: back ∧ key ∈ Keyed.keys front ∧ settingName p.1 = settingName key

-- Of the spellings of a setting, the last one counts.
theorem get?_normalise (values : Keyed Value) (key : Text) :
    (normalise values).get? (settingName key) = (spellings values key).getLast?.map Prod.snd := by
  rw [normalise, Keyed.get?_ofPairs_eq_getLast?_filter, List.filter_map, List.getLast?_map, Option.map_map]
  rfl

-- The override takes the place of the value under its key.
theorem spellings_update {before after : Keyed Value} (values : Keyed Value)
    (single : ((Keyed.keys (before ++ (key, v) :: after)).map settingName).Nodup) :
    spellings (values.update (before ++ (key, v) :: after)) key = (spellings values key).put key v := by
  simp only [Keyed.keys, List.map_append, List.map_cons, List.nodup_append, List.nodup_cons,
    List.mem_cons] at single
  obtain ⟨-, ⟨behind, -⟩, apart⟩ := single
  have ahead : ∀ other ∈ Keyed.keys before, settingName other ≠ settingName key := fun other mem =>
    apart _ (List.mem_map_of_mem mem) _ (.inl rfl)
  have later : ∀ other ∈ Keyed.keys after, settingName other ≠ settingName key := fun other mem same =>
    behind (same ▸ List.mem_map_of_mem mem)
  exact Keyed.filter_update_single values (decide_eq_true rfl)
    (fun other mem => decide_eq_false (ahead other mem))
    (fun other mem => decide_eq_false (later other mem)) v

-- Only the spellings of the setting tell whether it is named again.
theorem respelled_iff : Respelled values key ↔ key ∈ Keyed.keys (spellings values key).dropLast := by
  constructor
  case mp =>
    rintro ⟨front, p, back, rfl, mem, same⟩
    obtain ⟨q, there, rfl⟩ := List.mem_map.mp mem
    have known : q ∈ spellings front q.1 := List.mem_filter.mpr ⟨there, decide_eq_true rfl⟩
    have split : spellings (front ++ p :: back) q.1 = spellings front q.1 ++ p :: spellings back q.1 := by
      simp [spellings, same]
    rw [split, List.dropLast_append_of_ne_nil (List.cons_ne_nil _ _)]
    exact List.mem_map_of_mem (List.mem_append_left _ known)
  case mpr =>
    intro mem
    obtain none | ⟨front, p, last⟩ := List.eq_nil_or_concat' (spellings values key)
    case inl =>
      rw [none] at mem
      cases mem
    case inr =>
      rw [last, List.dropLast_concat] at mem
      obtain ⟨first, second, rfl, rfl, single⟩ := List.filter_eq_append_iff.mp last
      obtain ⟨there, same⟩ := List.mem_filter.mp (single ▸ List.mem_singleton_self p)
      obtain ⟨between, back, rfl⟩ := List.append_of_mem there
      have known : key ∈ Keyed.keys (first ++ between) :=
        List.map_subset Prod.fst (List.subset_append_of_subset_left between (List.filter_subset_self first)) mem
      exact ⟨first ++ between, p, back, (List.append_assoc ..).symm, known, of_decide_eq_true same⟩

instance (values : Keyed Value) (key : Text) : Decidable (Respelled values key) :=
  decidable_of_iff _ (List.contains_iff_mem.trans respelled_iff.symm)

-- The override comes last, if its setting is not named again behind its key.
theorem getLast?_put_of_not_respelled (h : ¬Respelled values key) (v : Value) :
    ((spellings values key).put key v).getLast? = some (key, v) := by
  rw [respelled_iff] at h
  obtain none | ⟨front, p, last⟩ := List.eq_nil_or_concat' (spellings values key)
  case inl =>
    rw [none]
    rfl
  case inr =>
    rw [last, List.dropLast_concat] at h
    rw [last, Keyed.put_append_of_not_mem h, List.getLast?_append, Keyed.put]
    split <;> rfl

-- Otherwise what comes last stays as it is.
theorem getLast?_put_of_respelled (h : Respelled values key) (v : Value) :
    ∃ p, (spellings values key).getLast? = some p ∧ ((spellings values key).put key v).getLast? = some p := by
  rw [respelled_iff] at h
  obtain none | ⟨front, p, last⟩ := List.eq_nil_or_concat' (spellings values key)
  case inl =>
    rw [none] at h
    cases h
  case inr =>
    rw [last, List.dropLast_concat] at h
    rw [last, Keyed.put_append_of_mem h, List.getLast?_concat, List.getLast?_concat]
    exact ⟨p, rfl, rfl⟩

theorem exists_effective (mem : (key, v) ∈ overrides) (set : v ≠ .null) :
    ∃ before after, effective overrides = before ++ (key, v) :: after :=
  List.append_of_mem (List.mem_filter.mpr ⟨mem, decide_eq_true set⟩)

theorem nodup_effective (single : ((Keyed.keys overrides).map settingName).Nodup) :
    ((effective overrides).keys.map settingName).Nodup :=
  single.sublist ((List.filter_sublist.map _).map _)

theorem effective_null (front back : Keyed Value) (key : Text) :
    effective (front ++ (key, .null) :: back) = effective (front ++ back) := by
  simp [effective]

theorem load_eq_ok_iff : load tree root overrides = .ok s ↔
    ∃ file, fileValues tree (root.child projectFile) = .ok file ∧
      ∃ s₀, ofValues (normalise (file.update (effective overrides))) = .ok s₀ ∧ s₀.locate root = s := by
  simp only [load, Except.bind_eq_ok_iff, Except.mapError_eq_ok_iff, Except.pure_eq_ok, Except.ok.injEq]

theorem Field.name_of_ofName? {t : Text} {f : Field} (h : ofName? t = some f) : f.name = t := by
  rw [ofName?] at h
  simpa using List.find?_some h

-- A name under which a value was taken is one of a field, and the field has taken the value.
theorem exists_takes_of_ofValues (h : ofValues given = .ok s) (value : given.get? name = some v) :
    ∃ f, Field.ofName? name = some f ∧ s.Takes v f := by
  obtain ⟨taken, known⟩ := ofValues_eq_ok h
  have mem : name ∈ given.keys := Keyed.isSome_get?_iff.mp (Option.isSome_of_mem value)
  obtain ⟨f, named⟩ := Option.isSome_iff_exists.mp (known name mem)
  obtain rfl := Field.name_of_ofName? named
  exact ⟨f, named, takes_of_takeAll taken (by decide) (Field.mem_all f) value⟩

-- What a setting takes is the value under its last spelling, once the overrides are put over the file.
theorem exists_takesFrom_of_last (h : ofValues (normalise values) = .ok s)
    (last : (spellings values key).getLast? = some (other, w)) (root : Path) :
    ∃ f, Field.ofName? (settingName key) = some f ∧ (s.locate root).TakesFrom root w f := by
  have value : (normalise values).get? (settingName key) = some w := by
    rw [get?_normalise, last, Option.map_some]
  obtain ⟨f, named, takes⟩ := exists_takes_of_ofValues h value
  exact ⟨f, named, takesFrom_locate takes root⟩

-- A setting takes the value of its override, unless the file names it again behind the key of the override;
-- there it takes the last value of the file. An override without a value changes nothing. Whether a field takes a value
-- is left to `Settings.ofValues`.
theorem load_overridden (tree : FileTree) (root : Path) (overrides : Keyed Value)
    (single : (overrides.keys.map settingName).Nodup) :
    (∀ s, load tree root overrides = .ok s → ∃ file, fileValues tree (root.child projectFile) = .ok file ∧
      ∀ key v, (key, v) ∈ overrides → v ≠ .null → ∃ f, Field.ofName? (settingName key) = some f ∧
        (¬Respelled file key → s.TakesFrom root v f) ∧
        (Respelled file key → ∃ other w, (spellings file key).getLast? = some (other, w) ∧
          s.TakesFrom root w f)) ∧
    ∀ front key back, overrides = front ++ (key, .null) :: back →
      load tree root overrides = load tree root (front ++ back) := by
  constructor
  case left =>
    intro s loaded
    obtain ⟨file, read, s, valid, rfl⟩ := load_eq_ok_iff.mp loaded
    refine ⟨file, read, fun key v mem set => ?_⟩
    obtain ⟨before, after, eff⟩ := exists_effective mem set
    have put := spellings_update file (eff ▸ nodup_effective single)
    rw [← eff] at put
    by_cases respelled : Respelled file key
    case pos =>
      obtain ⟨⟨other, w⟩, last, kept⟩ := getLast?_put_of_respelled respelled v
      obtain ⟨f, named, takes⟩ := exists_takesFrom_of_last valid (put ▸ kept) root
      exact ⟨f, named, fun not => absurd respelled not, fun _ => ⟨other, w, last, takes⟩⟩
    case neg =>
      have last := getLast?_put_of_not_respelled respelled v
      obtain ⟨f, named, takes⟩ := exists_takesFrom_of_last valid (put ▸ last) root
      exact ⟨f, named, fun _ => takes, fun yes => absurd yes respelled⟩
  case right =>
    rintro front key back rfl
    rw [load, load, effective_null]

-- A project that names one setting in two ways.
def twiceNamed : FileTree :=
  let content : Text := "[tool.doc-implementors]\nconsumer_group = 'a'\nconsumer-group = 'b'\n"
  ⟨[(⟨.above 0, ["docs"]⟩, .directory),
    (⟨.above 0, ["docs", "pyproject.toml"]⟩, .file (content.utf8?.getD []))]⟩

theorem fileValues_twiceNamed : fileValues twiceNamed ((Path.ofText "docs").child projectFile) =
    .ok [("consumer_group", .string "a"), ("consumer-group", .string "b")] := by
  decide +kernel

-- Overrides under the last spelling of the file, for a setting that the file does not name, and without a
-- value.
theorem load_overridden_twiceNamed :
    let overrides : Keyed Value :=
      [("consumer-group", .string "c"), ("payload-dir", .string "out"), ("trait", .null)]
    ((Keyed.keys overrides).map settingName).Nodup ∧
    ∃ s, load twiceNamed (.ofText "docs") overrides = .ok s ∧
      s.TakesFrom (.ofText "docs") (.string "c") .consumerGroup ∧
      s.TakesFrom (.ofText "docs") (.string "out") .payloadDir ∧
      load twiceNamed (.ofText "docs") overrides =
        load twiceNamed (.ofText "docs") [("consumer-group", .string "c"), ("payload-dir", .string "out")] := by
  intro overrides
  have single : ((Keyed.keys overrides).map settingName).Nodup := by decide
  have loaded : load twiceNamed (.ofText "docs") overrides =
      .ok { standard with consumerGroup := "c", payloadDir := .ofText "docs/out" } := by
    rw [load, fileValues_twiceNamed]
    rfl
  obtain ⟨wins, nothing⟩ := load_overridden twiceNamed (.ofText "docs") overrides single
  obtain ⟨file, read, wins⟩ := wins _ loaded
  cases read.symm.trans fileValues_twiceNamed
  obtain ⟨group, named, group_wins, -⟩ := wins "consumer-group" (.string "c") (by decide) nofun
  obtain ⟨dir, named', dir_wins, -⟩ := wins "payload-dir" (.string "out") (by decide) nofun
  cases named
  cases named'
  have same := nothing [("consumer-group", .string "c"), ("payload-dir", .string "out")] "trait" [] rfl
  rw [List.append_nil] at same
  exact ⟨single, _, loaded, group_wins (by decide), dir_wins (by decide), same⟩

-- Under the first spelling, the override is lost.
theorem load_respelled :
    let overrides : Keyed Value := [("consumer_group", .string "c")]
    ((Keyed.keys overrides).map settingName).Nodup ∧
    Field.ofName? (settingName "consumer_group") = some .consumerGroup ∧
    ∃ s, load twiceNamed (.ofText "docs") overrides = .ok s ∧
      ¬s.TakesFrom (.ofText "docs") (.string "c") .consumerGroup := by
  intro overrides
  have loaded : load twiceNamed (.ofText "docs") overrides =
      .ok { standard with consumerGroup := "b", payloadDir := .ofText "docs/implementors" } := by
    rw [load, fileValues_twiceNamed]
    rfl
  have taken : (Value.string "c").toName = .ok ("c" : Text) := rfl
  refine ⟨by decide, rfl, _, loaded, fun takes => ?_⟩
  cases taken.symm.trans takes

end Settings
end TraitCatalog

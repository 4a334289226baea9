import Mathlib.Data.List.Lex
import Mathlib.Data.List.Nodup
import Mathlib.Data.List.Perm.Basic
import TraitCatalog.Handoff.Consumer

namespace TraitCatalog
namespace Text

-- Texts are ordered as the numbers of their code points are.
theorem le_iff_map_toNat_le {s t : Text} : s.le t ↔ s.map Code.toNat ≤ t.map Code.toNat := by
  rw [← not_lt]
  induction s generalizing t
  case nil => simp [le]
  case cons c s ih =>
    cases t
    case nil      => simp [le]
    case cons d t =>
      have same : c = d ↔ c.toNat = d.toNat := (Function.LeftInverse.injective Code.ofNat_toNat).eq_iff.symm
      simp only [le, Bool.or_eq_true, Bool.and_eq_true, decide_eq_true_eq, ih, same, List.map_cons,
        List.cons_lt_cons_iff]
      grind

protected theorem le_trans {s t u : Text} (h₁ : s.le t) (h₂ : t.le u) : s.le u :=
  le_iff_map_toNat_le.mpr ((le_iff_map_toNat_le.mp h₁).trans (le_iff_map_toNat_le.mp h₂))

protected theorem le_total (s t : Text) : s.le t ∨ t.le s := by
  simpa only [le_iff_map_toNat_le] using le_total (s.map Code.toNat) (t.map Code.toNat)

protected theorem le_refl (t : Text) : t.le t :=
  le_iff_map_toNat_le.mpr le_rfl

protected theorem le_antisymm {s t : Text} (h₁ : s.le t) (h₂ : t.le s) : s = t := by
  have same := (le_iff_map_toNat_le.mp h₁).antisymm (le_iff_map_toNat_le.mp h₂)
  exact List.map_injective_iff.mpr (Function.LeftInverse.injective Code.ofNat_toNat) same

end Text

namespace Consumer

-- The entry point can be loaded, or it says that it cannot.
def EntryPoint.Loads (e : EntryPoint) : Prop :=
  ∀ message, e.loaded ≠ .crash message

-- The consumer that an entry point contributes, if it can be used.
def EntryPoint.consumer? (e : EntryPoint) : Option Consumer :=
  match e.loaded with
  | .hook h => some ⟨e.name, h⟩
  | _       => none

def usable (entries : List EntryPoint) : List Consumer :=
  entries.filterMap EntryPoint.consumer?

-- `found` are the `given` consumers by name; those of equal names keep their order.
structure Ranks (given found : List Consumer) : Prop where
  perm    : found.Perm given
  ordered : found.Pairwise (·.name.le ·.name)
  stable  : ∀ name, found.filter (·.name = name) = given.filter (·.name = name)

-- The first entry point of the name that can be used contributes the consumer.
def Earliest (entries : List EntryPoint) (name : Text) (c : Consumer) : Prop :=
  ∃ front e back, entries = front ++ e :: back ∧ e.name = name ∧ e.consumer? = some c ∧
    ∀ other ∈ front, other.name = name → other.consumer? = none

variable {e : EntryPoint} {entries : List EntryPoint} {given found : List Consumer} {c : Consumer}
variable {name : Text}

theorem EntryPoint.name_of_consumer? (h : e.consumer? = some c) : c.name = e.name := by
  unfold consumer? at h
  split at h
  case h_1 => cases h; rfl
  case h_2 => cases h

theorem loadAll_of_loads (loads : ∀ e ∈ entries, e.Loads) : (loadAll entries).2 = .ok (usable entries) := by
  induction entries
  case nil => rfl
  case cons e entries ih =>
    obtain ⟨first, others⟩ := List.forall_mem_cons.mp loads
    unfold loadAll usable
    cases loaded : e.loaded
    case crash message => exact absurd loaded (first message)
    all_goals simp [ih others, EntryPoint.consumer?, loaded, Except.map, usable]

-- Whether an entry point contributes a consumer of the name.
theorem EntryPoint.any_consumer?_iff :
    e.consumer?.any (·.name = name) ↔ e.name = name ∧ e.consumer? ≠ none := by
  cases contributes : e.consumer?
  case none   => simp
  case some c => simp [name_of_consumer? contributes]

theorem find?_usable_eq_some_iff :
    (usable entries).find? (·.name = name) = some c ↔ Earliest entries name c := by
  simp only [usable, List.find?_filterMap, Option.bind_eq_some_iff, List.find?_eq_some_iff_append,
    EntryPoint.any_consumer?_iff, Bool.not_eq_true', ← Bool.not_eq_true]
  constructor
  case mp =>
    rintro ⟨e, ⟨⟨named, -⟩, front, back, split, others⟩, contributes⟩
    exact ⟨front, e, back, split, named, contributes, fun other mem same =>
      by_contra fun usable => others other mem ⟨same, usable⟩⟩
  case mpr =>
    rintro ⟨front, e, back, split, named, contributes, others⟩
    exact ⟨e, ⟨⟨named, by simp [contributes]⟩, front, back, split, fun other mem usable =>
      usable.right (others other mem usable.left)⟩, contributes⟩

theorem forall_mem_usable_iff {p : Text → Prop} :
    (∀ c ∈ usable entries, p c.name) ↔ ∀ e ∈ entries, e.consumer? ≠ none → p e.name := by
  constructor
  case mp =>
    intro all e mem contributes
    obtain ⟨c, contributes⟩ := Option.ne_none_iff_exists'.mp contributes
    exact EntryPoint.name_of_consumer? contributes ▸ all c (List.mem_filterMap.mpr ⟨e, mem, contributes⟩)
  case mpr =>
    intro all c mem
    obtain ⟨e, mem, contributes⟩ := List.mem_filterMap.mp mem
    exact EntryPoint.name_of_consumer? contributes ▸ all e mem (by simp [contributes])

theorem find?_usable_eq_none_iff :
    (usable entries).find? (·.name = name) = none ↔ ∀ e ∈ entries, e.name = name → e.consumer? = none := by
  simp only [List.find?_eq_none, decide_eq_true_eq]
  refine (forall_mem_usable_iff (p := (· ≠ name))).trans ?_
  exact forall₂_congr fun _ _ => not_imp_not

theorem filter_usable :
    (usable entries).filter (·.name = name) = usable (entries.filter (·.name = name)) := by
  induction entries
  case nil => rfl
  case cons e entries ih =>
    unfold usable at ih ⊢
    cases contributes : e.consumer?
    case none =>
      by_cases named : e.name = name <;> simp [contributes, named, ih]
    case some c =>
      have same := EntryPoint.name_of_consumer? contributes
      by_cases named : e.name = name <;> simp [contributes, same, named, ih]

theorem EntryPoint.name_le_trans (a b d : EntryPoint) (h₁ : a.name.le b.name) (h₂ : b.name.le d.name) :
    a.name.le d.name :=
  Text.le_trans h₁ h₂

theorem EntryPoint.name_le_total (a b : EntryPoint) : a.name.le b.name || b.name.le a.name := by
  simpa using Text.le_total a.name b.name

-- Sorting is stable: the entry points of a name are in order among themselves already.
theorem filter_mergeSort (entries : List EntryPoint) (name : Text) :
    (entries.mergeSort fun a b => a.name.le b.name).filter (·.name = name) =
      entries.filter (·.name = name) := by
  have ordered : (entries.filter (·.name = name)).Pairwise fun a b => a.name.le b.name := by
    refine List.pairwise_of_forall_mem_list fun a mem b mem' => ?_
    have first : a.name = name := by simpa using List.of_mem_filter mem
    have second : b.name = name := by simpa using List.of_mem_filter mem'
    rw [first, second]
    exact Text.le_refl name
  have kept := List.sublist_mergeSort EntryPoint.name_le_trans EntryPoint.name_le_total ordered
    List.filter_sublist
  have all : (entries.filter (·.name = name)).filter (·.name = name) = entries.filter (·.name = name) := by
    simp
  refine ((all ▸ kept.filter _).eq_of_length ?_).symm
  exact ((List.mergeSort_perm ..).filter _).length_eq.symm

theorem ranks_usable : Ranks (usable entries) (usable (entries.mergeSort fun a b => a.name.le b.name)) where
  perm := (List.mergeSort_perm ..).filterMap _
  ordered := by
    have ordered := List.pairwise_mergeSort EntryPoint.name_le_trans EntryPoint.name_le_total entries
    refine ordered.filterMap _ fun a b le c first d second => ?_
    rwa [EntryPoint.name_of_consumer? first, EntryPoint.name_of_consumer? second]
  stable name := by rw [filter_usable, filter_usable, filter_mergeSort]

theorem discover_of_loads (loads : ∀ e ∈ entries, e.Loads) :
    ∃ found, (discover entries).2 = .ok found ∧ Ranks (usable entries) found :=
  ⟨_, loadAll_of_loads fun e mem => loads e (List.mem_mergeSort.mp mem), ranks_usable⟩

namespace Ranks

variable {given' found' others : List Consumer} {d : Consumer}

theorem find?_eq (ranks : Ranks given found) (name : Text) :
    found.find? (·.name = name) = given.find? (·.name = name) := by
  rw [← List.head?_filter, ranks.stable, List.head?_filter]

theorem first_le (ordered : (c :: others).Pairwise (·.name.le ·.name)) (mem : d ∈ c :: others) :
    c.name.le d.name := by
  cases mem
  case head     => exact Text.le_refl _
  case tail mem => exact List.rel_of_pairwise_cons ordered mem

-- The first of all is the first of its name, and no name comes before that.
theorem head?_eq_some_iff (ranks : Ranks given found) : found.head? = some c ↔
    given.find? (·.name = c.name) = some c ∧ ∀ d ∈ given, c.name.le d.name := by
  simp only [← ranks.find?_eq, ← ranks.perm.mem_iff]
  have ordered := ranks.ordered
  cases found
  case nil => simp
  case cons first others =>
    constructor
    case mp =>
      rintro ⟨⟩
      exact ⟨by simp, fun d mem => first_le ordered mem⟩
    case mpr =>
      rintro ⟨search, le⟩
      have mem := List.mem_of_find?_eq_some search
      have named : first.name = c.name :=
        Text.le_antisymm (first_le ordered mem) (le first List.mem_cons_self)
      simpa [named] using search

-- Consumers come by name in one way only, even if some are of equal names.
theorem unique (ranks : Ranks given found) (ranks' : Ranks given found') : found = found' := by
  have ordered := ranks.ordered
  have ordered' := ranks'.ordered
  have perm : found.Perm found' := ranks.perm.trans ranks'.perm.symm
  have alike : ∀ name, found.filter (·.name = name) = found'.filter (·.name = name) := fun name =>
    (ranks.stable name).trans (ranks'.stable name).symm
  clear ranks ranks'
  induction found generalizing found'
  case nil => exact (List.nil_perm.mp perm).symm
  case cons c others ih =>
    cases found'
    case nil            => exact List.perm_nil.mp perm
    case cons d others' =>
      have named : c.name = d.name := Text.le_antisymm
        (first_le ordered (perm.mem_iff.mpr List.mem_cons_self))
        (first_le ordered' (perm.mem_iff.mp List.mem_cons_self))
      obtain ⟨rfl, -⟩ : c = d ∧ _ := by simpa [named] using alike d.name
      refine congrArg _ (ih ordered.of_cons ordered'.of_cons perm.cons_inv fun name => ?_)
      by_cases same : c.name = name
      case pos => simpa [same] using alike name
      case neg => simpa [same] using alike name

-- If the names differ, it makes no difference in which order the consumers are given.
theorem eq_of_perm (ranks : Ranks given found) (ranks' : Ranks given' found') (perm : given'.Perm given)
    (nodup : (given.map Consumer.name).Nodup) : found' = found := by
  have perm : found'.Perm found := (ranks'.perm.trans perm).trans ranks.perm.symm
  refine perm.eq_of_pairwise (fun a b mem mem' first second => ?_) ranks'.ordered ranks.ordered
  have mem  := ranks.perm.mem_iff.mp (perm.mem_iff.mp mem)
  have mem' := ranks.perm.mem_iff.mp mem'
  exact List.inj_on_of_nodup_map nodup mem mem' (Text.le_antisymm first second)

end Ranks

theorem select_some_eq_ok_iff :
    select found (some name) = .ok (some c) ↔ found.find? (·.name = name) = some c := by
  cases search : found.find? (·.name = name) <;> simp [select, search]

theorem select_some_eq_error_iff {f : Failure} :
    select found (some name) = .error f ↔ f = .unknown name ∧ found.find? (·.name = name) = none := by
  cases search : found.find? (·.name = name) <;> simp [select, search, @eq_comm _ f]

theorem nodup_usable (nodup : (entries.map EntryPoint.name).Nodup) :
    ((usable entries).map Consumer.name).Nodup := by
  have different := List.pairwise_map.mp nodup
  refine List.pairwise_map.mpr (different.filterMap _ fun a b different c first d second => ?_)
  rwa [EntryPoint.name_of_consumer? first, EntryPoint.name_of_consumer? second]

-- Discovery finds the usable consumers by name. The consumer of a name is the earliest usable one of that
-- name, and without a name it is the earliest one of the least name. The order of the entry points shows in
-- nothing but equal names, and entry points that cannot be used show in nothing at all.
theorem discover_then_select (entries : List EntryPoint) (loads : ∀ e ∈ entries, e.Loads) :
    ∃ found, (discover entries).2 = .ok found ∧ Ranks (usable entries) found ∧
      (∀ name c, select found (some name) = .ok (some c) ↔ Earliest entries name c) ∧
      (∀ name f, select found (some name) = .error f ↔
        f = .unknown name ∧ ∀ e ∈ entries, e.name = name → e.consumer? = none) ∧
      (∀ c, select found none = .ok (some c) ↔
        Earliest entries c.name c ∧ ∀ e ∈ entries, e.consumer? ≠ none → c.name.le e.name) ∧
      (select found none = .ok none ↔ ∀ e ∈ entries, e.consumer? = none) ∧
      (∀ others, others.Perm entries → (entries.map EntryPoint.name).Nodup →
        (discover others).2 = .ok found) ∧
      ∀ others, (∀ e ∈ others, e.Loads) → usable others = usable entries →
        (discover others).2 = .ok found := by
  obtain ⟨found, discovered, ranks⟩ := discover_of_loads loads
  refine ⟨found, discovered, ranks, ?named, ?unknown, ?first, ?none, ?permuted, ?unusable⟩
  case named =>
    intro name c
    rw [select_some_eq_ok_iff, ranks.find?_eq, find?_usable_eq_some_iff]
  case unknown =>
    intro name f
    rw [select_some_eq_error_iff, ranks.find?_eq, find?_usable_eq_none_iff]
  case first =>
    intro c
    rw [← find?_usable_eq_some_iff, ← forall_mem_usable_iff (p := (c.name.le ·)), ← ranks.head?_eq_some_iff]
    exact ⟨fun selected => Except.ok.inj selected, congrArg _⟩
  case none =>
    have none : found = [] ↔ usable entries = [] := by
      rw [← List.length_eq_zero_iff, ranks.perm.length_eq, List.length_eq_zero_iff]
    rw [← List.filterMap_eq_nil_iff, ← usable, ← none]
    cases found <;> simp [select]
  case permuted =>
    intro others perm nodup
    obtain ⟨found', discovered', ranks'⟩ :=
      discover_of_loads fun e mem => loads e (perm.mem_iff.mp mem)
    rw [discovered', ranks.eq_of_perm ranks' (perm.filterMap _) (nodup_usable nodup)]
  case unusable =>
    intro others loads' same
    obtain ⟨found', discovered', ranks'⟩ := discover_of_loads loads'
    rw [discovered', ranks.unique (same ▸ ranks')]

-- The least name is that of an entry point that cannot be used, and the next one is there three times.
theorem discover_then_select_repeated :
    let shadow : EntryPoint := ⟨"b", defaultGroup, .value "None"⟩
    let list   : EntryPoint := ⟨"c", defaultGroup, .hook "list"⟩
    let table  : EntryPoint := ⟨"b", defaultGroup, .hook "table"⟩
    let broken : EntryPoint := ⟨"a", defaultGroup, .unusable "no module"⟩
    let tree   : EntryPoint := ⟨"b", defaultGroup, .hook "tree"⟩
    let entries := [shadow, list, table, broken, tree]
    (∀ e ∈ entries, e.Loads) ∧ Earliest entries "b" ⟨"b", "table"⟩ ∧
      (∃ found, (discover entries).2 = .ok found ∧ Ranks (usable entries) found ∧
        select found (some "b") = .ok (some ⟨"b", "table"⟩) ∧
        select found (some "a") = .error (.unknown "a") ∧
        select found none = .ok (some ⟨"b", "table"⟩) ∧
        (discover [list, table, tree]).2 = .ok found) ∧
      (discover [table, list]).2 = (discover [list, table]).2 := by
  intro shadow list table broken tree entries
  have loads : ∀ e ∈ entries, e.Loads := by
    simp [entries, shadow, list, table, broken, tree, EntryPoint.Loads]
  have loads'  : ∀ e ∈ [list, table, tree], e.Loads := by simp [list, table, tree, EntryPoint.Loads]
  have loads'' : ∀ e ∈ [list, table], e.Loads := by simp [list, table, EntryPoint.Loads]
  have earliest : Earliest entries "b" ⟨"b", "table"⟩ :=
    ⟨[shadow, list], table, [broken, tree], rfl, rfl, rfl, by decide⟩
  obtain ⟨found, discovered, ranks, named, unknown, first, -, -, unusable⟩ :=
    discover_then_select entries loads
  obtain ⟨found', discovered', -, -, -, -, -, permuted, -⟩ := discover_then_select [list, table] loads''
  refine ⟨loads, earliest, ⟨found, discovered, ranks, ?named, ?unknown, ?first, ?unusable⟩, ?permuted⟩
  case named => exact (named _ _).mpr earliest
  case unknown => exact (unknown _ _).mpr ⟨rfl, by decide⟩
  case first => exact (first _).mpr ⟨earliest, by decide⟩
  case unusable => exact unusable _ loads' rfl
  case permuted => rw [permuted _ (List.Perm.swap ..) (by decide), discovered']

end Consumer
end TraitCatalog

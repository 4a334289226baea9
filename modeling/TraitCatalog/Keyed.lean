import TraitCatalog.Text.Basic

namespace TraitCatalog

-- Values under text keys, in the order in which the keys first appeared.
abbrev Keyed (α : Type) := List (Text × α)

namespace Keyed

variable {α : Type}

def keys (m : Keyed α) : List Text :=
  m.map Prod.fst

def get? (m : Keyed α) (key : Text) : Option α :=
  match m with
  | [] => none
  | (k, v) :: rest => if key = k then some v else get? rest key

def contains (m : Keyed α) (key : Text) : Bool :=
  (m.get? key).isSome

def put (m : Keyed α) (key : Text) (value : α) : Keyed α :=
  match m with
  | [] => [(key, value)]
  | (k, v) :: rest => if k = key then (key, value) :: rest else (k, v) :: put rest key value

def erase (m : Keyed α) (key : Text) : Keyed α :=
  m.filter fun (k, _) => k ≠ key

-- All pairs put one after the other: each key once, at its first place, with its last value.
def ofPairs (pairs : List (Text × α)) : Keyed α :=
  pairs.foldl (fun m (key, value) => m.put key value) []

def mapValues {β : Type} (f : α → β) (m : Keyed α) : Keyed β :=
  List.map (fun (key, value) => (key, f value)) m

-- Every pair of `newer` put over `m`.
def update (m newer : Keyed α) : Keyed α :=
  newer.foldl (fun m (key, value) => m.put key value) m

theorem get?_nil (key : Text) : get? ([] : Keyed α) key = none := rfl

theorem get?_cons (k : Text) (v : α) (m : Keyed α) (key : Text) :
    get? ((k, v) :: m) key = if key = k then some v else get? m key := rfl

theorem isSome_get?_iff {m : Keyed α} {key : Text} : (m.get? key).isSome ↔ key ∈ m.keys := by
  induction m
  case nil => simp [get?_nil, keys]
  case cons p m ih =>
    simp only [keys, List.map_cons, List.mem_cons] at ih ⊢
    rw [get?_cons]
    by_cases h : key = p.1 <;> simp [h, ih]

theorem get?_put (m : Keyed α) (key other : Text) (value : α) :
    (m.put key value).get? other = if other = key then some value else m.get? other := by
  induction m
  case nil => simp [put, get?_cons, get?_nil]
  case cons p m ih =>
    obtain ⟨k, v⟩ := p
    unfold put
    split
    case isTrue h => subst h; by_cases ho : other = k <;> simp [get?_cons, ho]
    case isFalse h =>
      rw [get?_cons, get?_cons, ih]
      by_cases ho : other = k
      case pos => subst ho; simp [h]
      case neg => simp [ho]

-- A new key goes to the end; a known one keeps its place.
theorem keys_put (m : Keyed α) (key : Text) (value : α) :
    (m.put key value).keys = if key ∈ m.keys then m.keys else m.keys ++ [key] := by
  induction m
  case nil => simp [put, keys]
  case cons p m ih =>
    obtain ⟨k, v⟩ := p
    unfold put
    split
    case isTrue h => simp [keys, h]
    case isFalse h =>
      simp only [keys, List.map_cons, List.mem_cons] at ih ⊢
      rw [ih]
      by_cases hm : key ∈ List.map Prod.fst m <;> simp [hm, Ne.symm h]

theorem put_of_not_mem {m : Keyed α} (h : key ∉ m.keys) (value : α) :
    m.put key value = m ++ [(key, value)] := by
  induction m
  case nil => rfl
  case cons p m ih =>
    obtain ⟨k, v⟩ := p
    simp only [keys, List.map_cons, List.mem_cons, not_or] at h
    simp [put, Ne.symm h.left, ih h.right]

theorem update_of_nodup {m newer : Keyed α} (h : (keys (m ++ newer)).Nodup) :
    m.update newer = m ++ newer := by
  induction newer generalizing m
  case nil => simp [update]
  case cons p newer ih =>
    have hp : p.1 ∉ m.keys := by
      simp only [keys, List.map_append, List.map_cons, List.nodup_append] at h
      exact fun hm => h.right.right _ hm _ (List.mem_cons_self ..) rfl
    have hn : (keys (m.put p.1 p.2 ++ newer)).Nodup := by
      rw [put_of_not_mem hp]
      simpa using h
    exact (ih hn).trans (by simp [put_of_not_mem hp])

-- Pairs with keys of their own each stay as they are.
theorem ofPairs_of_nodup {pairs : List (Text × α)} (h : (keys pairs).Nodup) :
    ofPairs pairs = pairs :=
  update_of_nodup (m := []) h

theorem nodup_keys_put {m : Keyed α} (h : m.keys.Nodup) (key : Text) (value : α) :
    (m.put key value).keys.Nodup := by
  rw [keys_put]
  split
  case isTrue => exact h
  case isFalse hm => simp_all [List.nodup_append]; exact fun _ hk e => hm (e ▸ hk)

theorem nodup_keys_update {m : Keyed α} (h : m.keys.Nodup) (newer : Keyed α) :
    (m.update newer).keys.Nodup := by
  unfold update
  induction newer generalizing m
  case nil => exact h
  case cons p newer ih => exact ih (nodup_keys_put h p.1 p.2)

theorem nodup_keys_ofPairs (pairs : List (Text × α)) : (ofPairs pairs).keys.Nodup :=
  nodup_keys_update (m := []) List.nodup_nil pairs

theorem keys_mapValues {β : Type} (f : α → β) (m : Keyed α) : (m.mapValues f).keys = m.keys := by
  simp [keys, mapValues]

end Keyed
end TraitCatalog

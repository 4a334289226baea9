import Mathlib.Data.List.Forall2
import Mathlib.Data.List.Induction
import TraitCatalog.Keyed

namespace TraitCatalog
namespace Keyed

variable {α β : Type}

theorem mem_of_get?_eq_some {m : Keyed α} (h : m.get? key = some v) : (key, v) ∈ m := by
  induction m
  case nil => cases h
  case cons p m ih =>
    rw [get?_cons] at h
    split at h
    case isTrue same =>
      cases h
      exact same ▸ List.mem_cons_self ..
    case isFalse => exact List.mem_cons_of_mem _ (ih h)

theorem eq_of_keys_of_get? {m n : Keyed α} (nodup : m.keys.Nodup) (keys : m.keys = n.keys)
    (values : ∀ key ∈ m.keys, m.get? key = n.get? key) : m = n := by
  induction m generalizing n
  case nil =>
    have none : n.keys = [] := keys.symm
    exact (List.map_eq_nil_iff.mp none).symm
  case cons p m ih =>
    cases n
    case nil => cases keys
    case cons q n =>
      obtain ⟨key, v⟩ := p
      obtain ⟨key', w⟩ := q
      obtain ⟨rfl, rest⟩ := List.cons_eq_cons.mp keys
      obtain ⟨new, nodup⟩ := List.nodup_cons.mp nodup
      have first : v = w := by simpa [get?_cons] using values key (List.mem_cons_self ..)
      have others : ∀ other ∈ Keyed.keys m, get? m other = get? n other := by
        intro other mem
        have different : other ≠ key := fun same => new (same ▸ mem)
        simpa [get?_cons, different] using values other (List.mem_cons_of_mem _ mem)
      rw [first, ih nodup rest others]

theorem put_ne_nil (m : Keyed α) (key : Text) (v : α) : m.put key v ≠ [] := by
  cases m
  case nil => exact List.cons_ne_nil _ _
  case cons p m =>
    unfold put
    split <;> exact List.cons_ne_nil _ _

theorem ofPairs_concat (pairs : List (Text × α)) (p : Text × α) :
    ofPairs (pairs ++ [p]) = (ofPairs pairs).put p.1 p.2 := by
  rw [ofPairs, List.foldl_append]
  rfl

theorem eq_or_mem_of_mem_put {m : Keyed α} (h : p ∈ m.put key v) : p = (key, v) ∨ p ∈ m := by
  induction m
  case nil => exact .inl (List.mem_singleton.mp h)
  case cons q m ih =>
    unfold put at h
    split at h
    case isTrue =>
      exact (List.mem_cons.mp h).imp_right (List.mem_cons_of_mem _)
    case isFalse =>
      obtain rfl | h := List.mem_cons.mp h
      · exact .inr (List.mem_cons_self ..)
      · exact (ih h).imp_right (List.mem_cons_of_mem _)

theorem mem_of_mem_ofPairs {pairs : List (Text × α)} (h : p ∈ ofPairs pairs) : p ∈ pairs := by
  induction pairs using List.reverseRecOn
  case nil => cases h
  case append_singleton pairs q ih =>
    rw [ofPairs_concat] at h
    rw [List.mem_append, List.mem_singleton]
    obtain rfl | h := eq_or_mem_of_mem_put h
    · exact .inr rfl
    · exact .inl (ih h)

-- The keys stand in the order in which they came up first.
theorem keys_ofPairs (pairs : List (Text × α)) : (ofPairs pairs).keys = (keys pairs).eraseDups := by
  induction pairs using List.reverseRecOn
  case nil => rfl
  case append_singleton pairs p ih =>
    have known : p.1 ∈ (ofPairs pairs).keys ↔ p.1 ∈ keys pairs := by
      rw [ih, List.mem_eraseDups]
    have split : keys (pairs ++ [p]) = keys pairs ++ [p.1] := List.map_append
    rw [ofPairs_concat, keys_put, split, List.eraseDups_append]
    by_cases mem : p.1 ∈ keys pairs
    case pos =>
      rw [if_pos (known.mpr mem), ih]
      simp [List.removeAll, mem]
    case neg =>
      rw [if_neg (known.not.mpr mem), ih]
      simp [List.removeAll, mem, List.eraseDups_cons]

-- What stands under a key is what came last with it.
theorem get?_ofPairs (pairs : List (Text × α)) (key : Text) :
    (ofPairs pairs).get? key = get? pairs.reverse key := by
  induction pairs using List.reverseRecOn
  case nil => rfl
  case append_singleton pairs p ih =>
    rw [ofPairs_concat, get?_put, List.reverse_append, List.reverse_singleton, List.singleton_append,
      get?_cons, ih]

theorem get?_append_of_not_mem {m : Keyed α} (h : key ∉ m.keys) (n : Keyed α) :
    get? (m ++ n) key = n.get? key := by
  induction m
  case nil => rfl
  case cons p m ih =>
    have other : key ≠ p.1 := fun same => h (same ▸ List.mem_cons_self ..)
    rw [List.cons_append, get?_cons, if_neg other, ih fun mem => h (List.mem_cons_of_mem _ mem)]

theorem get?_ofPairs_of_last {back : List (Text × α)} (h : key ∉ keys back) (front : List (Text × α))
    (v : α) : (ofPairs (front ++ (key, v) :: back)).get? key = some v := by
  have behind : key ∉ keys back.reverse := by
    rwa [keys, List.map_reverse, List.mem_reverse]
  rw [get?_ofPairs, List.reverse_append, List.reverse_cons, List.append_assoc,
    get?_append_of_not_mem behind, List.singleton_append, get?_cons, if_pos rfl]

-- A key that is there has a last place.
theorem exists_last_of_mem_keys {pairs : List (Text × α)} (h : key ∈ keys pairs) :
    ∃ front v back, pairs = front ++ (key, v) :: back ∧ key ∉ keys back := by
  induction pairs
  case nil => cases h
  case cons p pairs ih =>
    by_cases later : key ∈ keys pairs
    case pos =>
      obtain ⟨front, v, back, rfl, last⟩ := ih later
      exact ⟨p :: front, v, back, rfl, last⟩
    case neg =>
      obtain ⟨name, v⟩ := p
      obtain rfl : key = name := (List.mem_cons.mp h).resolve_right later
      exact ⟨[], v, pairs, rfl, later⟩

theorem get?_eq_head?_filter (m : Keyed α) (key : Text) :
    m.get? key = (m.filter fun p => p.1 = key).head?.map Prod.snd := by
  induction m
  case nil => rfl
  case cons p m ih =>
    rw [get?_cons, List.filter_cons, ih]
    by_cases same : p.1 = key
    case pos => simp [same]
    case neg => simp [same, Ne.symm same]

theorem get?_ofPairs_eq_getLast?_filter (pairs : List (Text × α)) (key : Text) :
    (ofPairs pairs).get? key = (pairs.filter fun p => p.1 = key).getLast?.map Prod.snd := by
  rw [get?_ofPairs, get?_eq_head?_filter, List.filter_reverse, List.head?_reverse]

-- A key is put to its first place.
theorem put_append_of_mem {front : Keyed α} (h : key ∈ front.keys) (back : Keyed α) (v : α) :
    put (front ++ back) key v = front.put key v ++ back := by
  induction front
  case nil => cases h
  case cons p front ih =>
    rw [List.cons_append, put, put]
    split
    case isTrue => rfl
    case isFalse other =>
      have mem : key ∈ keys front := (List.mem_cons.mp h).resolve_left (Ne.symm other)
      rw [ih mem, List.cons_append]

theorem put_append_of_not_mem {front : Keyed α} (h : key ∉ front.keys) (back : Keyed α) (v : α) :
    put (front ++ back) key v = front ++ back.put key v := by
  induction front
  case nil => rfl
  case cons p front ih =>
    obtain ⟨other, new⟩ := not_or.mp (List.mem_cons.not.mp h)
    rw [List.cons_append, put, if_neg (Ne.symm other), ih new, List.cons_append]

theorem filter_put {q : Text → Bool} (m : Keyed α) (h : q key = true) (v : α) :
    (m.put key v).filter (fun p => q p.1) = put (m.filter fun p => q p.1) key v := by
  induction m
  case nil => simp [put, h]
  case cons p m ih =>
    rw [put]
    split
    case isTrue same => simp [h, same, put]
    case isFalse other =>
      cases kept : q p.1
      case true  => simp [kept, put, other, ih]
      case false => simp [kept, ih]

theorem filter_put_other {q : Text → Bool} (m : Keyed α) (h : q key = false) (v : α) :
    (m.put key v).filter (fun p => q p.1) = m.filter fun p => q p.1 := by
  induction m
  case nil => simp [put, h]
  case cons p m ih =>
    rw [put]
    split
    case isTrue same => simp [h, same]
    case isFalse => simp [List.filter_cons, ih]

theorem filter_update_others {q : Text → Bool} {newer : Keyed α} (m : Keyed α) (h : ∀ key ∈ newer.keys, q key = false) :
    (m.update newer).filter (fun p => q p.1) = m.filter fun p => q p.1 := by
  induction newer generalizing m
  case nil => rfl
  case cons p newer ih =>
    obtain ⟨first, others⟩ := List.forall_mem_cons.mp h
    exact (ih (m.put p.1 p.2) others).trans (filter_put_other m first p.2)

-- Of the pairs that are put, only one has a key that counts.
theorem filter_update_single {q : Text → Bool} {before after : Keyed α} (m : Keyed α) (h : q key = true)
    (hb : ∀ other ∈ before.keys, q other = false) (ha : ∀ other ∈ after.keys, q other = false) (v : α) :
    (m.update (before ++ (key, v) :: after)).filter (fun p => q p.1) =
      put (m.filter fun p => q p.1) key v := by
  have parts : m.update (before ++ (key, v) :: after) = ((m.update before).put key v).update after := by
    rw [update, List.foldl_append]
    rfl
  rw [parts, filter_update_others _ ha, filter_put _ h, filter_update_others _ hb]

-- The same keys in the same order, with related values under them.
def Alike (R : α → β → Prop) : Keyed α → Keyed β → Prop :=
  List.Forall₂ fun p q => p.1 = q.1 ∧ R p.2 q.2

theorem Alike.put {R : α → β → Prop} {m : Keyed α} {n : Keyed β} (h : Alike R m n) (key : Text)
    (value : R v w) : Alike R (m.put key v) (n.put key w) := by
  induction h
  case nil => exact .cons ⟨rfl, value⟩ .nil
  case cons p q m n first others ih =>
    obtain ⟨k, _⟩ := p
    obtain ⟨k', _⟩ := q
    obtain ⟨rfl, known⟩ : k = k' ∧ _ := first
    unfold Keyed.put
    split
    case isTrue  => exact .cons ⟨rfl, value⟩ others
    case isFalse => exact .cons ⟨rfl, known⟩ ih

-- Related pairs are put together alike.
theorem Alike.ofPairs {R : α → β → Prop} {ps : List (Text × α)} {qs : List (Text × β)}
    (h : Alike R ps qs) : Alike R (Keyed.ofPairs ps) (Keyed.ofPairs qs) := by
  have onto {m : Keyed α} {n : Keyed β} (alike : Alike R m n) : Alike R (m.update ps) (n.update qs) := by
    induction h generalizing m n
    case nil => exact alike
    case cons p q ps qs first _ ih =>
      obtain ⟨k, _⟩ := p
      obtain ⟨k', _⟩ := q
      obtain ⟨rfl, value⟩ : k = k' ∧ _ := first
      exact ih (alike.put k value)
  exact onto .nil

end Keyed
end TraitCatalog

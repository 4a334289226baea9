import Mathlib.Data.List.Forall2
import Mathlib.Tactic.Common

-- Everything in a list is related to something if the whole list is.
theorem List.exists_forall₂_iff {R : α → β → Prop} {as : List α} :
    (∃ bs, List.Forall₂ R as bs) ↔ ∀ a ∈ as, ∃ b, R a b := by
  induction as
  case nil => simp
  case cons a as ih =>
    rw [List.forall_mem_cons, ← ih]
    constructor
    case mp =>
      rintro ⟨_, _ | ⟨first, others⟩⟩
      exact ⟨⟨_, first⟩, _, others⟩
    case mpr =>
      rintro ⟨⟨b, first⟩, bs, others⟩
      exact ⟨b :: bs, .cons first others⟩

-- The items of a list, when it does not matter where they stand.
theorem List.forall_mem_zipIdx_iff {as : List α} {P : α → Prop} (k : Nat) :
    (∀ p ∈ as.zipIdx k, P p.1) ↔ ∀ a ∈ as, P a := by
  rw [← List.forall_mem_map, List.zipIdx_map_fst]

namespace Except

variable {ε ε' α β : Type}

@[simp]
theorem pure_eq_ok (a : α) : (pure a : Except ε α) = ok a := rfl

@[simp]
theorem throw_eq_error (e : ε) : (throw e : Except ε α) = error e := rfl

@[simp]
theorem ok_bind (a : α) (f : α → Except ε β) : (ok a >>= f) = f a := rfl

@[simp]
theorem error_bind (e : ε) (f : α → Except ε β) : (error e >>= f) = error e := rfl

theorem bind_eq_ok_iff {x : Except ε α} {f : α → Except ε β} {b : β} :
    x >>= f = ok b ↔ ∃ a, x = ok a ∧ f a = ok b := by
  cases x <;> simp

theorem bind_eq_error_iff {x : Except ε α} {f : α → Except ε β} {e : ε} :
    x >>= f = error e ↔ x = error e ∨ ∃ a, x = ok a ∧ f a = error e := by
  cases x <;> simp

-- What is made of a result makes no difference to a failure.
theorem bind_pure_eq_error_iff {x : Except ε α} {f : α → β} {e : ε} :
    (do return f (← x)) = error e ↔ x = error e := by
  cases x <;> simp

@[simp]
theorem mapError_ok (f : ε → ε') (a : α) : (ok a : Except ε α).mapError f = ok a := rfl

@[simp]
theorem mapError_error (f : ε → ε') (e : ε) : (error e : Except ε α).mapError f = error (f e) := rfl

theorem mapError_bind (x : Except ε α) (f : α → Except ε β) (g : ε → ε') :
    (x >>= f).mapError g = x.mapError g >>= fun a => (f a).mapError g := by
  cases x <;> rfl

theorem mapError_eq_ok_iff {x : Except ε α} {f : ε → ε'} {a : α} : x.mapError f = ok a ↔ x = ok a := by
  cases x <;> simp

theorem mapError_eq_error_iff {x : Except ε α} {f : ε → ε'} {e : ε'} :
    x.mapError f = error e ↔ ∃ e', x = error e' ∧ f e' = e := by
  cases x <;> simp

theorem mapM_eq_ok_of_forall {f : α → Except ε β} {g : α → β} {as : List α}
    (h : ∀ a ∈ as, f a = ok (g a)) : as.mapM f = ok (as.map g) := by
  induction as
  case nil => rfl
  case cons a as ih =>
    have first := h a (List.mem_cons_self ..)
    have rest := ih fun b hb => h b (List.mem_cons_of_mem _ hb)
    simp [List.mapM_cons, first, rest]

-- Steps for a list of things come to the results that each of them comes to.
theorem mapM_eq_ok_iff {f : α → Except ε β} {as : List α} {bs : List β} :
    as.mapM f = ok bs ↔ List.Forall₂ (fun a b => f a = ok b) as bs := by
  induction as generalizing bs
  case nil => cases bs <;> simp
  case cons a as ih =>
    simp only [List.mapM_cons, bind_eq_ok_iff, ih, pure_eq_ok, ok.injEq]
    constructor
    case mp =>
      rintro ⟨b, first, rest, others, rfl⟩
      exact .cons first others
    case mpr =>
      rintro (_ | ⟨first, others⟩)
      exact ⟨_, first, _, others, rfl⟩

-- A step for each of a list of things comes to a result if every one of the steps does.
theorem exists_mapM_eq_ok_iff {f : α → Except ε β} {as : List α} :
    (∃ bs, as.mapM f = ok bs) ↔ ∀ a ∈ as, ∃ b, f a = ok b := by
  simp only [mapM_eq_ok_iff, List.exists_forall₂_iff]

-- Steps for a list of things fail of the first one that fails.
theorem mapM_eq_error_iff {f : α → Except ε β} {as : List α} {e : ε} :
    as.mapM f = error e ↔
      ∃ front a back bs, as = front ++ a :: back ∧ front.mapM f = ok bs ∧ f a = error e := by
  constructor
  case mp =>
    induction as
    case nil => exact nofun
    case cons a as ih =>
      intro h
      rw [List.mapM_cons] at h
      obtain first | ⟨b, first, h⟩ := bind_eq_error_iff.mp h
      case inl => exact ⟨[], a, as, [], rfl, rfl, first⟩
      case inr =>
        obtain h | ⟨_, -, h⟩ := bind_eq_error_iff.mp h
        case inr => cases h
        case inl =>
          obtain ⟨front, a', back, bs, rfl, others, last⟩ := ih h
          refine ⟨a :: front, a', back, b :: bs, rfl, ?_, last⟩
          rw [List.mapM_cons, first, others]
          rfl
  case mpr =>
    rintro ⟨front, a, back, bs, rfl, run, last⟩
    rw [List.mapM_append, run, ok_bind, List.mapM_cons, last]
    rfl

-- Where a run over a list of things breaks off.
theorem foldlM_eq_error_iff {f : β → α → Except ε β} {b : β} {as : List α} {e : ε} :
    as.foldlM f b = error e ↔
      ∃ front a rest c, as = front ++ a :: rest ∧ front.foldlM f b = ok c ∧ f c a = error e := by
  constructor
  case mp =>
    induction as generalizing b
    case nil => exact nofun
    case cons a as ih =>
      intro h
      rw [List.foldlM_cons] at h
      cases first : f b a
      case error =>
        rw [first] at h
        exact ⟨[], a, as, b, rfl, rfl, first.trans h⟩
      case ok c =>
        rw [first] at h
        obtain ⟨front, a', rest, d, rfl, run, last⟩ := ih h
        refine ⟨a :: front, a', rest, d, rfl, ?_, last⟩
        rw [List.foldlM_cons, first]
        exact run
  case mpr =>
    rintro ⟨front, a, rest, c, rfl, run, last⟩
    rw [List.foldlM_append, run, ok_bind, List.foldlM_cons, last]
    rfl

theorem filterAuxM_eq_ok_of_forall {f : α → Except ε Bool} {p : α → Bool} {as : List α}
    (h : ∀ a ∈ as, f a = ok (p a)) (acc : List α) :
    as.filterAuxM f acc = ok ((as.filter p).reverse ++ acc) := by
  induction as generalizing acc
  case nil => rfl
  case cons a as ih =>
    have first := h a (List.mem_cons_self ..)
    have rest := ih fun b hb => h b (List.mem_cons_of_mem _ hb)
    cases hp : p a <;> simp [List.filterAuxM, first, rest, hp]

theorem filterM_eq_ok_of_forall {f : α → Except ε Bool} {p : α → Bool} {as : List α}
    (h : ∀ a ∈ as, f a = ok (p a)) : as.filterM f = ok (as.filter p) := by
  simp [List.filterM, filterAuxM_eq_ok_of_forall h]

end Except

-- Steps that may fail, over a state: what was changed before an error stays.
namespace ExceptT

variable {ε σ α β : Type} {x : ExceptT ε (StateM σ) α} {f : α → ExceptT ε (StateM σ) β} {s s' : σ}

theorem run_run_bind (x : ExceptT ε (StateM σ) α) (f : α → ExceptT ε (StateM σ) β) (s : σ) :
    (x >>= f).run.run s = match x.run.run s with
      | (.ok a, s')    => (f a).run.run s'
      | (.error e, s') => (.error e, s') := by
  have h : (x >>= f).run.run s = StateT.run (ExceptT.bindCont f (x.run.run s).1) (x.run.run s).2 := rfl
  rw [h]
  obtain ⟨a | e, s'⟩ := x.run.run s
  · rfl
  · rfl

theorem run_bind_ok {a : α} (h : x.run.run s = (.ok a, s')) :
    (x >>= f).run.run s = (f a).run.run s' := by
  rw [run_run_bind, h]

theorem run_bind_error {e : ε} (h : x.run.run s = (.error e, s')) :
    (x >>= f).run.run s = (.error e, s') := by
  rw [run_run_bind, h]

theorem run_run_tryCatch (x : ExceptT ε (StateM σ) α) (g : ε → ExceptT ε (StateM σ) α) (s : σ) :
    (tryCatch x g).run.run s = match x.run.run s with
      | (.ok a, s')    => (.ok a, s')
      | (.error e, s') => (g e).run.run s' := by
  have h : (tryCatch x g).run.run s = StateT.run (match (x.run.run s).1 with
    | .ok a    => pure (.ok a)
    | .error e => g e) (x.run.run s).2 := rfl
  rw [h]
  obtain ⟨a | e, s'⟩ := x.run.run s
  · rfl
  · rfl

variable {g : ε → ExceptT ε (StateM σ) α}

theorem run_tryCatch_ok {a : α} (h : x.run.run s = (.ok a, s')) :
    (tryCatch x g).run.run s = (.ok a, s') := by
  rw [run_run_tryCatch, h]

theorem run_tryCatch_error {e : ε} (h : x.run.run s = (.error e, s')) :
    (tryCatch x g).run.run s = (g e).run.run s' := by
  rw [run_run_tryCatch, h]

end ExceptT

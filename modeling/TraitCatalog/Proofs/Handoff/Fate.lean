import TraitCatalog.Proofs.Handoff.Turn

namespace TraitCatalog
namespace Handoff

inductive Ending
  | overwritten
  | taken
  | delivered
  deriving DecidableEq

-- How a move can end the waiting of a parcel.
def Move.ending? : Move → Option Ending
  | offer _     => some .overwritten
  | bind _      => some .delivered
  | unbind      => none
  | takePending => some .taken

-- What becomes of an offer: its waiting is ended a turn, or it is not.
inductive Fate
  | ended (e : Ending) (turn : Nat)
  | waiting
  deriving DecidableEq

-- The parcel is offered while no hook is bound.
structure Turn.Parks (t : Turn) (p : Parcel) : Prop where
  move    : t.move = .offer p
  unbound : t.before.hook = none

-- The turn ends the waiting of a parcel.
inductive Turn.Ends (t : Turn) (p : Parcel) : Ending → Prop
  | overwritten (waiting : t.before.pending = some p) (parks : t.Parks q) : Ends t p .overwritten
  | taken (waiting : t.before.pending = some p) (move : t.move = .takePending)
    (result : t.result = .ok (.catalog (some p.catalog))) : Ends t p .taken
  | delivered (waiting : t.before.pending = some p) (move : t.move = .bind (.hook h))
    (calls : t.calls = [(h, p.catalog)]) (returned : t.fails h p.catalog = none)
    (result : t.result = .ok (.catalog (some p.catalog))) : Ends t p .delivered

namespace History

-- The parcel is parked at turn `i`.
def Parked (y : History) (i : Nat) (p : Parcel) : Prop :=
  ∃ t, y.turns[i]? = some t ∧ t.Parks p

-- After turn `i` the parcel stays in the slot until turn `j`.
structure Held (y : History) (i j : Nat) (p : Parcel) : Prop where
  slot : ∀ k, i < k → k ≤ j → (y.before k).pending = some p
  kept : ∀ k t, i < k → k < j → y.turns[k]? = some t → ∀ e, ¬t.Ends p e

-- What becomes of a parcel that is parked at turn `i`.
inductive Meets (y : History) (i : Nat) (p : Parcel) : Fate → Prop
  | ended (later : i < j) (held : y.Held i j p) (turn : y.turns[j]? = some t) (ends : t.Ends p e) :
    Meets y i p (.ended e j)
  | waiting (held : y.Held i y.turns.length p) : Meets y i p .waiting

end History

namespace Turn

variable {t : Turn} {p q : Parcel}

theorem Parks.after (comes : t.Comes) (parks : t.Parks p) : t.after.pending = some p := by
  obtain ⟨move, unbound⟩ := parks
  cases comes <;> cases move
  case parked    => rfl
  case delivered => cases unbound
  case refused   => cases unbound

theorem Ends.waiting (ends : t.Ends p e) : t.before.pending = some p := by
  cases ends <;> assumption

-- The move of a turn tells how it can end the waiting.
theorem Ends.ending?_move (ends : t.Ends p e) : t.move.ending? = some e := by
  cases ends
  case overwritten parks    => rw [parks.move]; rfl
  case taken move _         => rw [move]; rfl
  case delivered move _ _ _ => rw [move]; rfl

theorem Ends.deterministic (h₁ : t.Ends p e₁) (h₂ : t.Ends p e₂) : e₁ = e₂ :=
  Option.some.inj (h₁.ending?_move.symm.trans h₂.ending?_move)

theorem Ends.parks_or_cleared (comes : t.Comes) (ends : t.Ends p e) :
    (∃ q, t.Parks q) ∨ t.after.pending = none := by
  cases ends
  case overwritten q _ parks => exact .inl ⟨q, parks⟩
  case taken move _ =>
    cases comes <;> cases move
    exact .inr rfl
  case delivered move _ _ result =>
    cases comes <;> cases move
    case attached   => cases result
    case handedOver => exact .inr rfl
    case kept       => cases result

-- What waits after a turn was parked at it, or it waited before and the turn did not end that.
theorem parks_or_waiting (comes : t.Comes) (after : t.after.pending = some p) :
    t.Parks p ∨ t.before.pending = some p ∧ ∀ e, ¬t.Ends p e := by
  by_cases parks : ∃ q, t.Parks q
  case pos =>
    obtain ⟨q, parks⟩ := parks
    cases (parks.after comes).symm.trans after
    exact .inl parks
  case neg =>
    refine .inr ⟨?stays, fun e ends => ?still⟩
    case stays =>
      cases comes
      case parked     => exact absurd ⟨_, rfl, rfl⟩ parks
      case attached   => cases after
      case handedOver => cases after
      case taken      => cases after
      all_goals exact after
    case still =>
      have cleared := (ends.parks_or_cleared comes).resolve_left parks
      nomatch cleared.symm.trans after

-- Only a turn that ends the waiting of a parcel hands a catalog out.
theorem ends_of_result (comes : t.Comes) (result : t.result = .ok (.catalog (some c))) :
    ∃ p e, p.catalog = c ∧ e ≠ .overwritten ∧ t.Ends p e := by
  cases comes
  case handedOver returned =>
    cases result
    exact ⟨_, .delivered, rfl, nofun, .delivered rfl rfl rfl returned rfl⟩
  case taken w _ =>
    cases w
    case none   => cases result
    case some p =>
      cases result
      exact ⟨p, .taken, rfl, nofun, .taken rfl rfl rfl⟩
  all_goals cases result

theorem of_offer_bound (comes : t.Comes) (move : t.move = .offer p) (bound : t.before.hook = some h) :
    t.calls = [(h, p.catalog)] ∧
    t.result = (t.fails h p.catalog).elim (.ok (.outcome .delivered)) .error ∧ t.after = t.before := by
  cases comes <;> cases move
  case delivered returned =>
    cases bound
    exact ⟨rfl, by simp [returned], rfl⟩
  case refused failed =>
    cases bound
    exact ⟨rfl, by simp [failed], rfl⟩
  case parked => cases bound

theorem Parks.answer (comes : t.Comes) (parks : t.Parks p) :
    t.calls = [] ∧ t.result = .ok (.outcome .pending) := by
  obtain ⟨move, unbound⟩ := parks
  cases comes <;> cases move
  case parked    => exact ⟨rfl, rfl⟩
  case delivered => cases unbound
  case refused   => cases unbound

end Turn

namespace History

variable {y : History} {t : Turn} {p q : Parcel} {i j k : Nat} {f : Fate}

theorem before_of_turn (turn : y.turns[k]? = some t) : y.before k = t.before := by
  simp [before, turn]

theorem From.before_zero (run : From e y) : y.before 0 = e := by
  cases run
  case nil  => rfl
  case cons => rfl

-- Turns follow each other.
theorem From.before_succ (run : From e y) (turn : y.turns[k]? = some t) :
    y.before (k + 1) = t.after := by
  induction run generalizing k
  case nil => cases turn
  case cons rest ih =>
    cases k
    case zero =>
      cases turn
      exact rest.before_zero
    case succ k => exact ih turn

theorem From.comes (run : From e y) (turn : y.turns[k]? = some t) : t.Comes := by
  induction run generalizing k
  case nil => cases turn
  case cons comes _ ih =>
    cases k
    case zero =>
      cases turn
      exact comes
    case succ k => exact ih turn

theorem lt_length_of_turn (turn : y.turns[k]? = some t) : k < y.turns.length :=
  (List.getElem?_eq_some_iff.mp turn).1

theorem held_parked (run : From e y) (parked : y.Parked i p) : y.Held i (i + 1) p where
  slot k hi hk := by
    obtain ⟨t, turn, parks⟩ := parked
    obtain rfl : k = i + 1 := by omega
    rw [run.before_succ turn]
    exact parks.after (run.comes turn)
  kept k _ hi hk := by omega

theorem Held.succ (run : From e y) (held : y.Held i j p) (turn : y.turns[j]? = some t)
    (kept : ∀ e, ¬t.Ends p e) (after : t.after.pending = some p) : y.Held i (j + 1) p where
  slot k hi hk := by
    cases Nat.lt_or_eq_of_le hk
    case inl hk => exact held.slot k hi (Nat.le_of_lt_succ hk)
    case inr hk =>
      rw [hk, run.before_succ turn]
      exact after
  kept k u hi hk hu := by
    cases Nat.lt_or_eq_of_le (Nat.le_of_lt_succ hk)
    case inl hk => exact held.kept k u hi hk hu
    case inr hk =>
      subst hk
      cases turn.symm.trans hu
      exact kept

-- A parcel that is held to a turn was not ended before.
theorem Meets.deterministic (h₁ : y.Meets i p f₁) (h₂ : y.Meets i p f₂) : f₁ = f₂ := by
  cases h₁ <;> cases h₂
  case waiting.waiting => rfl
  case ended.waiting later _ turn ends held =>
    exact absurd ends (held.kept _ _ later (lt_length_of_turn turn) turn _)
  case waiting.ended held _ _ _ later _ turn ends =>
    exact absurd ends (held.kept _ _ later (lt_length_of_turn turn) turn _)
  case ended.ended j₁ _ _ later₁ held₁ turn₁ ends₁ j₂ _ _ later₂ held₂ turn₂ ends₂ =>
    obtain lt | rfl | gt := Nat.lt_trichotomy j₁ j₂
    · exact absurd ends₁ (held₂.kept _ _ later₁ lt turn₁ _)
    · cases turn₁.symm.trans turn₂
      rw [ends₁.deterministic ends₂]
    · exact absurd ends₂ (held₁.kept _ _ later₂ gt turn₂ _)

-- What is in the slot at some point was parked there by an offer before.
theorem exists_parked (run : From e y) (empty : e.pending = none) (short : j ≤ y.turns.length)
    (waiting : (y.before j).pending = some p) : ∃ i, i < j ∧ y.Parked i p ∧ y.Held i j p := by
  induction j
  case zero =>
    rw [run.before_zero, empty] at waiting
    cases waiting
  case succ j ih =>
    obtain ⟨t, turn⟩ : ∃ t, y.turns[j]? = some t := ⟨_, List.getElem?_eq_getElem short⟩
    rw [run.before_succ turn] at waiting
    cases Turn.parks_or_waiting (run.comes turn) waiting
    case inl parks =>
      have parked : y.Parked j p := ⟨t, turn, parks⟩
      exact ⟨j, Nat.lt_succ_self j, parked, held_parked run parked⟩
    case inr waited =>
      obtain ⟨before, kept⟩ := waited
      rw [← before_of_turn turn] at before
      obtain ⟨i, later, parked, held⟩ := ih (Nat.le_of_lt short) before
      exact ⟨i, Nat.lt_succ_of_lt later, parked, held.succ run turn kept waiting⟩

theorem Held.not_parked (held : y.Held i k p) (later : i < j) (earlier : j < k) : ¬y.Parked j q := by
  intro ⟨t, turn, parks⟩
  have waiting : t.before.pending = some p :=
    before_of_turn turn ▸ held.slot j later (Nat.le_of_lt earlier)
  exact held.kept j t later earlier turn _ (.overwritten waiting parks)

-- Two offers are not held to the same turn: the later one overwrites the earlier one.
theorem Held.unique (hi : y.Held i k p) (hj : y.Held j k q) (parked : y.Parked i p)
    (parked' : y.Parked j q) (ik : i < k) (jk : j < k) : i = j := by
  obtain lt | rfl | gt := Nat.lt_trichotomy i j
  · exact absurd parked' (hi.not_parked lt jk)
  · rfl
  · exact absurd parked (hj.not_parked gt ik)

-- A catalog that a turn hands out comes from one offer, which it ends.
theorem existsUnique_handedOut (run : From e y) (empty : e.pending = none)
    (turn : y.turns[j]? = some t) (result : t.result = .ok (.catalog (some c))) :
    ∃! i, ∃ p e, y.Parked i p ∧ p.catalog = c ∧ e ≠ .overwritten ∧ y.Meets i p (.ended e j) := by
  obtain ⟨p, e, hc, he, ends⟩ := Turn.ends_of_result (run.comes turn) result
  have waiting : (y.before j).pending = some p := by
    rw [before_of_turn turn]
    exact ends.waiting
  have short := Nat.le_of_lt (lt_length_of_turn turn)
  obtain ⟨i, later, parked, held⟩ := exists_parked run empty short waiting
  refine ⟨i, ⟨p, e, parked, hc, he, .ended later held turn ends⟩, ?_⟩
  rintro i' ⟨p', e', parked', -, -, met⟩
  cases met with | ended later' held' => exact held'.unique held parked' parked later' later

end History

end Handoff
end TraitCatalog

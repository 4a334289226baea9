import TraitCatalog.Proofs.Handoff.Fate

namespace TraitCatalog

-- If a hook is bound, nothing waits.
def Exchange.Settled (e : Exchange) : Prop :=
  ∀ h, e.hook = some h → e.pending = none

namespace Handoff

-- Every hook that is called at the turn returns.
def Turn.Returns (t : Turn) : Prop :=
  ∀ call ∈ t.calls, t.fails call.1 call.2 = none

namespace History

def Returns (y : History) : Prop :=
  ∀ t ∈ y.turns, t.Returns

-- The calls of all turns.
def calls (y : History) : List (Hook × Catalog) :=
  y.turns.flatMap Turn.calls

instance (t : Turn) : Decidable t.Returns :=
  inferInstanceAs (Decidable (∀ call ∈ t.calls, t.fails call.1 call.2 = none))

instance (y : History) : Decidable y.Returns :=
  inferInstanceAs (Decidable (∀ t ∈ y.turns, t.Returns))

-- The parcel that is offered at turn `i` reaches a hook at turn `j`, either at once or out of the slot.
structure Reaches (y : History) (i j : Nat) (h : Hook) (p : Parcel) : Prop where
  offered : ∃ t, y.turns[i]? = some t ∧ t.move = .offer p
  called  : ∃ t, y.turns[j]? = some t ∧ t.calls = [(h, p.catalog)]
  waited  : i = j ∨ y.Parked i p ∧ y.Meets i p (.ended .delivered j)

-- What is to be known of a history in which all hooks return.
structure Ordered (y : History) : Prop where
  -- A bound exchange has an empty slot.
  settled : (y.before k).Settled
  -- A catalog that a hook is called with comes from one offer.
  source : y.turns[j]? = some t → (h, c) ∈ t.calls → ∃! i, ∃ p, p.catalog = c ∧ y.Reaches i j h p
  -- Offers are delivered in their order.
  order : y.Reaches i j h p → y.Reaches i' j' h' p' → i < i' → j < j'
  -- No offer is delivered twice.
  once : y.Reaches i j h p → y.Reaches i j' h' p' → j = j'

end History

namespace Turn

variable {t : Turn}

theorem Returns.settled (comes : t.Comes) (returns : t.Returns) (settled : t.before.Settled) :
    t.after.Settled := by
  cases comes
  case delivered   => exact settled
  case refused     => exact settled
  case parked      => exact nofun
  case attached    => exact fun _ _ => rfl
  case handedOver  => exact fun _ _ => rfl
  case notCallable => exact settled
  case detached    => exact nofun
  case taken       => exact fun _ _ => rfl
  case kept failed =>
    have returned := returns _ (List.mem_singleton.mpr rfl)
    nomatch failed.symm.trans returned

theorem Parks.after_eq (comes : t.Comes) (parks : t.Parks p) : t.after = ⟨none, some p⟩ := by
  obtain ⟨move, unbound⟩ := parks
  cases comes <;> cases move
  case parked    => rfl
  case delivered => cases unbound
  case refused   => cases unbound

-- A hook that is called at an offer was bound.
theorem bound_of_called (comes : t.Comes) (move : t.move = .offer p) (calls : t.calls = [(h, c)]) :
    ∃ g, t.before.hook = some g := by
  cases comes <;> cases move
  case delivered => exact ⟨_, rfl⟩
  case refused   => exact ⟨_, rfl⟩
  case parked    => cases calls

-- A hook that is called and returns gets the parcel that is offered, or the one that is handed out.
theorem offer_or_handedOut (comes : t.Comes) (returns : t.Returns) (called : (h, c) ∈ t.calls) :
    ∃ p, p.catalog = c ∧ t.calls = [(h, p.catalog)] ∧ (t.move = .offer p ∨
      t.move = .bind (.hook h) ∧ t.result = .ok (.catalog (some p.catalog))) := by
  have returned := returns _ called
  cases comes
  case delivered =>
    cases List.mem_singleton.mp called
    exact ⟨_, rfl, rfl, .inl rfl⟩
  case handedOver =>
    cases List.mem_singleton.mp called
    exact ⟨_, rfl, rfl, .inr ⟨rfl, rfl⟩⟩
  case refused failed =>
    cases List.mem_singleton.mp called
    nomatch failed.symm.trans returned
  case kept failed =>
    cases List.mem_singleton.mp called
    nomatch failed.symm.trans returned
  all_goals contradiction

end Turn

namespace History

variable {y : History} {t : Turn} {p p' : Parcel} {i i' j j' : Nat} {h h' : Hook}

theorem From.settled (run : From e y) (returns : y.Returns) (settled : e.Settled) (k : Nat) :
    (y.before k).Settled := by
  induction run generalizing k
  case nil => exact settled
  case cons comes _ ih =>
    cases k
    case zero => exact settled
    case succ k =>
      have first := (returns _ (List.mem_cons_self ..)).settled comes settled
      exact ih (fun t mem => returns t (List.mem_cons_of_mem _ mem)) first k

namespace Reaches

theorem le (reaches : y.Reaches i j h p) : i ≤ j := by
  cases reaches.waited
  case inl same => exact Nat.le_of_eq same
  case inr waited =>
    cases waited.right with | ended later => exact Nat.le_of_lt later

-- What reaches a hook only later was in the slot until then.
theorem held (reaches : y.Reaches i j h p) (later : i < j) : y.Held i j p := by
  cases reaches.waited
  case inl same => exact absurd same (Nat.ne_of_lt later)
  case inr waited =>
    cases waited.right with | ended _ held => exact held

-- An offer that reaches a hook at once finds the exchange bound.
theorem bound (run : From e y) (reaches : y.Reaches i i h p) : ∃ g, (y.before i).hook = some g := by
  obtain ⟨t, turn, move⟩ := reaches.offered
  obtain ⟨u, turn', called⟩ := reaches.called
  cases turn.symm.trans turn'
  rw [before_of_turn turn]
  exact Turn.bound_of_called (run.comes turn) move called

theorem order (run : From e y) (settled : ∀ k, (y.before k).Settled) (first : y.Reaches i j h p)
    (second : y.Reaches i' j' h' p') (earlier : i < i') : j < j' := by
  by_contra not_later
  have within : j' ≤ j := Nat.le_of_not_lt not_later
  have held := first.held (Nat.lt_of_lt_of_le earlier (Nat.le_trans second.le within))
  cases second.waited
  case inl same =>
    subst same
    have waiting := held.slot i' earlier within
    obtain ⟨g, bound⟩ := second.bound run
    nomatch waiting.symm.trans (settled i' g bound)
  case inr waited =>
    obtain ⟨parked, met⟩ := waited
    cases met with | ended later =>
      exact held.not_parked earlier (Nat.lt_of_lt_of_le later within) parked

theorem parcel_unique (first : y.Reaches i j h p) (second : y.Reaches i j' h' p') : p = p' := by
  obtain ⟨t, turn, move⟩ := first.offered
  obtain ⟨u, turn', move'⟩ := second.offered
  cases turn.symm.trans turn'
  cases move.symm.trans move'
  rfl

-- An offer that was parked does not reach a hook at once.
theorem not_parked (run : From e y) (reaches : y.Reaches i i h p) : ¬y.Parked i p' := by
  intro ⟨t, turn, parks⟩
  obtain ⟨g, bound⟩ := reaches.bound run
  rw [before_of_turn turn] at bound
  nomatch bound.symm.trans parks.unbound

theorem once (run : From e y) (first : y.Reaches i j h p) (second : y.Reaches i j' h' p') : j = j' := by
  cases first.parcel_unique second
  cases first.waited <;> cases second.waited
  case inl.inl same same' => exact same.symm.trans same'
  case inl.inr same waited =>
    subst same
    exact absurd waited.left (first.not_parked run)
  case inr.inl waited same =>
    subst same
    exact absurd waited.left (second.not_parked run)
  case inr.inr waited waited' =>
    cases waited.right.deterministic waited'.right
    rfl

end Reaches

-- Every catalog that a hook is called with was offered.
theorem exists_reaches (run : From e y) (empty : e.pending = none) (returns : y.Returns)
    (turn : y.turns[j]? = some t) (called : (h, c) ∈ t.calls) :
    ∃ i p, p.catalog = c ∧ y.Reaches i j h p := by
  have comes := run.comes turn
  obtain ⟨q, hc, calls, origin⟩ :=
    Turn.offer_or_handedOut comes (returns t (List.mem_of_getElem? turn)) called
  cases origin
  case inl move => exact ⟨j, q, hc, ⟨t, turn, move⟩, ⟨t, turn, calls⟩, .inl rfl⟩
  case inr handed =>
    obtain ⟨move, result⟩ := handed
    obtain ⟨i, ⟨p, e, parked, same, _, met⟩, _⟩ := existsUnique_handedOut run empty turn result
    have delivered : e = .delivered := by
      cases met with | ended _ _ turn' ends =>
        cases turn.symm.trans turn'
        have ending := ends.ending?_move
        rw [move] at ending
        exact (Option.some.inj ending).symm
    subst delivered
    obtain ⟨u, offer, parks⟩ := parked
    refine ⟨i, p, same.trans hc, ⟨u, offer, parks.move⟩, ⟨t, turn, ?_⟩, .inr ⟨⟨u, offer, parks⟩, met⟩⟩
    rw [calls, same]

theorem From.ordered (run : From e y) (empty : e.pending = none) (returns : y.Returns) : y.Ordered := by
  have settled : ∀ k, (y.before k).Settled := run.settled returns fun _ _ => empty
  constructor
  case settled => exact settled _
  case order => exact fun first second earlier => first.order run settled second earlier
  case once => exact fun first second => first.once run second
  case source =>
    intro j t h c turn called
    obtain ⟨i, p, hc, reaches⟩ := exists_reaches run empty returns turn called
    refine ⟨i, ⟨p, hc, reaches⟩, ?_⟩
    rintro i' ⟨p', -, reaches'⟩
    obtain lt | rfl | gt := Nat.lt_trichotomy i i'
    · exact absurd (reaches.order run settled reaches' lt) (Nat.lt_irrefl j)
    · rfl
    · exact absurd (reaches'.order run settled reaches gt) (Nat.lt_irrefl j)

end History

-- The parcels are offered one after the other, and the hook is bound once `k` of them were offered.
def bindingAfter (k : Nat) (h : Hook) (parcels : List Parcel) : List Move :=
  (parcels.take k).map .offer ++ .bind (.hook h) :: (parcels.drop k).map .offer

namespace History

variable {y : History} {h : Hook} {w : Option Parcel} {parcels : List Parcel}

-- The first turn of a history and the history behind it.
theorem From.exists_turn (run : From e y) (moves : y.turns.map Turn.move = m :: rest) :
    ∃ t y', y = ⟨t :: y'.turns, y'.final⟩ ∧ t.before = e ∧ t.move = m ∧ t.Comes ∧
      From t.after y' ∧ y'.turns.map Turn.move = rest := by
  cases run
  case nil => cases moves
  case cons comes run =>
    cases moves
    exact ⟨_, _, rfl, rfl, rfl, comes, run, rfl⟩

-- A hook that is bound gets whatever is offered.
theorem From.calls_of_bound (run : From ⟨some h, w⟩ y)
    (moves : y.turns.map Turn.move = parcels.map .offer) :
    y.calls = parcels.map fun p => (h, p.catalog) := by
  induction parcels generalizing y
  case nil => simp [calls, List.map_eq_nil_iff.mp moves]
  case cons p parcels ih =>
    obtain ⟨t, y', rfl, before, move, comes, run', moves'⟩ := run.exists_turn moves
    have bound : t.before.hook = some h := by rw [before]
    obtain ⟨called, -, after⟩ := Turn.of_offer_bound comes move bound
    have others := ih (after.trans before ▸ run') moves'
    unfold calls at others ⊢
    rw [List.flatMap_cons, called, others]
    rfl

-- A hook that is bound to an exchange gets what waits there, and then whatever is offered. If it
-- returns, the binding answers what it was called with.
theorem From.binding (run : From e y)
    (moves : y.turns.map Turn.move = .bind (.hook h) :: parcels.map .offer) :
    y.calls = (e.pending.toList ++ parcels).map (fun p => (h, p.catalog)) ∧
    (y.Returns → y.turns[0]?.map Turn.result = some (.ok (.catalog (e.pending.map Parcel.catalog)))) := by
  obtain ⟨t, y', rfl, rfl, move, comes, run', moves'⟩ := run.exists_turn moves
  unfold calls
  rw [List.flatMap_cons]
  cases comes <;> cases move
  case attached =>
    have others := run'.calls_of_bound moves'
    exact ⟨others, fun _ => rfl⟩
  case handedOver =>
    have others := run'.calls_of_bound moves'
    exact ⟨congrArg (_ :: ·) others, fun _ => rfl⟩
  case kept failed =>
    have others := run'.calls_of_bound moves'
    refine ⟨congrArg (_ :: ·) others, fun returns => ?_⟩
    have returned := returns _ (List.mem_cons_self ..) _ (List.mem_singleton.mpr rfl)
    nomatch failed.symm.trans returned

-- Of the parcels that are offered before a hook is bound, the last one waits for it.
theorem From.binding_after {front back : List Parcel} (run : From ⟨none, w⟩ y)
    (moves : y.turns.map Turn.move = front.map .offer ++ .bind (.hook h) :: back.map .offer) :
    y.calls = ((front.getLast?.or w).toList ++ back).map (fun p => (h, p.catalog)) ∧
    (y.Returns → y.turns[front.length]?.map Turn.result =
      some (.ok (.catalog ((front.getLast?.or w).map Parcel.catalog)))) := by
  induction front generalizing w y
  case nil => exact run.binding moves
  case cons p front ih =>
    obtain ⟨t, y', rfl, before, move, comes, run', moves'⟩ := run.exists_turn moves
    have parks : t.Parks p := ⟨move, by rw [before]⟩
    have after : t.after = ⟨none, some p⟩ := parks.after_eq comes
    have called : t.calls = [] := (parks.answer comes).left
    obtain ⟨calls', result⟩ := ih (after ▸ run') moves'
    have last : (p :: front).getLast?.or w = front.getLast?.or (some p) := by
      cases h : front.getLast? <;> simp [List.getLast?_cons, h]
    rw [last]
    constructor
    case left =>
      unfold calls at calls' ⊢
      rw [List.flatMap_cons, called]
      exact calls'
    case right => exact fun returns => result fun t mem => returns t (List.mem_cons_of_mem _ mem)

end History

-- What a hook gets that is bound to an unbound, empty exchange once `k` of the parcels were offered.
theorem history_bindingAfter (stage : s.Stage number) (start : s.exchange number = ⟨none, none⟩)
    (name : Text) (h : Hook) (parcels : List Parcel) (k : Nat) :
    (history name number s (bindingAfter k h parcels)).calls =
      ((parcels.take k).getLast?.toList ++ parcels.drop k).map (fun p => (h, p.catalog)) ∧
    ((history name number s (bindingAfter k h parcels)).Returns →
      (history name number s (bindingAfter k h parcels)).turns[(parcels.take k).length]?.map Turn.result =
        some (.ok (.catalog ((parcels.take k).getLast?.map Parcel.catalog)))) := by
  have run := start ▸ history_from stage name (bindingAfter k h parcels)
  have moves := map_move_history name number s (bindingAfter k h parcels)
  have received := run.binding_after moves
  rwa [Option.or_none] at received

theorem getLast?_take_append_drop {as : List α} (h : k ≤ 1) :
    (as.take k).getLast?.toList ++ as.drop k = as := by
  obtain rfl | rfl : k = 0 ∨ k = 1 := by omega
  · rfl
  · cases as <;> rfl

-- Every history of a new exchange in which all hooks return is in order. In particular, a hook that is
-- bound among the offers gets the last one before it and then all those behind it; if there was at most
-- one before it, that is what it gets when it is bound in front of all of them.
theorem newExchange_ordered (quiet : s.Quiet) (created : run (newExchange c) s = (.ok number, s'))
    (name : Text) :
    (∀ moves, (history name number s' moves).Returns → (history name number s' moves).Ordered) ∧
    ((s'.exchange number).hook = none → ∀ (h : Hook) (parcels : List Parcel), ∀ k ≤ parcels.length,
      let y := history name number s' (bindingAfter k h parcels)
      y.Returns →
        y.calls = ((parcels.take k).getLast?.toList ++ parcels.drop k).map (fun p => (h, p.catalog)) ∧
        y.turns[k]?.map Turn.result =
          some (.ok (.catalog ((parcels.take k).getLast?.map Parcel.catalog))) ∧
        (k ≤ 1 → y.calls = (history name number s' (bindingAfter 0 h parcels)).calls)) := by
  obtain ⟨stage, empty⟩ := newExchange_stage quiet created
  constructor
  case left =>
    intro moves returns
    exact (history_from stage name moves).ordered empty returns
  case right =>
    intro unbound h parcels k short y returns
    have start : s'.exchange number = ⟨none, none⟩ := by
      rw [← unbound, ← empty]
    obtain ⟨calls, result⟩ := history_bindingAfter stage start name h parcels k
    rw [List.length_take_of_le short] at result
    refine ⟨calls, result returns, fun early => ?_⟩
    have atOnce := (history_bindingAfter stage start name h parcels 0).left
    rw [atOnce, calls, getLast?_take_append_drop early]
    rfl

-- A scene with a second exchange beside the standing one. Its hooks just return.
def Scene.withSecond : Scene :=
  { Scene.initial [] with exchanges := [.unbound, .unbound] }

theorem newExchange_ordered_withSecond :
    (Scene.initial []).Quiet ∧ run (newExchange none) (Scene.initial []) = (.ok 1, .withSecond) ∧
    (let moves := [.offer ⟨0, .empty⟩, .bind (.hook "table"), .unbind, .offer ⟨1, .empty⟩,
      .bind (.value .null), .takePending, .offer ⟨0, .empty⟩, .bind (.hook "list")]
    (history defaultName 1 .withSecond moves).Returns ∧
    (history defaultName 1 .withSecond moves).Ordered) ∧
    (let parcels := [⟨0, .empty⟩, ⟨1, .ofPairs [("a", [])]⟩, ⟨2, .empty⟩]
    (Scene.withSecond.exchange 1).hook = none ∧
    (history defaultName 1 .withSecond (bindingAfter 2 "table" parcels)).Returns ∧
    (history defaultName 1 .withSecond (bindingAfter 2 "table" parcels)).calls =
      ([("table", .ofPairs [("a", [])]), ("table", .empty)] : List (Text × Catalog))) := by
  have quiet : (Scene.initial []).Quiet := nofun
  have created : run (newExchange none) (Scene.initial []) = (.ok 1, .withSecond) := rfl
  have ordered := newExchange_ordered quiet created defaultName
  refine ⟨quiet, created, ?ordered, ?bound⟩
  case ordered =>
    intro moves
    have returns : (history defaultName 1 .withSecond moves).Returns := by decide
    exact ⟨returns, ordered.left moves returns⟩
  case bound =>
    intro parcels
    have returns : (history defaultName 1 .withSecond (bindingAfter 2 "table" parcels)).Returns := by
      decide
    exact ⟨rfl, returns, (ordered.right rfl "table" parcels 2 (by decide) returns).left⟩

end Handoff
end TraitCatalog

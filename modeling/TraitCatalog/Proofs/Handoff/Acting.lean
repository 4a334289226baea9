import TraitCatalog.Proofs.Handoff.Parked

namespace TraitCatalog
namespace Handoff

-- An action on the exchange that a name means already. What it offers is new.
def Action.IsPlain : Action → Prop
  | offerReceived | create _ => False
  | _                        => True

-- A name means the exchange of a number, and the hooks take plain actions only.
structure Scene.Ready (name : Text) (number : Nat) (s : Scene) : Prop where
  consumers : s.names.get? name = some number
  producers : s.producerNumber name = number
  free      : number < s.exchanges.length
  plain     : ∀ h, ∀ actions ∈ (s.conduct h).next, ∀ c, ∀ a ∈ actions c, a.IsPlain

-- The scenes look the same. They may differ in what the hooks will do.
structure Scene.Mirrors (name : Text) (number : Nat) (s t : Scene) : Prop where
  ready     : s.Ready name number
  exchanges : s.exchanges = t.exchanges
  journal   : s.journal = t.journal
  log       : s.log = t.log

-- From `s` to `s'` the parcels of the deeds were numbered one after the other.
def Numbers (s s' : Scene) (deeds : List Deed) : Prop :=
  ∃ n, s'.nextSerial = s.nextSerial + n ∧ serials deeds = List.range' s.nextSerial n

-- A call in a scene comes to the same as a call by which some deeds are done in a scene that looks the same.
def Acts (name : Text) (number : Nat) (call : Hook → Parcel → Operation Unit) : Prop :=
  ∀ h p (s t : Scene), s.Mirrors name number t → ∃ (deeds : List Deed) (f : Option Trouble) (s' : Scene),
    run (call h p) s = (f.elim (.ok ⟨⟩) .error, s') ∧
    s'.Mirrors name number (after number deeds (t.noted h p)) ∧ Numbers s s' deeds

variable {name : Text} {number : Nat} {s s' t : Scene} {h : Hook} {p : Parcel} {c : Catalog}
variable {call : Hook → Parcel → Operation Unit} {deeds : List Deed} {a : Action}

theorem serials_append (front back : List Deed) : serials (front ++ back) = serials front ++ serials back := by
  induction front
  case nil => rfl
  case cons d front ih => rw [List.cons_append, serials, serials, ih, List.append_assoc]

theorem after_append (front back : List Deed) (s : Scene) :
    after number (front ++ back) s = after number back (after number front s) := by
  induction front generalizing s
  case nil => rfl
  case cons d front ih => exact ih _

theorem Numbers.none (s : Scene) : Numbers s s [] :=
  ⟨0, rfl, rfl⟩

theorem Numbers.trans (first : Numbers s s' front) (rest : Numbers s' s'' back) :
    Numbers s s'' (front ++ back) := by
  obtain ⟨m, next, front⟩ := first
  obtain ⟨n, next', back⟩ := rest
  refine ⟨m + n, by rw [next', next, Nat.add_assoc], ?_⟩
  rw [serials_append, front, back, next, List.range'_append_1]

namespace Scene.Mirrors

theorem exchange (m : s.Mirrors name number t) : s.exchange number = t.exchange number := by
  rw [Scene.exchange, Scene.exchange, m.exchanges]

theorem free (m : s.Mirrors name number t) : number < t.exchanges.length :=
  m.exchanges ▸ m.ready.free

theorem put (m : s.Mirrors name number t) (e : Exchange) :
    (s.putExchange number e).Mirrors name number (t.putExchange number e) where
  ready     := ⟨m.ready.consumers, m.ready.producers, by simpa using m.ready.free, m.ready.plain⟩
  exchanges := by rw [putExchange, putExchange, m.exchanges]
  journal   := m.journal
  log       := m.log

theorem record (m : s.Mirrors name number t) (r : LogRecord) :
    (s.record r).Mirrors name number (t.record r) where
  ready     := ⟨m.ready.consumers, m.ready.producers, m.ready.free, m.ready.plain⟩
  exchanges := m.exchanges
  journal   := m.journal
  log       := by rw [Scene.record, Scene.record, m.log]

theorem noted (m : s.Mirrors name number t) (h : Hook) (p : Parcel) :
    (s.noted h p).Mirrors name number (t.noted h p) where
  ready     := ⟨m.ready.consumers, m.ready.producers, m.ready.free, m.ready.plain⟩
  exchanges := m.exchanges
  journal   := by rw [Scene.noted, Scene.noted, m.journal]
  log       := m.log

-- The hook that reacts has one reaction less to come.
theorem react (m : s.Mirrors name number t) (h : Hook) (c : Catalog) :
    (s.react h c).2.Mirrors name number t where
  ready := by
    refine ⟨m.ready.consumers, m.ready.producers, m.ready.free, fun g actions hm => ?_⟩
    rw [show (s.react h c).2.conduct g = (s.called h c).conduct g from rfl, conduct_called] at hm
    split at hm
    case isTrue  => exact m.ready.plain h actions (List.mem_of_mem_tail hm)
    case isFalse => exact m.ready.plain g actions hm
  exchanges := m.exchanges
  journal   := m.journal
  log       := m.log

end Scene.Mirrors

theorem Scene.Ready.plain_actions (ready : s.Ready name number) (h : Hook) (c : Catalog)
    (ha : a ∈ (s.conduct h).actions c) : a.IsPlain := by
  unfold Conduct.actions at ha
  cases hn : (s.conduct h).next
  case nil => simp [hn] at ha
  case cons actions next =>
    rw [hn] at ha
    exact ready.plain h actions (by simp [hn]) c a ha

theorem run_bind_pure (x : Operation α) (g : α → β) (s : Scene) :
    run (x >>= fun a => pure (g a)) s = ((run x s).1.map g, (run x s).2) := by
  rw [run_bind]
  cases run x s with | mk result s'
  cases result
  case ok a    => rfl
  case error t => rfl

theorem run_unit_pure {x : Operation Unit} {f : Option Trouble}
    (ran : run x s = (f.elim (.ok ⟨⟩) .error, s')) (b : β) :
    run (x >>= fun _ => pure b) s = (f.elim (.ok b) .error, s') := by
  rw [run_bind_pure, ran]
  cases f <;> rfl

theorem exists_offer (acts : Acts name number call) (m : s.Mirrors name number t) (p : Parcel) :
    ∃ (deeds : List Deed) (f : Option Trouble) (r : Except Trouble Outcome) (s' t' : Scene),
      run (offer call number p) s = (r, s') ∧
      run (offer (callDoing (after number deeds) f) number p) t = (r, t') ∧
      s'.Mirrors name number t' ∧ Numbers s s' deeds := by
  have same := m.exchange
  cases hook : (s.exchange number).hook
  case none =>
    have hook' : (t.exchange number).hook = none := same ▸ hook
    have ran := run_offer_unbound hook call p
    have ran' := run_offer_unbound hook' (callDoing (after number []) none) p
    rw [← same] at ran'
    refine ⟨[], none, _, _, _, ran, ran', ?_, ?_⟩
    · cases (s.exchange number).pending
      case none   => exact (m.put _).record _
      case some q => exact ((m.record _).put _).record _
    · cases (s.exchange number).pending <;> exact .none s
  case some h =>
    have hook' : (t.exchange number).hook = some h := same ▸ hook
    obtain ⟨deeds, f, s', ran, m', numbers⟩ := acts h p (s.delivering h p) (t.delivering h p) (m.record _)
    have ran' := run_callDoing (after number deeds) f h p (t.delivering h p)
    refine ⟨deeds, f, f.elim (.ok .delivered) .error, s', _, ?_, ?_, m', numbers⟩
    · rw [run_offer_calls hook, run_unit_pure ran]
    · rw [run_offer_calls hook', run_unit_pure ran']

theorem exists_bind (acts : Acts name number call) (m : s.Mirrors name number t) (h : Hook) :
    ∃ (deeds : List Deed) (f : Option Trouble) (r : Except Trouble (Option Catalog)) (s' t' : Scene),
      run (bind call number h) s = (r, s') ∧
      run (bind (callDoing (after number deeds) f) number h) t = (r, t') ∧
      s'.Mirrors name number t' ∧ Numbers s s' deeds := by
  have same := m.exchange
  cases slot : (s.exchange number).pending
  case none =>
    have slot' : (t.exchange number).pending = none := same ▸ slot
    have ran := run_bind_empty m.ready.free slot call h
    have ran' := run_bind_empty m.free slot' (callDoing (after number []) none) h
    rw [← same] at ran'
    exact ⟨[], none, _, _, _, ran, ran', m.put _, .none s⟩
  case some p =>
    have slot' : (t.exchange number).pending = some p := same ▸ slot
    have handing : (s.handingOver number h p).Mirrors name number (t.handingOver number h p) := by
      rw [Scene.handingOver, Scene.handingOver, same]
      exact (m.put _).record _
    obtain ⟨deeds, f, s', ran, m', numbers⟩ := acts h p _ _ handing
    have ran' := run_callDoing (after number deeds) f h p (t.handingOver number h p)
    cases f
    case none =>
      refine ⟨deeds, none, .ok (some p.catalog), _, _, ?_, ?_, m'.put ((s'.exchange number).settle p), numbers⟩
      · rw [run_bind_calls m.ready.free slot, run_bind_ok ran]
        rfl
      · rw [run_bind_calls m.free slot', run_bind_ok ran', m'.exchange]
        rfl
    case some trouble =>
      refine ⟨deeds, some trouble, .error trouble, s', _, ?_, ?_, m', numbers⟩
      · rw [run_bind_calls m.ready.free slot, run_bind_error ran]
      · rw [run_bind_calls m.free slot', run_bind_error ran']

-- An operation comes to the same as a deed, or it changes nothing.
structure Does (name : Text) (number : Nat) (s t : Scene) (x : Operation Answer) (d : Option Deed) :
    Prop where
  answer  : ∀ d' ∈ d, (run (d'.perform number) t).1 = (run x s).1
  mirrors : (run x s).2.Mirrors name number (after number d.toList t)
  numbers : Numbers s (run x s).2 d.toList

namespace Does

variable {x : Operation Answer} {r : Except Trouble Answer} {d : Deed}

theorem nothing (m : s.Mirrors name number t) (ran : run x s = (r, s)) : Does name number s t x none where
  answer  := fun _ mem => absurd mem (Option.not_mem_none _)
  mirrors := by rw [ran]; exact m
  numbers := by rw [ran]; exact .none s

theorem deed (ran : run x s = (r, s')) (done : run (d.perform number) t = (r, t'))
    (m : s'.Mirrors name number t') (numbers : Numbers s s' [d]) :
    Does name number s t x (some d) where
  answer := by
    rintro _ ⟨⟩
    rw [ran, done]
  mirrors := by
    rw [ran, Option.toList_some, after, after, done]
    exact m
  numbers := by rw [ran]; exact numbers

end Does

theorem Scene.Mirrors.run_numberOf (m : s.Mirrors name number t) (f : Nat → Operation α) :
    run (numberOf name >>= f) s = run (f number) s := by
  refine run_bind_ok ?_
  rw [numberOf, run_bind_ok run_get, m.ready.consumers]
  rfl

theorem exists_does_offer (acts : Acts name number call) (m : s.Mirrors name number t)
    (built : Catalog.ofJson Catalog.literalContext literal = .ok c) (received : Option Parcel) :
    ∃ d, Does name number s t (perform call name received (.offer literal)) d := by
  let p : Parcel := ⟨s.nextSerial, c⟩
  let s₁ : Scene := { s with nextSerial := s.nextSerial + 1 }
  have m₁ : s₁.Mirrors name number t :=
    ⟨⟨m.ready.consumers, m.ready.producers, m.ready.free, m.ready.plain⟩, m.exchanges, m.journal, m.log⟩
  obtain ⟨deeds, f, r, s', t', offered, offered', m', n, next, numbered⟩ := exists_offer acts m₁ p
  have ran : run (perform call name received (.offer literal)) s = (r.map .outcome, s') := by
    have offer : run (perform call name received (.offer literal)) s =
        run (Handoff.offer call number p >>= fun o => pure (.outcome o)) s₁ := by
      rw [perform, run_bind_ok run_get, registerLiteralBy, built, m.ready.producers]
      rfl
    rw [offer, run_bind_pure, offered]
  have done : run ((Deed.mk (.offer p) deeds f).perform number) t = (r.map .outcome, t') := by
    rw [Deed.perform, Move.performBy, run_bind_pure, offered']
  have numbers : Numbers s s' [.mk (.offer p) deeds f] := by
    refine ⟨n + 1, by rw [next]; exact Nat.add_right_comm .., ?_⟩
    rw [List.range'_succ, ← numbered]
    exact congrArg (s.nextSerial :: ·) (List.append_nil _)
  exact ⟨_, .deed ran done m' numbers⟩

theorem exists_does_bind (acts : Acts name number call) (m : s.Mirrors name number t) (h : Hook)
    (received : Option Parcel) :
    ∃ d, Does name number s t (perform call name received (.bind (.hook h))) d := by
  obtain ⟨deeds, f, r, s', t', bound, bound', m', n, next, numbered⟩ := exists_bind acts m h
  have ran : run (perform call name received (.bind (.hook h))) s = (r.map .catalog, s') := by
    have bind : run (perform call name received (.bind (.hook h))) s =
        run (Handoff.bind call number h >>= fun c => pure (.catalog c)) s := by
      rw [perform, m.run_numberOf]
      rfl
    rw [bind, run_bind_pure, bound]
  have done : run ((Deed.mk (.bind (.hook h)) deeds f).perform number) t = (r.map .catalog, t') := by
    have bind : (Deed.mk (.bind (.hook h)) deeds f).perform number =
      (Handoff.bind (callDoing (after number deeds) f) number h >>= fun c => pure (.catalog c)) := rfl
    rw [bind, run_bind_pure, bound']
  have numbers : Numbers s s' [.mk (.bind (.hook h)) deeds f] :=
    ⟨n, next, by rw [← numbered]; exact List.append_nil _⟩
  exact ⟨_, .deed ran done m' numbers⟩

-- A plain action does a deed, unless it has nothing to offer.
theorem exists_does (acts : Acts name number call) (m : s.Mirrors name number t) (plain : a.IsPlain)
    (received : Option Parcel) : ∃ d, Does name number s t (perform call name received a) d := by
  cases a
  case offerReceived => cases plain
  case create c      => cases plain
  case offer literal =>
    cases built : Catalog.ofJson Catalog.literalContext literal
    case ok c => exact exists_does_offer acts m built received
    case error f =>
      have ran : run (perform call name received (.offer literal)) s = (.error (.load (.flaw f)), s) := by
        rw [perform, run_bind_ok run_get, registerLiteralBy, built]
        rfl
      exact ⟨none, .nothing m ran⟩
  case bind c =>
    cases c
    case hook h => exact exists_does_bind acts m h received
    case value v =>
      have ran : run (perform call name received (.bind (.value v))) s =
          (.error (.notCallable (typeName v)), s) := by
        rw [perform, m.run_numberOf]
        rfl
      exact ⟨some (.mk (.bind (.value v)) [] none), .deed ran rfl m (.none s)⟩
  case unbind =>
    have ran : run (perform call name received .unbind) s =
        (.ok (.hook (s.exchange number).hook), s.putExchange number (s.exchange number).detach) := by
      rw [perform, m.run_numberOf]
      rfl
    refine ⟨some (.mk .unbind [] none), .deed ran ?_ (m.put _) (.none s)⟩
    rw [m.exchange]
    rfl
  case takePending =>
    have ran : run (perform call name received .takePending) s =
        (.ok (.catalog ((s.exchange number).pending.map Parcel.catalog)),
          s.putExchange number (s.exchange number).clear) := by
      rw [perform, m.run_numberOf]
      rfl
    refine ⟨some (.mk .takePending [] none), .deed ran ?_ (m.put _) (.none s)⟩
    rw [m.exchange]
    rfl

-- A hook acts until an action fails.
theorem exists_deeds (acts : Acts name number call) (received : Option Parcel) {actions : List Action}
    (plain : ∀ a ∈ actions, a.IsPlain) (m : s.Mirrors name number t) :
    ∃ (deeds : List Deed) (f : Option Trouble) (s' : Scene),
      run (forIn actions PUnit.unit fun a _ => do
        let _ ← perform call name received a
        pure (ForInStep.yield ⟨⟩)) s = (f.elim (.ok ⟨⟩) .error, s') ∧
      s'.Mirrors name number (after number deeds t) ∧ Numbers s s' deeds := by
  induction actions generalizing s t
  case nil => exact ⟨[], none, s, rfl, m, .none s⟩
  case cons a actions ih =>
    obtain ⟨here, others⟩ := List.forall_mem_cons.mp plain
    obtain ⟨d, does⟩ := exists_does acts m here received
    cases ran : run (perform call name received a) s with | mk r s₁
    have mirrors := does.mirrors
    have numbers := does.numbers
    rw [ran] at mirrors numbers
    cases r
    case error trouble =>
      refine ⟨d.toList, some trouble, s₁, ?_, mirrors, numbers⟩
      rw [List.forIn_cons, bind_assoc, run_bind_error ran]
      rfl
    case ok answer =>
      obtain ⟨deeds, f, s', ran', mirrors', numbers'⟩ := ih others mirrors
      refine ⟨d.toList ++ deeds, f, s', ?_, after_append .. ▸ mirrors', numbers.trans numbers'⟩
      rw [List.forIn_cons, bind_assoc, run_bind_ok ran]
      exact ran'

theorem acts_callAt (name : Text) (number depth : Nat) : Acts name number (callAt name depth) := by
  induction depth
  case zero =>
    intro h p s t m
    exact ⟨[], none, s.noted h p, rfl, m.noted h p, .none s⟩
  case succ depth ih =>
    intro h p s t m
    let s₁ : Scene := ((s.noted h p).react h p.catalog).2
    have m₁ : s₁.Mirrors name number (t.noted h p) := (m.noted h p).react h p.catalog
    have plain : ∀ a ∈ (s.conduct h).actions p.catalog, a.IsPlain :=
      fun a => m.ready.plain_actions h p.catalog
    obtain ⟨deeds, f, s', ran, m', numbers⟩ := exists_deeds ih (some p) plain m₁
    have noted : run (callAt.note h p) s = (.ok ⟨⟩, s.noted h p) := rfl
    have reacts : (s.noted h p).react h p.catalog = ((s.conduct h).actions p.catalog, s₁) := rfl
    cases f
    case some trouble =>
      refine ⟨deeds, some trouble, s', ?_, m', numbers⟩
      rw [callAt, run_bind_ok noted, run_bind_ok (run_modifyGet _), reacts]
      exact run_bind_error ran
    case none =>
      refine ⟨deeds, s'.failure? h p.catalog, s', ?_, m', numbers⟩
      rw [callAt, run_bind_ok noted, run_bind_ok (run_modifyGet _), reacts]
      refine (run_bind_ok ran).trans ?_
      rw [run_bind_ok run_get]
      cases s'.failure? h p.catalog
      case none         => rfl
      case some trouble => rfl

theorem acts_call (name : Text) (number : Nat) : Acts name number (Handoff.call name) := by
  intro h p s t m
  rw [Handoff.call, run_bind_ok run_get]
  exact acts_callAt name number (s.stored + 1) h p s t m

-- The scene after some actions on the exchange of a name, whatever comes of each of them.
def enact (name : Text) : List Action → Scene → Scene
  | [], s => s
  | a :: actions, s => enact name actions (run (act name a) s).2

theorem enact_mirrors (m : s.Mirrors name number t) {actions : List Action}
    (plain : ∀ a ∈ actions, a.IsPlain) : ∃ deeds,
      (enact name actions s).Mirrors name number (after number deeds t) ∧
      Numbers s (enact name actions s) deeds := by
  induction actions generalizing s t
  case nil => exact ⟨[], m, .none s⟩
  case cons a actions ih =>
    obtain ⟨here, others⟩ := List.forall_mem_cons.mp plain
    obtain ⟨d, does⟩ := exists_does (acts_call name number) m here none
    obtain ⟨deeds, mirrors, numbers⟩ := ih does.mirrors others
    exact ⟨d.toList ++ deeds, after_append .. ▸ mirrors, does.numbers.trans numbers⟩

theorem Numbers.nodup (numbers : Numbers s s' deeds) : (serials deeds).Nodup := by
  obtain ⟨n, -, numbered⟩ := numbers
  rw [numbered]
  exact List.nodup_range'

theorem Numbers.not_mem (numbers : Numbers s s' deeds) (earlier : k < s.nextSerial) : k ∉ serials deeds := by
  obtain ⟨n, -, numbered⟩ := numbers
  rw [numbered, List.mem_range'_1]
  exact fun later => Nat.not_le_of_lt earlier later.left

-- What is done to a scene and in it comes down to deeds, none of which loses a parcel that was parked.
theorem enact_met (ready : s.Ready name number)
    (earlier : ∀ q, (s.exchange number).pending = some q → q.serial < s.nextSerial)
    {actions : List Action} (plain : ∀ a ∈ actions, a.IsPlain) : ∃ deeds,
      (enact name actions s).Mirrors name number (after number deeds s) ∧
      ∀ p e w back,
        .answered (.offer p) e w (.ok (.outcome .pending)) :: back <:+ events number [] deeds s →
          Met p back ((enact name actions s).exchange number) := by
  obtain ⟨deeds, mirrors, numbers⟩ := enact_mirrors ⟨ready, rfl, rfl, rfl⟩ plain
  refine ⟨deeds, mirrors, fun p e w back parked => ?_⟩
  rw [mirrors.exchange]
  exact met_of_once deeds ready.free numbers.nodup (fun q slot => numbers.not_mem (earlier q slot)) parked

-- This goes for a scene as it is in the beginning.
theorem Scene.ready_initial {conducts : Keyed Conduct} (plain : ∀ h conduct, conducts.get? h = some conduct →
    ∀ actions ∈ conduct.next, ∀ c, ∀ a ∈ actions c, a.IsPlain) :
    (Scene.initial conducts).Ready defaultName standing where
  consumers := rfl
  producers := rfl
  free      := Nat.zero_lt_one
  plain h actions mem := by
    rw [conduct] at mem
    cases found : (Scene.initial conducts).conducts.get? h
    case none =>
      rw [found] at mem
      exact absurd mem List.not_mem_nil
    case some conduct =>
      rw [found] at mem
      exact plain h conduct found actions mem

end Handoff
end TraitCatalog

import TraitCatalog.Proofs.Handoff.Turn

namespace TraitCatalog
namespace Exchange

variable {e : Exchange} {p q : Parcel}

theorem settle_of_other (waiting : e.pending = some q) (other : p.serial ≠ q.serial) : e.settle p = e := by
  simp [settle, waiting, other.symm]

theorem pending_of_settle (slot : (e.settle q).pending = some p) : e.pending = some p := by
  unfold settle at slot
  split at slot
  case isTrue  => nomatch slot
  case isFalse => exact slot

end Exchange

namespace Handoff

-- A move, with what the hook does that is called by it, if one is: its own deeds, and then how it fails,
-- if it does.
inductive Deed
  | mk (move : Move) (during : List Deed) (failure : Option Trouble)

namespace Deed

def move : Deed → Move
  | mk m _ _ => m

def during : Deed → List Deed
  | mk _ deeds _ => deeds

-- It is enough to regard the first deed of some, what is done during that one, and the others.
theorem list_induction {P : List Deed → Prop} (nil : P [])
    (cons : ∀ d deeds, P d.during → P deeds → P (d :: deeds)) (deeds : List Deed) : P deeds :=
  @Deed.rec_1 (fun d => P d.during) P (fun _ _ _ during => during) nil cons deeds

end Deed

-- A hook is called: it takes note of the parcel, acts, and fails or returns.
def callDoing (act : Scene → Scene) (failure : Option Trouble) (h : Hook) (p : Parcel) :
    Operation Unit := do
  callAt.note h p
  modify act
  if let some t := failure then
    throw t

def Move.performBy (call : Hook → Parcel → Operation Unit) (number : Nat) : Move → Operation Answer
  | offer p     => return .outcome (← Handoff.offer call number p)
  | bind c      => do return .catalog (← Handoff.bind call number (← c.resolve))
  | unbind      => return .hook (← Handoff.unbind number)
  | takePending => return .catalog (← Handoff.takePending number)

mutual

def Deed.perform (number : Nat) : Deed → Operation Answer
  | .mk m during failure => m.performBy (callDoing (after number during) failure) number

-- The scene after some deeds, whatever comes of each of them.
def after (number : Nat) : List Deed → Scene → Scene
  | [], s => s
  | d :: deeds, s => after number deeds (run (d.perform number) s).2

end

inductive Event
  | called (h : Hook) (p : Parcel)
  -- A move is answered. `within` are the parcels that the bindings around it are handing over.
  | answered (m : Move) (before : Exchange) (within : List Parcel) (result : Except Trouble Answer)

def Event.call? : Event → Option (Hook × Catalog)
  | called h p => some (h, p.catalog)
  | answered .. => none

-- The scene in which a hook has taken note of a parcel.
def Scene.noted (s : Scene) (h : Hook) (p : Parcel) : Scene :=
  { s with journal := s.journal ++ [(h, p.catalog)] }

mutual

-- What happens in a call by the deed, if there is one.
def Deed.inside (number : Nat) (within : List Parcel) : Deed → Scene → List Event
  | .mk (.offer p) during _, s =>
    match (s.exchange number).hook with
    | some h => .called h p :: events number within during ((s.delivering h p).noted h p)
    | none => []
  | .mk (.bind (.hook h)) during _, s =>
    match (s.exchange number).pending with
    | some p => .called h p :: events number (p :: within) during ((s.handingOver number h p).noted h p)
    | none => []
  | _, _ => []

-- All that happens, in order. What happens in a call comes before the answer of the move that made it.
def events (number : Nat) (within : List Parcel) : List Deed → Scene → List Event
  | [], _ => []
  | d :: deeds, s =>
    let (result, s') := run (d.perform number) s
    d.inside number within s ++
      .answered d.move (s.exchange number) within result :: events number within deeds s'

end

-- The calls were made since `s`, and then the exchange is `e`.
structure Scene.Leads (s : Scene) (number : Nat) (calls : List (Hook × Catalog)) (e : Exchange)
    (s' : Scene) : Prop where
  exchange : s'.exchange number = e
  journal  : s'.journal = s.journal ++ calls
  free     : number < s'.exchanges.length

-- All that a deed can come to: what happens in it, what it is answered, and the scene that it leaves.
inductive Deed.Comes (number : Nat) (within : List Parcel) (s : Scene) :
    Deed → List Event → Except Trouble Answer → Scene → Prop
  | delivered (bound : (s.exchange number).hook = some h)
    (call : s.Leads number [(h, p.catalog)] (s.exchange number) s₁) :
    Comes number within s (.mk (.offer p) deeds f) (.called h p :: events number within deeds s₁)
      (f.elim (.ok (.outcome .delivered)) .error) (after number deeds s₁)
  | parked (unbound : (s.exchange number).hook = none)
    (next : s.Leads number [] ((s.exchange number).park p) s') :
    Comes number within s (.mk (.offer p) deeds f) [] (.ok (.outcome .pending)) s'
  | attached (empty : (s.exchange number).pending = none)
    (next : s.Leads number [] ((s.exchange number).attach h) s') :
    Comes number within s (.mk (.bind (.hook h)) deeds f) [] (.ok (.catalog none)) s'
  | handedOver (waiting : (s.exchange number).pending = some p)
    (call : s.Leads number [(h, p.catalog)] ((s.exchange number).attach h) s₁)
    (returned : after number deeds s₁ = s₂) :
    Comes number within s (.mk (.bind (.hook h)) deeds none)
      (.called h p :: events number (p :: within) deeds s₁) (.ok (.catalog (some p.catalog)))
      (s₂.putExchange number ((s₂.exchange number).settle p))
  | kept (waiting : (s.exchange number).pending = some p)
    (call : s.Leads number [(h, p.catalog)] ((s.exchange number).attach h) s₁) :
    Comes number within s (.mk (.bind (.hook h)) deeds (some t))
      (.called h p :: events number (p :: within) deeds s₁) (.error t) (after number deeds s₁)
  | notCallable (next : s.Leads number [] (s.exchange number) s') :
    Comes number within s (.mk (.bind (.value v)) deeds f) [] (.error (.notCallable (typeName v))) s'
  | detached (next : s.Leads number [] (s.exchange number).detach s') :
    Comes number within s (.mk .unbind deeds f) [] (.ok (.hook (s.exchange number).hook)) s'
  | taken (next : s.Leads number [] (s.exchange number).clear s') :
    Comes number within s (.mk .takePending deeds f) []
      (.ok (.catalog ((s.exchange number).pending.map Parcel.catalog))) s'

variable {s s' : Scene} {number : Nat} {within : List Parcel} {h : Hook} {p : Parcel} {d : Deed}
variable {happened : List Event} {result : Except Trouble Answer}

theorem run_callDoing (act : Scene → Scene) (failure : Option Trouble) (h : Hook) (p : Parcel)
    (s : Scene) : run (callDoing act failure h p) s =
      (failure.elim (.ok ⟨⟩) .error, act (s.noted h p)) := by
  cases failure
  case none   => rfl
  case some t => rfl

theorem events_cons (within : List Parcel) (d : Deed) (deeds : List Deed) (s : Scene) :
    events number within (d :: deeds) s = d.inside number within s ++
      .answered d.move (s.exchange number) within (run (d.perform number) s).1 ::
        events number within deeds (run (d.perform number) s).2 := rfl

-- A change of the exchange that calls no hook.
theorem Scene.leads_put (free : number < s.exchanges.length) (e : Exchange) :
    s.Leads number [] e (s.putExchange number e) where
  exchange := exchange_put free
  journal  := (List.append_nil _).symm
  free     := by simpa

namespace Deed

-- What a deed comes to in a scene.
def Done (number : Nat) (within : List Parcel) (s : Scene) (d : Deed) : Prop :=
  d.Comes number within s (d.inside number within s) (run (d.perform number) s).1
    (run (d.perform number) s).2

theorem done_of_run (ran : run (d.perform number) s = (result, s'))
    (inside : d.inside number within s = happened)
    (comes : d.Comes number within s happened result s') : d.Done number within s := by
  unfold Done
  rw [inside, ran]
  exact comes

theorem done_offer (free : number < s.exchanges.length) (within : List Parcel) (p : Parcel)
    (during : List Deed) (f : Option Trouble) : (mk (.offer p) during f).Done number within s := by
  cases he : (s.exchange number).hook
  case none =>
    have ran := run_bind_ok (f := fun o => pure (Answer.outcome o))
      (run_offer_unbound he (callDoing (after number during) f) p)
    have inside : (mk (.offer p) during f).inside number within s = [] := by
      simp only [inside, he]
    refine done_of_run ran inside (.parked he ?_)
    cases (s.exchange number).pending
    case none   => exact ⟨Scene.exchange_put free, (List.append_nil _).symm, by simpa⟩
    case some q => exact ⟨Scene.exchange_put free, (List.append_nil _).symm, by simpa⟩
  case some h =>
    have called := run_callDoing (after number during) f h p (s.delivering h p)
    have inside : (mk (.offer p) during f).inside number within s =
        .called h p :: events number within during ((s.delivering h p).noted h p) := by
      simp only [inside, he]
    refine done_of_run ?_ inside (.delivered he ⟨rfl, rfl, free⟩)
    simp only [perform, Move.performBy, run_bind, run_offer_calls he, called]
    cases f
    case none   => rfl
    case some t => rfl

theorem done_bind (free : number < s.exchanges.length) (within : List Parcel) (h : Hook)
    (during : List Deed) (f : Option Trouble) :
    (mk (.bind (.hook h)) during f).Done number within s := by
  have perform : (mk (.bind (.hook h)) during f).perform number =
      (Handoff.bind (callDoing (after number during) f) number h >>= fun c => pure (.catalog c)) := rfl
  cases he : (s.exchange number).pending
  case none =>
    have ran := run_bind_ok (f := fun c => pure (Answer.catalog c))
      (run_bind_empty free he (callDoing (after number during) f) h)
    have inside : (mk (.bind (.hook h)) during f).inside number within s = [] := by
      simp only [inside, he]
    exact done_of_run ran inside (.attached he (Scene.leads_put free _))
  case some p =>
    have called := run_callDoing (after number during) f h p (s.handingOver number h p)
    have inside : (mk (.bind (.hook h)) during f).inside number within s =
        .called h p :: events number (p :: within) during ((s.handingOver number h p).noted h p) := by
      simp only [inside, he]
    have call : s.Leads number [(h, p.catalog)] ((s.exchange number).attach h)
        ((s.handingOver number h p).noted h p) :=
      ⟨Scene.exchange_put free, rfl, (Scene.leads_put free _).free⟩
    cases f
    case none =>
      refine done_of_run ?_ inside (.handedOver he call rfl)
      rw [perform]
      simp only [run_bind, run_bind_calls free he, called]
      rfl
    case some t =>
      refine done_of_run ?_ inside (.kept he call)
      rw [perform]
      simp only [run_bind, run_bind_calls free he, called]
      rfl

theorem done (free : number < s.exchanges.length) (within : List Parcel) (d : Deed) :
    d.Done number within s := by
  obtain ⟨m, during, f⟩ := d
  cases m
  case offer p => exact done_offer free within p during f
  case bind c =>
    cases c
    case hook h  => exact done_bind free within h during f
    case value v => exact done_of_run rfl rfl (.notCallable ⟨rfl, (List.append_nil _).symm, free⟩)
  case unbind      => exact done_of_run rfl rfl (.detached (Scene.leads_put free _))
  case takePending => exact done_of_run rfl rfl (.taken (Scene.leads_put free _))

end Deed

theorem Scene.Leads.trans (first : s.Leads number calls e s') (rest : s'.Leads number calls' e' s'') :
    s.Leads number (calls ++ calls') e' s'' where
  exchange := rest.exchange
  journal  := by rw [rest.journal, first.journal, List.append_assoc]
  free     := rest.free

-- The calls among the events are those that the journal gets.
theorem Deed.Comes.leads (comes : d.Comes number within s happened result s')
    (during : ∀ within (s₁ : Scene), number < s₁.exchanges.length →
      s₁.Leads number ((events number within d.during s₁).filterMap Event.call?)
        ((after number d.during s₁).exchange number) (after number d.during s₁)) :
    s.Leads number (happened.filterMap Event.call?) (s'.exchange number) s' := by
  cases comes
  case delivered call => exact call.trans (during _ _ call.free)
  case kept call      => exact call.trans (during _ _ call.free)
  case handedOver call returned =>
    subst returned
    obtain ⟨-, journal, free⟩ := call.trans (during _ _ call.free)
    exact ⟨rfl, journal, Nat.lt_of_lt_of_eq free Scene.length_exchanges_put.symm⟩
  case parked next      => exact next.exchange ▸ next
  case attached next    => exact next.exchange ▸ next
  case notCallable next => exact next.exchange ▸ next
  case detached next    => exact next.exchange ▸ next
  case taken next       => exact next.exchange ▸ next

theorem after_leads (deeds : List Deed) (free : number < s.exchanges.length) (within : List Parcel) :
    s.Leads number ((events number within deeds s).filterMap Event.call?)
      ((after number deeds s).exchange number) (after number deeds s) := by
  induction deeds using Deed.list_induction generalizing s within
  case nil => exact ⟨rfl, (List.append_nil _).symm, free⟩
  case cons d deeds during ih =>
    have first := (d.done free within).leads fun within _ free => during free within
    have rest := ih first.free within
    rw [events_cons, List.filterMap_append]
    exact first.trans rest

theorem after_free (deeds : List Deed) (free : number < s.exchanges.length) :
    number < (after number deeds s).exchanges.length :=
  (after_leads deeds free []).free

theorem Deed.free_after (free : number < s.exchanges.length) (d : Deed) :
    number < (run (d.perform number) s).2.exchanges.length :=
  ((d.done free []).leads fun within _ free => after_leads _ free within).free

-- What a deed calls a hook for. The hook acts from `s₁` on, while the parcels of `handing` are being handed
-- over. Only such a parcel can lose its place when the hook is done.
structure Deed.Calls (number : Nat) (within : List Parcel) (s : Scene) (d : Deed)
    (happened : List Event) (s' s₁ : Scene) (handing : List Parcel) : Prop where
  call   : ∃ h p, happened = .called h p :: events number handing d.during s₁
  free   : number < s₁.exchanges.length
  slot   : (s₁.exchange number).pending = (s.exchange number).pending
  around : within ⊆ handing
  handed : ∀ q ∈ handing, q ∈ within ∨ (s.exchange number).pending = some q
  keeps  : ∀ q, (∀ p ∈ handing, p.serial ≠ q.serial) →
    ((after number d.during s₁).exchange number).pending = some q →
      (s'.exchange number).pending = some q

namespace Deed

theorem calls_of_bind {deeds : List Deed} (waiting : (s.exchange number).pending = some p)
    (call : s.Leads number calls ((s.exchange number).attach h) s₁)
    (keeps : ∀ q, p.serial ≠ q.serial → ((after number deeds s₁).exchange number).pending = some q →
      (s'.exchange number).pending = some q) :
    (mk (.bind (.hook h)) deeds f).Calls number within s
      (.called h p :: events number (p :: within) deeds s₁) s' s₁ (p :: within) where
  call   := ⟨h, p, rfl⟩
  free   := call.free
  slot   := by rw [call.exchange]; rfl
  around := fun _ mem => List.mem_cons_of_mem _ mem
  keeps  := fun q others => keeps q (others p (List.mem_cons_self ..))
  handed := by
    rintro q (_ | ⟨_, mem⟩)
    case head => exact .inr waiting
    case tail => exact .inl mem

theorem Comes.calls (comes : d.Comes number within s happened result s') (some : happened ≠ []) :
    ∃ s₁ handing, d.Calls number within s happened s' s₁ handing := by
  cases comes
  case delivered call =>
    have slot := congrArg Exchange.pending call.exchange
    exact ⟨_, _, ⟨_, _, rfl⟩, call.free, slot, fun _ mem => mem, fun _ => .inl, fun _ _ waits => waits⟩
  case kept waiting call => exact ⟨_, _, calls_of_bind waiting call fun _ _ waits => waits⟩
  case handedOver waiting call returned =>
    refine ⟨_, _, calls_of_bind waiting call fun q other waits => ?_⟩
    subst returned
    rw [Scene.exchange_put (after_free _ call.free), Exchange.settle_of_other waits other]
    exact waits
  all_goals contradiction

-- An offer that is answered to be pending is in the slot.
theorem Comes.slot_of_pending (comes : d.Comes number within s happened result s')
    (move : d.move = .offer p) (pending : result = .ok (.outcome .pending)) :
    (s'.exchange number).pending = some p := by
  cases comes <;> cases move
  case parked next => exact congrArg Exchange.pending next.exchange
  case delivered f _ _ =>
    cases f
    case none   => nomatch pending
    case some t => nomatch pending

end Deed

-- The bindings around a move are around all that happens inside it.
theorem within_subset (deeds : List Deed) (free : number < s.exchanges.length)
    (mem : .answered m e w result ∈ events number within deeds s) : within ⊆ w := by
  induction deeds using Deed.list_induction generalizing s within
  case nil => nomatch mem
  case cons d deeds during ih =>
    rw [events_cons, List.mem_append, List.mem_cons] at mem
    obtain inside | answer | rest := mem
    case inl =>
      obtain ⟨s₁, handing, calls⟩ := (d.done free within).calls (List.ne_nil_of_mem inside)
      obtain ⟨h, p, happened⟩ := calls.call
      rw [happened, List.mem_cons] at inside
      have around := during calls.free (inside.resolve_left nofun)
      exact fun q mem => around (calls.around mem)
    case inr.inl =>
      cases answer
      exact fun q mem => mem
    case inr.inr => exact ih (d.free_after free) rest

end Handoff
end TraitCatalog

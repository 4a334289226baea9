import TraitCatalog.Handoff.Scene
import TraitCatalog.Proofs.Except

namespace TraitCatalog
namespace Handoff
namespace Scene

-- No hook acts when it is called. How it fails is left open.
def Quiet (s : Scene) : Prop :=
  ∀ h, ∀ actions ∈ (s.conduct h).next, ∀ c, actions c = []

-- How a hook that would be called now with `c` fails, if it does.
def fails (s : Scene) (h : Hook) (c : Catalog) : Option Trouble :=
  (s.conduct h).failure ((s.conduct h).calls + 1) c

-- The scene after a call that did nothing but come to its end.
def called (s : Scene) (h : Hook) (c : Catalog) : Scene where
  exchanges := s.exchanges
  names := s.names
  conducts := s.conducts.put h (s.conduct h).advance
  journal := s.journal ++ [(h, c)]
  log := s.log
  nextSerial := s.nextSerial

-- The scene with a note that a parcel is about to lose its place.
def replacing (s : Scene) (p : Parcel) : Scene :=
  s.record ⟨.debug, .exchange, "replacing pending implementors for " ++ p.catalog.names⟩

-- The scene with a note that a hook is about to be called with what is offered.
def delivering (s : Scene) (h : Hook) (p : Parcel) : Scene :=
  s.record ⟨.debug, .exchange,
    "delivering implementors for " ++ p.catalog.names ++ " to " ++ h.display⟩

-- The scene in which a hook was bound and is about to be called with the parcel that waits.
def handingOver (s : Scene) (number : Nat) (h : Hook) (p : Parcel) : Scene :=
  (s.putExchange number ((s.exchange number).attach h)).record ⟨.debug, .exchange,
    "delivering pending implementors for " ++ p.catalog.names ++ " to " ++ h.display⟩

-- The scene after a hook was bound and then called with the parcel that waits.
def handing (s : Scene) (number : Nat) (h : Hook) (p : Parcel) : Scene :=
  ((s.putExchange number ((s.exchange number).attach h)).record ⟨.debug, .exchange,
    "delivering pending implementors for " ++ p.catalog.names ++ " to " ++ h.display⟩).called
      h p.catalog

variable {s : Scene} {number : Nat} {e : Exchange} {h : Hook} {c : Catalog} {r : LogRecord}

@[simp]
theorem exchange_record : (s.record r).exchange number = s.exchange number := rfl

@[simp]
theorem exchange_called : (s.called h c).exchange number = s.exchange number := rfl

@[simp]
theorem exchanges_record : (s.record r).exchanges = s.exchanges := rfl

@[simp]
theorem exchanges_called : (s.called h c).exchanges = s.exchanges := rfl

@[simp]
theorem length_exchanges_put : (s.putExchange number e).exchanges.length = s.exchanges.length := by
  simp [putExchange]

@[simp]
theorem fails_delivering : (s.delivering h p).fails = s.fails := rfl

@[simp]
theorem fails_handingOver : (s.handingOver number h p).fails = s.fails := rfl

theorem conduct_called (s : Scene) (h : Hook) (c : Catalog) (g : Hook) :
    (s.called h c).conduct g = if g = h then (s.conduct h).advance else s.conduct g := by
  simp only [conduct, called, Keyed.get?_put]
  split
  case isTrue  => rfl
  case isFalse => rfl

theorem exchange_put (bound : number < s.exchanges.length) :
    (s.putExchange number e).exchange number = e := by
  simp [exchange, putExchange, bound]

theorem exchange_handing (bound : number < s.exchanges.length) :
    (s.handing number h p).exchange number = (s.exchange number).attach h :=
  exchange_put bound

theorem Quiet.record (q : s.Quiet) : (s.record r).Quiet := q

theorem Quiet.delivering (q : s.Quiet) : (s.delivering h p).Quiet := q

theorem Quiet.handingOver (q : s.Quiet) : (s.handingOver number h p).Quiet := q

theorem Quiet.put (q : s.Quiet) : (s.putExchange number e).Quiet := q

theorem Quiet.called (q : s.Quiet) : (s.called h c).Quiet := by
  intro g actions hm
  rw [conduct_called] at hm
  split at hm
  case isTrue  => exact q h actions (List.mem_of_mem_tail hm)
  case isFalse => exact q g actions hm

theorem Quiet.actions_eq_nil (q : s.Quiet) (h : Hook) (c : Catalog) : (s.conduct h).actions c = [] := by
  unfold Conduct.actions
  cases hn : (s.conduct h).next
  case nil => rfl
  case cons actions next => exact q h actions (by simp [hn]) c

end Scene

section

variable {α β : Type} {s : Scene}

@[simp]
theorem run_pure (a : α) : run (pure a) s = (.ok a, s) := rfl

@[simp]
theorem run_get : run get s = (.ok s, s) := rfl

@[simp]
theorem run_modifyGet (f : Scene → α × Scene) : run (modifyGet f) s = (.ok (f s).1, (f s).2) := rfl

theorem run_bind_ok {x : Operation α} {f : α → Operation β} (h : run x s = (.ok a, s')) :
    run (x >>= f) s = run (f a) s' :=
  ExceptT.run_bind_ok h

theorem run_bind_error {x : Operation α} {f : α → Operation β} (h : run x s = (.error t, s')) :
    run (x >>= f) s = (.error t, s') :=
  ExceptT.run_bind_error h

theorem run_bind (x : Operation α) (f : α → Operation β) :
    run (x >>= f) s = match run x s with
      | (.ok a, s')    => run (f a) s'
      | (.error t, s') => (.error t, s') := by
  cases h : run x s with | mk result s'
  cases result
  case ok a    => exact run_bind_ok h
  case error t => exact run_bind_error h

end

section

variable {s : Scene} {h : Hook} {p : Parcel} {number : Nat}

@[simp]
theorem run_log (source : LogSource) (message : Text) :
    run (log source message) s = (.ok ⟨⟩, s.record ⟨.debug, source, message⟩) := rfl

@[simp]
theorem run_exchange : run (exchange number) s = (.ok (s.exchange number), s) := rfl

@[simp]
theorem run_changeExchange (f : Exchange → Exchange) :
    run (changeExchange number f) s = (.ok ⟨⟩, s.putExchange number (f (s.exchange number))) := rfl

theorem run_callAt (q : s.Quiet) (name : Text) (depth : Nat) (h : Hook) (p : Parcel) :
    run (callAt name (depth + 1) h p) s =
      ((s.fails h p.catalog).elim (.ok ⟨⟩) .error, s.called h p.catalog) := by
  have noted : run (callAt.note h p) s =
      (.ok ⟨⟩, { s with journal := s.journal ++ [(h, p.catalog)] }) := rfl
  have reacts : ({ s with journal := s.journal ++ [(h, p.catalog)] } : Scene).react h p.catalog =
      ([], s.called h p.catalog) := by
    rw [← q.actions_eq_nil h p.catalog]
    rfl
  have failure : (s.called h p.catalog).failure? h p.catalog = s.fails h p.catalog := by
    simp only [Scene.failure?, Scene.conduct_called, if_true]
    rfl
  rw [callAt, run_bind_ok noted, run_bind_ok (run_modifyGet _), reacts]
  simp only [List.forIn_nil, pure_bind, run_bind, run_get, failure]
  cases s.fails h p.catalog
  case none   => rfl
  case some t => rfl

theorem run_call (q : s.Quiet) (name : Text) (h : Hook) (p : Parcel) :
    run (call name h p) s =
      ((s.fails h p.catalog).elim (.ok ⟨⟩) .error, s.called h p.catalog) := by
  rw [call, run_bind_ok run_get, run_callAt q]

-- What a bound hook is called with is what is offered, whatever it does.
theorem run_offer_calls (bound : (s.exchange number).hook = some h)
    (call : Hook → Parcel → Operation Unit) (p : Parcel) :
    run (offer call number p) s =
      run (call h p >>= fun _ => pure .delivered) (s.delivering h p) := by
  simp only [offer, run_bind, run_exchange, bound, run_log, Scene.delivering]

theorem run_offer_bound (q : s.Quiet) (bound : (s.exchange number).hook = some h) (name : Text)
    (p : Parcel) :
    run (offer (call name) number p) s =
      ((s.fails h p.catalog).elim (.ok .delivered) .error,
        (s.record ⟨.debug, .exchange,
          "delivering implementors for " ++ p.catalog.names ++ " to " ++ h.display⟩).called
            h p.catalog) := by
  rw [run_offer_calls bound]
  simp only [run_bind, run_call q.delivering, Scene.fails_delivering]
  cases s.fails h p.catalog
  case none   => rfl
  case some t => rfl

theorem run_offer_unbound (unbound : (s.exchange number).hook = none)
    (call : Hook → Parcel → Operation Unit) (p : Parcel) :
    run (offer call number p) s =
      (.ok .pending, (((s.exchange number).pending.elim s s.replacing).putExchange number
        ((s.exchange number).park p)).record ⟨.debug, .exchange,
          "buffered implementors for " ++ p.catalog.names ++ " until a consumer binds"⟩) := by
  simp only [offer, run_bind, run_exchange, unbound]
  cases waiting : (s.exchange number).pending
  case none   => rfl
  case some q => rfl

theorem run_bind_empty (free : number < s.exchanges.length)
    (empty : (s.exchange number).pending = none) (call : Hook → Parcel → Operation Unit) (h : Hook) :
    run (bind call number h) s =
      (.ok none, s.putExchange number ((s.exchange number).attach h)) := by
  simp [bind, run_bind, Scene.exchange_put free, Exchange.attach, empty]

-- What a hook that is bound is called with is what waits, whatever it does.
theorem run_bind_calls (free : number < s.exchanges.length)
    (waiting : (s.exchange number).pending = some p) (call : Hook → Parcel → Operation Unit) (h : Hook) :
    run (bind call number h) s = run (call h p >>= fun _ =>
      changeExchange number (·.settle p) >>= fun _ => pure (some p.catalog))
        (s.handingOver number h p) := by
  have pending : ((s.exchange number).attach h).pending = some p := waiting
  simp only [bind, run_bind, run_exchange, run_changeExchange, Scene.exchange_put free, pending, run_log,
    Scene.handingOver]

theorem settle_waiting {e : Exchange} (waiting : e.pending = some p) : e.settle p = e.clear := by
  simp [Exchange.settle, waiting]

-- The new hook stays bound and the parcel stays in the slot.
theorem run_bind_failed (q : s.Quiet) (free : number < s.exchanges.length)
    (waiting : (s.exchange number).pending = some p) (failed : s.fails h p.catalog = some t)
    (name : Text) : run (bind (call name) number h) s = (.error t, s.handing number h p) := by
  rw [run_bind_calls free waiting]
  simp only [run_bind, run_call q.handingOver, Scene.fails_handingOver, failed]
  rfl

-- The slot is cleared only after the hook has returned. As hooks do not act, what is in the slot by
-- then is still the parcel that the hook was called with.
theorem run_bind_returned (q : s.Quiet) (free : number < s.exchanges.length)
    (waiting : (s.exchange number).pending = some p) (returned : s.fails h p.catalog = none)
    (name : Text) : run (bind (call name) number h) s = (.ok (some p.catalog),
      (s.handing number h p).putExchange number ((s.exchange number).attach h).clear) := by
  have pending : ((s.exchange number).attach h).pending = some p := waiting
  have settled : ((s.handing number h p).exchange number).settle p =
      ((s.exchange number).attach h).clear := by
    rw [Scene.exchange_handing free, settle_waiting pending]
  rw [run_bind_calls free waiting]
  simp only [run_bind, run_changeExchange, run_call q.handingOver, Scene.fails_handingOver, returned,
    ← settled]
  rfl

theorem run_unbind (s : Scene) (number : Nat) : run (unbind number) s =
    (.ok (s.exchange number).hook, s.putExchange number (s.exchange number).detach) := rfl

theorem run_takePending (s : Scene) (number : Nat) : run (takePending number) s =
    (.ok ((s.exchange number).pending.map Parcel.catalog),
      s.putExchange number (s.exchange number).clear) := rfl

end
end Handoff
end TraitCatalog

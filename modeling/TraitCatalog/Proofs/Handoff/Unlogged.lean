import TraitCatalog.Proofs.Handoff.Operation

namespace TraitCatalog
namespace Handoff

def Scene.withLog (s : Scene) (records : List LogRecord) : Scene :=
  { s with log := records }

-- The operation does the same whatever is in the log.
def IgnoresLog (x : Operation α) : Prop :=
  ∀ s records, ∃ records', run x (s.withLog records) = ((run x s).1, (run x s).2.withLog records')

variable {call : Hook → Parcel → Operation Unit}

namespace IgnoresLog

theorem pure (a : α) : IgnoresLog (pure a : Operation α) :=
  fun _ records => ⟨records, rfl⟩

theorem throw (t : Trouble) : IgnoresLog (throw t : Operation α) :=
  fun _ records => ⟨records, rfl⟩

theorem bind {x : Operation α} {f : α → Operation β} (first : IgnoresLog x)
    (rest : ∀ a, IgnoresLog (f a)) : IgnoresLog (x >>= f) := by
  intro s records
  obtain ⟨records₁, ran⟩ := first s records
  cases alone : run x s with | mk r s₁
  rw [alone] at ran
  cases r
  case error t => exact ⟨records₁, by rw [run_bind_error ran, run_bind_error alone]⟩
  case ok a =>
    obtain ⟨records₂, ran'⟩ := rest a s₁ records₁
    exact ⟨records₂, by rw [run_bind_ok ran, run_bind_ok alone, ran']⟩

-- What is read of the scene must not be its log.
theorem get_bind {f : Scene → Operation α} (same : ∀ s records, f (s.withLog records) = f s)
    (rest : ∀ s, IgnoresLog (f s)) : IgnoresLog (get >>= f) := by
  intro s records
  rw [run_bind_ok run_get, run_bind_ok run_get, same]
  exact rest s s records

theorem exchange (number : Nat) : IgnoresLog (exchange number) :=
  fun _ records => ⟨records, rfl⟩

theorem changeExchange (number : Nat) (f : Exchange → Exchange) : IgnoresLog (changeExchange number f) :=
  fun _ records => ⟨records, rfl⟩

theorem log (source : LogSource) (message : Text) : IgnoresLog (log source message) :=
  fun _ _ => ⟨_, rfl⟩

theorem wrap (c : Catalog) : IgnoresLog (wrap c) :=
  fun _ records => ⟨records, rfl⟩

theorem resolve (c : Candidate) : IgnoresLog c.resolve := by
  cases c
  case hook h  => exact .pure h
  case value v => exact .throw _

theorem numberOf (name : Text) : IgnoresLog (numberOf name) := by
  refine .get_bind (fun _ _ => rfl) fun s => ?_
  cases s.names.get? name
  case none        => exact .throw _
  case some number => exact .pure number

theorem newExchange (c : Option Candidate) : IgnoresLog (newExchange c) := by
  have adds (e : Exchange) : IgnoresLog (modifyGet fun s : Scene =>
      (s.exchanges.length, { s with exchanges := s.exchanges ++ [e] })) := fun _ records => ⟨records, rfl⟩
  unfold Handoff.newExchange
  split
  case h_1     => exact adds _
  case h_2     => exact adds _
  case h_3 c _ => exact (resolve c).bind fun _ => adds _

theorem create (name : Text) (c : Option Candidate) : IgnoresLog (create name c) := by
  refine .bind (fun _ records => ⟨records, rfl⟩) fun _ => ?_
  exact (newExchange c).bind fun _ _ records => ⟨records, rfl⟩

theorem forIn {actions : List β} {f : β → Operation (ForInStep PUnit)} (each : ∀ b, IgnoresLog (f b)) :
    IgnoresLog (forIn actions PUnit.unit fun b _ => f b) := by
  induction actions
  case nil => exact .pure _
  case cons b actions ih =>
    rw [List.forIn_cons]
    refine (each b).bind fun next => ?_
    cases next
    case done  => exact .pure _
    case yield => exact ih

variable (calls : ∀ h p, IgnoresLog (call h p))
include calls

theorem offer (number : Nat) (p : Parcel) : IgnoresLog (offer call number p) := by
  refine (exchange number).bind fun e => (exchange number).bind fun e' => ?_
  cases e.hook
  case some h => exact (log _ _).bind fun _ => (calls h p).bind fun _ => .pure _
  case none =>
    have parks : IgnoresLog (do
        Handoff.changeExchange number (·.park p)
        Handoff.log .exchange
          ("buffered implementors for " ++ p.catalog.names ++ " until a consumer binds")
        return Outcome.pending) :=
      (changeExchange number _).bind fun _ => (log _ _).bind fun _ => .pure _
    cases e'.pending
    case none   => exact parks
    case some q => exact (log _ _).bind fun _ => parks

theorem bindHook (number : Nat) (h : Hook) : IgnoresLog (Handoff.bind call number h) := by
  refine (changeExchange number _).bind fun _ => (exchange number).bind fun e => ?_
  cases e.pending
  case none   => exact .pure _
  case some p =>
    exact (log _ _).bind fun _ => (calls h p).bind fun _ => (changeExchange number _).bind fun _ => .pure _

theorem registerBy (number : Nat) (c : Catalog) : IgnoresLog (registerBy call number c) :=
  (wrap c).bind fun p => offer calls number p

theorem registerLiteralBy (number : Nat) (literal : Json) :
    IgnoresLog (registerLiteralBy call number literal) := by
  unfold Handoff.registerLiteralBy
  split
  case h_1 c _ => exact registerBy calls number c
  case h_2     => exact .throw _

theorem loadPayloadBy (number : Nat) (loader : Loader) (tree : FileTree) (path : Path)
    (format : Option Format) : IgnoresLog (loadPayloadBy call number loader tree path format) := by
  unfold Handoff.loadPayloadBy
  split
  case h_1 => exact .throw _
  case h_2 c _ => exact (registerBy calls number c).bind fun _ => (log _ _).bind fun _ => .pure _

end IgnoresLog

theorem IgnoresLog.unbind (number : Nat) : IgnoresLog (unbind number) :=
  fun _ records => ⟨records, rfl⟩

theorem IgnoresLog.takePending (number : Nat) : IgnoresLog (takePending number) :=
  fun _ records => ⟨records, rfl⟩

theorem IgnoresLog.perform (calls : ∀ h p, IgnoresLog (call h p)) (name : Text) (received : Option Parcel)
    (a : Action) : IgnoresLog (perform call name received a) := by
  cases a
  case offer literal =>
    refine .get_bind (fun _ _ => rfl) fun s => ?_
    exact (registerLiteralBy calls _ literal).bind fun _ => .pure _
  case offerReceived =>
    cases received
    case none   => exact .pure _
    case some p => exact .get_bind (fun _ _ => rfl) fun s => (offer calls _ p).bind fun _ => .pure _
  case bind c =>
    exact (numberOf name).bind fun number => (resolve c).bind fun h =>
      (bindHook calls number h).bind fun _ => .pure _
  case unbind      => exact (numberOf name).bind fun number => (unbind number).bind fun _ => .pure _
  case takePending => exact (numberOf name).bind fun number => (takePending number).bind fun _ => .pure _
  case create c    => exact (create name c).bind fun _ => .pure _

-- Nor do the hooks of a scene hear of it, however they act.
theorem ignoresLog_callAt (name : Text) (depth : Nat) (h : Hook) (p : Parcel) :
    IgnoresLog (callAt name depth h p) := by
  induction depth generalizing h p
  case zero => exact fun _ records => ⟨records, rfl⟩
  case succ depth ih =>
    refine .bind (fun _ records => ⟨records, rfl⟩) fun _ => ?_
    refine .bind (fun _ records => ⟨records, rfl⟩) fun actions => ?_
    refine .bind (.forIn fun a => (IgnoresLog.perform ih name (some p) a).bind fun _ => .pure _) fun _ => ?_
    refine .get_bind (fun _ _ => rfl) fun s => ?_
    cases s.failure? h p.catalog
    case none   => exact .pure _
    case some t => exact .throw t

theorem ignoresLog_call (name : Text) (h : Hook) (p : Parcel) : IgnoresLog (Handoff.call name h p) :=
  .get_bind (fun _ _ => rfl) fun s => ignoresLog_callAt name (s.stored + 1) h p

end Handoff
end TraitCatalog

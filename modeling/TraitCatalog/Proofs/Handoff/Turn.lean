import TraitCatalog.Proofs.Handoff.Operation

namespace TraitCatalog
namespace Handoff

-- What is done at a turn. The parcel that is offered can be one that was offered before.
inductive Move
  | offer (p : Parcel)
  | bind (c : Candidate)
  | unbind
  | takePending

def Move.perform (name : Text) (number : Nat) : Move → Operation Answer
  | offer p     => return .outcome (← Handoff.offer (call name) number p)
  | bind c      => do return .catalog (← Handoff.bind (call name) number (← c.resolve))
  | unbind      => return .hook (← Handoff.unbind number)
  | takePending => return .catalog (← Handoff.takePending number)

structure Turn where
  move   : Move
  before : Exchange
  -- How a hook that is called at this turn fails, if it does.
  fails  : Hook → Catalog → Option Trouble
  calls  : List (Hook × Catalog)
  result : Except Trouble Answer
  after  : Exchange

structure History where
  turns : List Turn
  -- The exchange in the end.
  final : Exchange

-- The exchange before the turn of a number.
def History.before (y : History) (k : Nat) : Exchange :=
  y.turns[k]?.elim y.final Turn.before

def Move.turn (name : Text) (number : Nat) (s : Scene) (m : Move) : Turn × Scene :=
  let (result, s') := run (m.perform name number) s
  (⟨m, s.exchange number, s.fails, s'.journal.drop s.journal.length, result, s'.exchange number⟩, s')

def history (name : Text) (number : Nat) (s : Scene) : List Move → History
  | [] => ⟨[], s.exchange number⟩
  | m :: moves =>
    let (t, s') := m.turn name number s
    let rest := history name number s' moves
    ⟨t :: rest.turns, rest.final⟩

-- All that a turn can be.
inductive Turn.Comes : Turn → Prop
  | delivered (returned : f h p.catalog = none) :
    Comes ⟨.offer p, ⟨some h, w⟩, f, [(h, p.catalog)], .ok (.outcome .delivered), ⟨some h, w⟩⟩
  | refused (failed : f h p.catalog = some t) :
    Comes ⟨.offer p, ⟨some h, w⟩, f, [(h, p.catalog)], .error t, ⟨some h, w⟩⟩
  | parked :
    Comes ⟨.offer p, ⟨none, w⟩, f, [], .ok (.outcome .pending), ⟨none, some p⟩⟩
  | attached :
    Comes ⟨.bind (.hook h), ⟨g, none⟩, f, [], .ok (.catalog none), ⟨some h, none⟩⟩
  | handedOver (returned : f h p.catalog = none) :
    Comes ⟨.bind (.hook h), ⟨g, some p⟩, f, [(h, p.catalog)], .ok (.catalog (some p.catalog)),
      ⟨some h, none⟩⟩
  | kept (failed : f h p.catalog = some t) :
    Comes ⟨.bind (.hook h), ⟨g, some p⟩, f, [(h, p.catalog)], .error t, ⟨some h, some p⟩⟩
  | notCallable :
    Comes ⟨.bind (.value v), e, f, [], .error (.notCallable (typeName v)), e⟩
  | detached :
    Comes ⟨.unbind, ⟨g, w⟩, f, [], .ok (.hook g), ⟨none, w⟩⟩
  | taken :
    Comes ⟨.takePending, ⟨g, w⟩, f, [], .ok (.catalog (w.map Parcel.catalog)), ⟨g, none⟩⟩

-- Turns that come one after the other, from an exchange on.
inductive History.From : Exchange → History → Prop
  | nil : From e ⟨[], e⟩
  | cons : t.Comes → From t.after y → From t.before ⟨t :: y.turns, y.final⟩

-- A quiet scene that has the exchange of the number.
structure Scene.Stage (s : Scene) (number : Nat) : Prop where
  quiet : s.Quiet
  bound : number < s.exchanges.length

variable {s : Scene} {name : Text} {number : Nat} {m : Move}

theorem Move.turn_of_run (h : run (m.perform name number) s = (result, s'))
    (journal : s'.journal = s.journal ++ calls) : m.turn name number s =
      (⟨m, s.exchange number, s.fails, calls, result, s'.exchange number⟩, s') := by
  simp [Move.turn, h, journal]

-- What comes about at a turn, and that the next one can follow.
structure Move.Done (name : Text) (number : Nat) (s : Scene) (m : Move) : Prop where
  comes  : (m.turn name number s).1.Comes
  before : (m.turn name number s).1.before = s.exchange number
  after  : (m.turn name number s).1.after = (m.turn name number s).2.exchange number
  stage  : (m.turn name number s).2.Stage number

theorem Move.done_of_run (h : run (m.perform name number) s = (result, s'))
    (journal : s'.journal = s.journal ++ calls) (stage : s'.Stage number)
    (comes : Turn.Comes ⟨m, s.exchange number, s.fails, calls, result, s'.exchange number⟩) :
    m.Done name number s := by
  constructor <;> rw [Move.turn_of_run h journal]
  case comes => exact comes
  case stage => exact stage

theorem Move.done_offer (stage : s.Stage number) (name : Text) (p : Parcel) :
    (Move.offer p).Done name number s := by
  obtain ⟨quiet, free⟩ := stage
  cases he : s.exchange number with | mk hook waiting
  cases hook
  case none =>
    have ran := run_offer_unbound (by rw [he]) (call name) p
    cases waiting
    all_goals
      rw [he] at ran
      refine done_of_run (run_bind_ok ran) (List.append_nil _).symm ⟨quiet, by simpa⟩ ?_
      simp only [Scene.exchange_record, Option.elim, Scene.replacing, he]
      rw [Scene.exchange_put (by simpa)]
      exact .parked
  case some h =>
    have ran := run_offer_bound quiet (by rw [he]) name p
    cases failed : s.fails h p.catalog
    case none =>
      rw [failed] at ran
      refine done_of_run (run_bind_ok ran) rfl ⟨quiet.record.called, free⟩ ?_
      simp only [Scene.exchange_called, Scene.exchange_record, he]
      exact .delivered failed
    case some t =>
      rw [failed] at ran
      refine done_of_run (run_bind_error ran) rfl ⟨quiet.record.called, free⟩ ?_
      simp only [Scene.exchange_called, Scene.exchange_record, he]
      exact .refused failed

theorem Move.perform_bind_hook : (Move.bind (.hook h)).perform name number =
    do return .catalog (← Handoff.bind (call name) number h) := rfl

theorem Move.done_bind_hook (stage : s.Stage number) (name : Text) (h : Hook) :
    (Move.bind (.hook h)).Done name number s := by
  obtain ⟨quiet, free⟩ := stage
  cases he : s.exchange number with | mk hook waiting
  cases waiting
  case none =>
    have ran := perform_bind_hook ▸ run_bind_ok (run_bind_empty free (by rw [he]) (call name) h)
    refine done_of_run ran (List.append_nil _).symm ⟨quiet.put, by simpa⟩ ?_
    rw [Scene.exchange_put free, he]
    exact .attached
  case some p =>
    have waiting : (s.exchange number).pending = some p := by rw [he]
    have free' : number < (s.handing number h p).exchanges.length := by simpa [Scene.handing]
    have quiet' : (s.handing number h p).Quiet := quiet.put.record.called
    cases failed : s.fails h p.catalog
    case none =>
      have ran := perform_bind_hook ▸ run_bind_ok (run_bind_returned quiet free waiting failed name)
      refine done_of_run ran rfl ⟨quiet'.put, by simpa⟩ ?_
      rw [Scene.exchange_put free', he]
      exact .handedOver failed
    case some t =>
      have ran := perform_bind_hook ▸ run_bind_error (run_bind_failed quiet free waiting failed name)
      refine done_of_run ran rfl ⟨quiet', free'⟩ ?_
      rw [Scene.exchange_handing free, he]
      exact .kept failed

theorem Move.done (stage : s.Stage number) (name : Text) (m : Move) : m.Done name number s := by
  cases m
  case offer p => exact done_offer stage name p
  case bind c =>
    cases c
    case hook h => exact done_bind_hook stage name h
    case value v =>
      have ran : run ((Move.bind (.value v)).perform name number) s =
        (.error (.notCallable (typeName v)), s) := rfl
      exact done_of_run ran (List.append_nil _).symm stage .notCallable
  case unbind =>
    have ran := run_bind_ok (f := fun g => pure (Answer.hook g)) (run_unbind s number)
    refine done_of_run ran (List.append_nil _).symm ⟨stage.quiet.put, by simpa using stage.bound⟩ ?_
    rw [Scene.exchange_put stage.bound]
    exact .detached
  case takePending =>
    have ran := run_bind_ok (f := fun c => pure (Answer.catalog c)) (run_takePending s number)
    refine done_of_run ran (List.append_nil _).symm ⟨stage.quiet.put, by simpa using stage.bound⟩ ?_
    rw [Scene.exchange_put stage.bound]
    exact .taken

-- Every move has its turn.
theorem map_move_history (name : Text) (number : Nat) (s : Scene) (moves : List Move) :
    (history name number s moves).turns.map Turn.move = moves := by
  induction moves generalizing s
  case nil => rfl
  case cons m moves ih => exact congrArg (m :: ·) (ih _)

-- What comes about turn by turn makes a history.
theorem history_from (stage : s.Stage number) (name : Text) (moves : List Move) :
    History.From (s.exchange number) (history name number s moves) := by
  induction moves generalizing s
  case nil => exact .nil
  case cons m moves ih =>
    have done := m.done stage name
    have rest := ih done.stage
    rw [← done.after] at rest
    exact done.before ▸ .cons done.comes rest

theorem run_newExchange_ok (created : run (newExchange c) s = (.ok number, s')) :
    ∃ e : Exchange, e.pending = none ∧ number = s.exchanges.length ∧
      s' = { s with exchanges := s.exchanges ++ [e] } := by
  unfold newExchange at created
  split at created
  case h_1 =>
    cases created
    exact ⟨.unbound, rfl, rfl, rfl⟩
  case h_2 =>
    cases created
    exact ⟨.unbound, rfl, rfl, rfl⟩
  case h_3 c _ =>
    cases c
    case hook h _ =>
      cases created
      exact ⟨.bound h, rfl, rfl, rfl⟩
    case value v => cases created

-- A new exchange is empty, whether it comes with a hook or not.
theorem newExchange_stage (quiet : s.Quiet) (created : run (newExchange c) s = (.ok number, s')) :
    s'.Stage number ∧ (s'.exchange number).pending = none := by
  obtain ⟨e, empty, rfl, rfl⟩ := run_newExchange_ok created
  refine ⟨⟨quiet, by simp⟩, ?_⟩
  simpa [Scene.exchange] using empty

end Handoff
end TraitCatalog

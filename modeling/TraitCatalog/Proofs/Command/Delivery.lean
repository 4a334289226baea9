import TraitCatalog.Command.Delivery
import TraitCatalog.Proofs.Command.Survey
import TraitCatalog.Proofs.Handoff.Discovery
import TraitCatalog.Proofs.Handoff.Operation

namespace TraitCatalog

-- The first one of the consumers that has the name.
def Consumer.FirstNamed (consumers : List Consumer) (name : Text) (consumer : Consumer) : Prop :=
  ∃ front back, consumers = front ++ consumer :: back ∧ consumer.name = name ∧
    ∀ other ∈ front, other.name ≠ name

theorem Consumer.select_firstNamed {consumers : List Consumer} {name : Text}
    (first : FirstNamed consumers name consumer) :
    select consumers (some name) = .ok (some consumer) := by
  obtain ⟨front, back, rfl, named, others⟩ := first
  refine select_some_eq_ok_iff.mpr (List.find?_eq_some_iff_append.mpr ?_)
  exact ⟨by simpa using named, front, back, rfl, by simpa using others⟩

theorem Consumer.select_unnamed {consumers : List Consumer} {name : Text}
    (none : ∀ consumer ∈ consumers, consumer.name ≠ name) :
    select consumers (some name) = .error (.unknown name) := by
  refine select_some_eq_error_iff.mpr ⟨rfl, List.find?_eq_none.mpr ?_⟩
  simpa using none

namespace Handoff

-- The scene in which a hook is about to be called with a catalog, in a new exchange.
def Scene.engaging (s : Scene) (h : Hook) (c : Catalog) : Scene :=
  Scene.delivering { s with exchanges := s.exchanges ++ [.bound h], nextSerial := s.nextSerial + 1 } h
    ⟨s.nextSerial, c⟩

theorem Scene.Quiet.engaging {s : Scene} {h : Hook} {c : Catalog} (q : s.Quiet) : (s.engaging h c).Quiet := q

-- In an exchange that comes with a hook, a catalog is handed over in one call.
theorem run_registerBy_newExchange (call : Hook → Parcel → Operation Unit) (h : Hook) (c : Catalog)
    (s : Scene) :
    run (newExchange (some (.hook h)) >>= fun number => registerBy call number c) s =
      run (call h ⟨s.nextSerial, c⟩ >>= fun _ => pure .delivered) (s.engaging h c) := by
  have created : run (newExchange (some (.hook h))) s =
      (.ok s.exchanges.length, { s with exchanges := s.exchanges ++ [.bound h] }) := rfl
  rw [run_bind_ok created, registerBy, wrap, run_bind_ok (run_modifyGet _)]
  exact run_offer_calls (by simp [Scene.exchange, Exchange.bound]) call _

end Handoff

namespace Command

variable {call : Hook → Parcel → Handoff.Operation Unit} {s : Settings} {session : Session} {path : Path}
variable {c : Catalog} {consumers : List Consumer} {consumer : Consumer} {f : Failure}

-- The report on a delivery.
def announce (s : Settings) (consumer : Consumer) (c : Catalog) : Command Outcome := do
  let (severity, message) := Report.registration .delivered c (some consumer.name) s.consumerGroup
  report (look s) severity message
  return .delivered

theorem run_handoff (operation : Handoff.Operation α) (session : Session) :
    run (handoff operation) session = ((Handoff.run operation session.scene).1.mapError .handoff,
      { session with scene := (Handoff.run operation session.scene).2 }) := by
  rw [handoff, run_get_bind]
  cases Handoff.run operation session.scene with | mk answer scene
  cases answer <;> rfl

-- What is put out makes no difference to a scene.
theorem scene_run_print (p : Printed) (session : Session) :
    (run (print p) session).2.scene = session.scene := by
  rw [print, run_get_bind]
  split <;> rfl

theorem scene_run_announce (s : Settings) (consumer : Consumer) (c : Catalog) (session : Session) :
    (run (announce s consumer c) session).2.scene = session.scene := by
  have reported : ∀ severity message,
      (run (report (look s) severity message) session).2.scene = session.scene := fun severity message => by
    rw [report, run_get_bind, scene_run_print]
  simp only [announce, run_bind]
  rw [← reported]
  split
  case h_1 ran =>
    rw [ran]
    rfl
  case h_2 ran => rw [ran]

-- Any name but the empty one is the name that is asked for.
theorem requested_of_ne_nil (named : name ≠ []) (s : Settings) : requested s (some name) = some name := by
  cases name
  case nil  => exact absurd rfl named
  case cons => rfl

theorem choose_firstNamed (named : name ≠ []) (first : consumer.FirstNamed consumers name) (s : Settings) :
    choose s (some name) consumers = .ok (some consumer) := by
  rw [choose, requested_of_ne_nil named, Consumer.select_firstNamed first, Except.mapError_ok]

theorem choose_unnamed (named : name ≠ []) (none : ∀ consumer ∈ consumers, consumer.name ≠ name)
    (s : Settings) : choose s (some name) consumers = .error (.refused (.noConsumer name s.consumerGroup)) := by
  rw [choose, requested_of_ne_nil named, Consumer.select_unnamed none, Except.mapError_error]

-- Without a catalog there is nothing to deliver.
theorem run_registerBy_unloaded (failed : loadCatalog s session.tree path = .error f) (given : Consumers)
    (name : Option Text) : run (registerBy call s path given name) session = (.error f, session) := by
  rw [registerBy, run_bind_error (run_catalogAt_error failed)]

section

variable (loaded : loadCatalog s session.tree path = .ok c)
include loaded

theorem run_registerBy_refused {name : Option Text} (refused : choose s name consumers = .error f) :
    run (registerBy call s path (.given consumers) name) session = (.error f, session) := by
  rw [registerBy, run_bind_ok (run_catalogAt loaded)]
  refine (run_bind_ok rfl).trans (run_bind_error ?_)
  rw [refused]
  rfl

theorem run_registerBy_chosen {name : Option Text} (chosen : choose s name consumers = .ok (some consumer)) :
    run (registerBy call s path (.given consumers) name) session =
      run (handoff (call consumer.hook ⟨session.scene.nextSerial, c⟩) >>= fun _ => announce s consumer c)
        { session with scene := session.scene.engaging consumer.hook c } := by
  rw [registerBy, run_bind_ok (run_catalogAt loaded)]
  refine (run_bind_ok rfl).trans ?_
  rw [chosen]
  refine (run_bind_ok rfl).trans ?_
  have handed := Handoff.run_registerBy_newExchange call consumer.hook c session.scene
  simp only [run_bind, run_handoff, Option.map_some, handed, Handoff.run_bind]
  cases Handoff.run (call consumer.hook ⟨session.scene.nextSerial, c⟩) _ with | mk answer scene
  cases answer
  case error t => rfl
  case ok      => simp only [announce, Handoff.run_pure, Except.mapError_ok, run_bind]

theorem scene_run_registerBy {name : Option Text} (chosen : choose s name consumers = .ok (some consumer)) :
    (run (registerBy call s path (.given consumers) name) session).2.scene =
      (Handoff.run (call consumer.hook ⟨session.scene.nextSerial, c⟩)
        (session.scene.engaging consumer.hook c)).2 := by
  rw [run_registerBy_chosen loaded chosen, run_bind, run_handoff]
  split
  case h_1 session' ran =>
    obtain ⟨-, rfl⟩ := Prod.mk.inj ran
    exact scene_run_announce ..
  case h_2 ran =>
    obtain ⟨-, rfl⟩ := Prod.mk.inj ran
    rfl

end

-- If there is a catalog and a consumer of the name, the hook of the first such consumer is called with it. That
-- is the one call, and the scene is left as that call leaves it. Otherwise no hook is called and the session
-- stays as it is; the command is refused then, unless the payload is there but cannot be read.
theorem register_named (named : name ≠ []) (call : Hook → Parcel → Handoff.Operation Unit) (s : Settings)
    (session : Session) (path : Path) (consumers : List Consumer) :
    (∀ f, loadCatalog s session.tree path = .error f →
      run (registerBy call s path (.given consumers) (some name)) session = (.error f, session) ∧
      (s.schemaRoot = none → (∃ r, f = .refused r) ∨ Obstacle s session.tree session.output path f)) ∧
    ∀ c, loadCatalog s session.tree path = .ok c →
      ((∀ consumer ∈ consumers, consumer.name ≠ name) →
        run (registerBy call s path (.given consumers) (some name)) session =
          (.error (.refused (.noConsumer name s.consumerGroup)), session)) ∧
      ∀ consumer, consumer.FirstNamed consumers name →
        run (registerBy call s path (.given consumers) (some name)) session =
          run (handoff (call consumer.hook ⟨session.scene.nextSerial, c⟩) >>= fun _ => announce s consumer c)
            { session with scene := session.scene.engaging consumer.hook c } ∧
        (run (registerBy call s path (.given consumers) (some name)) session).2.scene =
          (Handoff.run (call consumer.hook ⟨session.scene.nextSerial, c⟩)
            (session.scene.engaging consumer.hook c)).2 ∧
        (session.scene.Quiet →
          (run (register s path (.given consumers) (some name)) session).2.scene.journal =
            session.scene.journal ++ [(consumer.hook, c)]) := by
  refine ⟨fun f failed => ⟨?failed, ?told⟩, fun c loaded => ⟨fun none => ?none, fun consumer first => ?first⟩⟩
  case failed => exact run_registerBy_unloaded failed _ _
  case told   => exact fun bundled => refused_or_obstacle bundled failed session.output
  case none   => exact run_registerBy_refused loaded (choose_unnamed named none s)
  case first  =>
    have chosen := choose_firstNamed named first s
    refine ⟨run_registerBy_chosen loaded chosen, scene_run_registerBy loaded chosen, fun quiet => ?_⟩
    rw [register, scene_run_registerBy loaded chosen, Handoff.run_call quiet.engaging]
    rfl

-- Two of these consumers have one name.
def twins : List Consumer :=
  [⟨"list", "rows"⟩, ⟨"tree", "nodes"⟩, ⟨"tree", "leaves"⟩]

theorem quiet_ofEmpty : Session.ofEmpty.scene.Quiet := nofun

theorem register_named_tree :
    Text.ofString "tree" ≠ [] ∧ Text.ofString "ghost" ≠ [] ∧
    run (register .standard (.ofText "missing.json") (.given twins) (some "tree")) .ofEmpty =
      (.error (.refused (.payloadNotFound (.ofText "missing.json"))), .ofEmpty) ∧
    loadCatalog .standard Session.ofEmpty.tree (.ofText "empty.json") = .ok .empty ∧
    run (register .standard (.ofText "empty.json") (.given twins) (some "ghost")) .ofEmpty =
      (.error (.refused (.noConsumer "ghost" Consumer.defaultGroup)), .ofEmpty) ∧
    Consumer.FirstNamed twins "tree" ⟨"tree", "nodes"⟩ ∧ Session.ofEmpty.scene.Quiet ∧
    (run (register .standard (.ofText "empty.json") (.given twins) (some "tree")) .ofEmpty).2.scene.journal =
      [(Text.ofString "nodes", .empty)] := by
  have tree  : Text.ofString "tree" ≠ [] := nofun
  have ghost : Text.ofString "ghost" ≠ [] := nofun
  have loaded : loadCatalog .standard Session.ofEmpty.tree (.ofText "empty.json") = .ok .empty :=
    loadCatalog_empty rfl rfl
  have missing : loadCatalog .standard Session.ofEmpty.tree (.ofText "missing.json") =
      .error (.refused (.payloadNotFound (.ofText "missing.json"))) := rfl
  have first : Consumer.FirstNamed twins "tree" ⟨"tree", "nodes"⟩ :=
    ⟨[⟨"list", "rows"⟩], [⟨"tree", "leaves"⟩], rfl, rfl, by decide⟩
  have named  := register_named tree (Handoff.call Handoff.defaultName) .standard .ofEmpty
  have others := register_named ghost (Handoff.call Handoff.defaultName) .standard .ofEmpty
    (.ofText "empty.json") twins
  obtain ⟨failed, -⟩ := (named (.ofText "missing.json") twins).left _ missing
  obtain ⟨refused, -⟩ := others.right _ loaded
  obtain ⟨-, -, once⟩ := ((named (.ofText "empty.json") twins).right _ loaded).right _ first
  exact ⟨tree, ghost, failed, loaded, refused (by decide), first, quiet_ofEmpty, once quiet_ofEmpty⟩

-- The empty name counts as none, so a consumer that was not asked for gets the catalog.
theorem register_empty_replaced :
    loadCatalog .standard Session.ofEmpty.tree (.ofText "empty.json") = .ok .empty ∧
    (∀ consumer ∈ twins, consumer.name ≠ []) ∧
    (run (register .standard (.ofText "empty.json") (.given twins) (some [])) .ofEmpty).2.scene.journal =
      [(Text.ofString "rows", .empty)] := by
  have loaded : loadCatalog .standard Session.ofEmpty.tree (.ofText "empty.json") = .ok .empty :=
    loadCatalog_empty rfl rfl
  have chosen : choose .standard (some []) twins = .ok (some ⟨"list", "rows"⟩) := rfl
  refine ⟨loaded, by decide, ?_⟩
  rw [register, scene_run_registerBy loaded chosen, Handoff.run_call quiet_ofEmpty.engaging]
  rfl

end Command
end TraitCatalog

import TraitCatalog.Catalog.Summary
import TraitCatalog.Handoff.Exchange
import TraitCatalog.Log
import TraitCatalog.Payload.Loading

namespace TraitCatalog
namespace Handoff

-- What is offered as a hook: a hook, or a value that cannot be called.
inductive Candidate
  | hook (h : Hook)
  | value (v : Json)

-- An operation on the exchange of a name.
inductive Action
  | offer (literal : Json)
  -- Offers once more the catalog that the acting hook was called with.
  | offerReceived
  | bind (c : Candidate)
  | unbind
  | takePending
  -- Gives the name to a new exchange.
  | create (c : Option Candidate)

inductive Trouble
  | load (e : LoadError)
  -- A hook failed.
  | failed (message : Text)
  -- A hook could not encode the catalog that it was called with.
  | encode (e : EncodeError)
  -- A value that was to be bound is no hook.
  | notCallable (typeName : Text)
  | noExchange (name : Text)

def Trouble.message : Trouble → Text
  | load e => e.message
  | failed message => message
  | encode e => e.message
  | notCallable typeName => "consumer hook must be callable, got " ++ typeName
  | noExchange name => "no exchange '" ++ name ++ "'"

-- How a hook goes on. A call comes with a catalog; the hook acts, and then it fails or returns.
structure Conduct where
  -- How many calls there were.
  calls : Nat
  -- How the hook acts at its next calls. Later it does not act at all.
  next : List (Catalog → List Action)
  -- How it fails, given how many calls there were when it is done with acting.
  failure : (calls : Nat) → Catalog → Option Trouble

-- What an operation answers.
inductive Answer
  | outcome (o : Outcome)
  -- The catalog that was handed over or taken back, if any.
  | catalog (c : Option Catalog)
  -- The hook that was removed, if any.
  | hook (h : Option Hook)
  | created

-- Exchanges are numbered and can have names. A name can go over to another exchange while operations on the one
-- that it meant before are still under way.
structure Scene where
  exchanges : List Exchange
  -- The numbers of the exchanges that have names.
  names : Keyed Nat
  conducts : Keyed Conduct
  -- Every call of a hook, in order.
  journal : List (Hook × Catalog)
  log : List LogRecord
  nextSerial : Nat

def defaultName : Text :=
  "default"

-- The exchange that is there from the start. Producers mean it unless they name another one.
def standing : Nat := 0

namespace Conduct

-- A hook that just returns.
def plain : Conduct :=
  ⟨0, [], fun _ _ => none⟩

-- One call more.
def advance (conduct : Conduct) : Conduct :=
  { conduct with calls := conduct.calls + 1, next := conduct.next.tail }

def actions (conduct : Conduct) (c : Catalog) : List Action :=
  (conduct.next.head?.map (· c)).getD []

end Conduct

namespace Scene

def initial (conducts : Keyed Conduct) : Scene where
  exchanges := [.unbound]
  names := [(defaultName, standing)]
  conducts := conducts
  journal := []
  log := []
  nextSerial := 0

def exchange (s : Scene) (number : Nat) : Exchange :=
  s.exchanges.getD number .unbound

def putExchange (s : Scene) (number : Nat) (e : Exchange) : Scene :=
  { s with exchanges := s.exchanges.set number e }

-- The exchange of a name, if the name has one.
def named? (s : Scene) (name : Text) : Option Exchange :=
  (s.names.get? name).map s.exchange

-- The number of the exchange that a producer means by a name.
def producerNumber (s : Scene) (name : Text) : Nat :=
  if name = defaultName then standing else (s.names.get? name).getD standing

def record (s : Scene) (r : LogRecord) : Scene :=
  { s with log := s.log ++ [r] }

def conduct (s : Scene) (h : Hook) : Conduct :=
  (s.conducts.get? h).getD .plain

-- How a hook acts when it is called with `c`, and the scene in which it has been called.
def react (s : Scene) (h : Hook) (c : Catalog) : List Action × Scene :=
  ((s.conduct h).actions c, { s with conducts := s.conducts.put h (s.conduct h).advance })

-- How a hook that was called with `c` fails in the end, if it does.
def failure? (s : Scene) (h : Hook) (c : Catalog) : Option Trouble :=
  (s.conduct h).failure (s.conduct h).calls c

-- At how many more calls all hooks together may act.
def stored (s : Scene) : Nat :=
  s.conducts.foldl (fun n (_, conduct) => n + conduct.next.length) 0

-- The scene without what it has recorded so far.
def forget (s : Scene) : Scene :=
  { s with journal := [], log := [] }

end Scene

-- Operations that change the scene and may fail; what they changed before a failure stays.
abbrev Operation := ExceptT Trouble (StateM Scene)

def typeName : Json → Text
  | .null => "NoneType"
  | .bool _ => "bool"
  | .int _ => "int"
  | .float _ => "float"
  | .string _ => "str"
  | .array _ => "list"
  | .object _ => "dict"

def Candidate.resolve : Candidate → Operation Hook
  | hook h => return h
  | value v => throw (.notCallable (typeName v))

def log (source : LogSource) (message : Text) : Operation Unit :=
  modify (·.record ⟨.debug, source, message⟩)

def exchange (number : Nat) : Operation Exchange :=
  return (← get).exchange number

def changeExchange (number : Nat) (f : Exchange → Exchange) : Operation Unit :=
  modify fun s => s.putExchange number (f (s.exchange number))

-- The number of the exchange that has the name.
def numberOf (name : Text) : Operation Nat := do
  match (← get).names.get? name with
  | some number => return number
  | none => throw (.noExchange name)

def wrap (c : Catalog) : Operation Parcel :=
  modifyGet fun s => (⟨s.nextSerial, c⟩, { s with nextSerial := s.nextSerial + 1 })

-- Adds an exchange, bound if a hook comes with it, and answers its number.
def newExchange (c : Option Candidate) : Operation Nat := do
  let e ← match c with
    | none | some (.value .null) => pure Exchange.unbound
    | some c => do pure (.bound (← c.resolve))
  modifyGet fun s => (s.exchanges.length, { s with exchanges := s.exchanges ++ [e] })

-- Gives the name to a new exchange. If there can be none, no exchange has the name any more.
def create (name : Text) (c : Option Candidate) : Operation Unit := do
  modify fun s => { s with names := s.names.erase name }
  let number ← newExchange c
  modify fun s => { s with names := s.names.put name number }

section

-- How a hook is called with a parcel.
variable (call : Hook → Parcel → Operation Unit)

-- A bound hook gets the parcel at once; otherwise the parcel waits.
def offer (number : Nat) (p : Parcel) : Operation Outcome := do
  match (← exchange number).hook, (← exchange number).pending with
  | some h, _ =>
    log .exchange ("delivering implementors for " ++ p.catalog.names ++ " to " ++ h.display)
    call h p
    return .delivered
  | none, waiting =>
    if let some q := waiting then
      log .exchange ("replacing pending implementors for " ++ q.catalog.names)
    changeExchange number (·.park p)
    log .exchange ("buffered implementors for " ++ p.catalog.names ++ " until a consumer binds")
    return .pending

-- The hook becomes the consumer and gets the parcel that waits. The slot is cleared only once the
-- hook has returned.
def bind (number : Nat) (h : Hook) : Operation (Option Catalog) := do
  changeExchange number (·.attach h)
  match (← exchange number).pending with
  | none => return none
  | some p =>
    log .exchange ("delivering pending implementors for " ++ p.catalog.names ++ " to " ++ h.display)
    call h p
    changeExchange number (·.settle p)
    return some p.catalog

def unbind (number : Nat) : Operation (Option Hook) := do
  let e ← exchange number
  changeExchange number Exchange.detach
  return e.hook

def takePending (number : Nat) : Operation (Option Catalog) := do
  let e ← exchange number
  changeExchange number Exchange.clear
  return e.pending.map Parcel.catalog

-- Registers a catalog with an exchange: what is offered is a parcel of its own.
def registerBy (number : Nat) (c : Catalog) : Operation Outcome := do
  offer call number (← wrap c)

-- Builds the catalog that a literal describes and registers it.
def registerLiteralBy (number : Nat) (literal : Json) : Operation Outcome := do
  match Catalog.ofJson Catalog.literalContext literal with
  | .ok c => registerBy call number c
  | .error f => throw (.load (.flaw f))

-- Loads the payload at a path and registers its catalog.
def loadPayloadBy (number : Nat) (loader : Loader) (tree : FileTree) (path : Path)
    (format : Option Format) : Operation Outcome := do
  match loader.loadCatalog tree path format with
  | .error e => throw (.load e)
  | .ok c =>
    let outcome ← registerBy call number c
    log .loading
      (path.text ++ ": " ++ Text.ofNat c.entries.length ++ " libraries " ++ outcome.name)
    return outcome

-- Carries out an action on the exchange of a name. `received` is the parcel that the acting hook was
-- called with, if a hook acts.
def perform (name : Text) (received : Option Parcel) : Action → Operation Answer
  | .offer literal => do
    return .outcome (← registerLiteralBy call ((← get).producerNumber name) literal)
  | .offerReceived => do
    match received with
    | some p => return .outcome (← offer call ((← get).producerNumber name) p)
    | none => return .catalog none
  | .bind c => do
    let number ← numberOf name
    return .catalog (← bind call number (← c.resolve))
  | .unbind => do return .hook (← unbind (← numberOf name))
  | .takePending => do return .catalog (← takePending (← numberOf name))
  | .create c => do
    create name c
    return .created

end

-- A hook is called: it does what its conduct says, and acts on the exchange of a name if it acts.
-- Hooks that are called on the way are called at a depth less by one; at depth zero a hook only takes
-- note of the catalog.
def callAt (name : Text) : (depth : Nat) → Hook → Parcel → Operation Unit
  | 0, h, p => note h p
  | depth + 1, h, p => do
    note h p
    for action in ← modifyGet (·.react h p.catalog) do
      let _ ← perform (callAt name depth) name (some p) action
    if let some trouble := (← get).failure? h p.catalog then
      throw trouble
where
  note (h : Hook) (p : Parcel) : Operation Unit :=
    modify fun s => { s with journal := s.journal ++ [(h, p.catalog)] }

-- A hook is called. Calls can nest only as deep as there are calls at which hooks may act.
def call (name : Text) (h : Hook) (p : Parcel) : Operation Unit := do
  callAt name ((← get).stored + 1) h p

def act (name : Text) (a : Action) : Operation Answer :=
  perform (call name) name none a

-- A hook that a producer's own call reaches acts on the exchange that producers mean by default.
def register (number : Nat) (c : Catalog) : Operation Outcome :=
  registerBy (call defaultName) number c

def loadPayload (number : Nat) (loader : Loader) (tree : FileTree) (path : Path)
    (format : Option Format) : Operation Outcome :=
  loadPayloadBy (call defaultName) number loader tree path format

def run (operation : Operation α) (s : Scene) : Except Trouble α × Scene :=
  operation.run.run s

end Handoff
end TraitCatalog

import TraitCatalog.Command.Session

namespace TraitCatalog
namespace Command

-- Where the consumers come from.
inductive Consumers
  | given (consumers : List Consumer)
  -- Those among the entry points that are installed under the group of the settings.
  | installed (entries : List Consumer.EntryPoint)

def Consumers.load (s : Settings) : Consumers → Command (List Consumer)
  | given consumers => return consumers
  | installed entries => do
    let (log, found) := Consumer.discover (Consumer.ofGroup s.consumerGroup entries)
    modify fun session => { session with scene := log.foldl Handoff.Scene.record session.scene }
    ofExcept .consumers found

-- The consumer that is asked for: the named one, or the one of the settings if the name is missing
-- or empty.
def requested (s : Settings) (name : Option Text) : Option Text :=
  match name with
  | none | some [] => s.consumer
  | some n => some n

def choose (s : Settings) (name : Option Text) (consumers : List Consumer) :
    Except Failure (Option Consumer) :=
  (Consumer.select consumers (requested s name)).mapError fun
    | .unknown n => .refused (.noConsumer n s.consumerGroup)
    | f => .consumers f

-- Registers the payload at `path` in an exchange of its own. `call` is how a hook is called with a parcel.
def registerBy (call : Hook → Parcel → Handoff.Operation Unit) (s : Settings) (path : Path)
    (consumers : Consumers) (name : Option Text) : Command Outcome := do
  let c ← catalogAt s path
  let available ← consumers.load s
  let chosen ← ofExcept id (choose s name available)
  let outcome ← handoff do
    let number ← Handoff.newExchange (chosen.map fun consumer => .hook consumer.hook)
    Handoff.registerBy call number c
  let (severity, message) := Report.registration outcome c (chosen.map Consumer.name) s.consumerGroup
  report (look s) severity message
  return outcome

-- A hook that is called acts on the exchange that producers mean by default.
def register : Settings → Path → Consumers → Option Text → Command Outcome :=
  registerBy (Handoff.call Handoff.defaultName)

end Command
end TraitCatalog

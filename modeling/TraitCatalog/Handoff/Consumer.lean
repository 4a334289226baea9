import TraitCatalog.Handoff.Exchange
import TraitCatalog.Log

namespace TraitCatalog

structure Consumer where
  name : Text
  hook : Hook
  deriving DecidableEq, Repr

namespace Consumer

-- What comes of loading an entry point.
inductive Loaded
  | hook (h : Hook)
  -- Something that cannot be called, as messages show it.
  | value (display : Text)
  -- It cannot be imported, for a reason.
  | unusable (reason : Text)
  -- Loading breaks the discovery off.
  | crash (message : Text)
  deriving DecidableEq, Repr

structure EntryPoint where
  name : Text
  group : Text
  loaded : Loaded
  deriving DecidableEq, Repr

inductive Failure
  | crashed (message : Text)
  | unknown (name : Text)
  deriving DecidableEq, Repr

def Failure.message : Failure → Text
  | crashed message => message
  | unknown name => name

def defaultGroup : Text :=
  "doc_implementors.consumers"

def skipped (name reason : Text) : LogRecord :=
  ⟨.warning, .consumers, "skipping consumer '" ++ name ++ "'" ++ reason⟩

-- The consumers of the entry points in their order, and the warnings on the way.
def loadAll : List EntryPoint → List LogRecord × Except Failure (List Consumer)
  | [] => ([], .ok [])
  | e :: entries =>
    match e.loaded with
    | .crash message => ([], .error (.crashed message))
    | .hook h =>
      let (log, found) := loadAll entries
      (log, found.map (⟨e.name, h⟩ :: ·))
    | .unusable reason =>
      let (log, found) := loadAll entries
      (skipped e.name (": " ++ reason) :: log, found)
    | .value display =>
      let (log, found) := loadAll entries
      (skipped e.name (": " ++ display ++ " is not callable") :: log, found)

-- The usable consumers by name; those of equal names keep their order.
def discover (entries : List EntryPoint) : List LogRecord × Except Failure (List Consumer) :=
  loadAll (entries.mergeSort fun a b => a.name.le b.name)

def ofGroup (group : Text) (entries : List EntryPoint) : List EntryPoint :=
  entries.filter (·.group = group)

-- The consumer of a name, or the first one if no name is asked for.
def select (consumers : List Consumer) (name : Option Text) : Except Failure (Option Consumer) :=
  match name with
  | none => .ok consumers.head?
  | some n =>
    match consumers.find? (·.name = n) with
    | some c => .ok (some c)
    | none => .error (.unknown n)

end Consumer
end TraitCatalog

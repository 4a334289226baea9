import TraitCatalog.Handoff.Consumer
import TraitCatalog.Handoff.Scene
import TraitCatalog.Report.Line
import TraitCatalog.Settings.Project

namespace TraitCatalog
namespace Command

-- Why a command cannot do its work, as the user is told.
inductive Refusal
  | settings (e : Settings.ProjectError)
  | payloadNotFound (path : Path)
  | rejected (e : LoadError)
  | noLibrary (library : Text) (path : Path)
  | noConsumer (name group : Text)

def Refusal.message : Refusal → Text
  | settings e => e.message
  | payloadNotFound path => "payload not found: " ++ path.text
  | rejected e => e.message
  | noLibrary library path => "library '" ++ library ++ "' not found in " ++ path.text
  | noConsumer name group => "consumer '" ++ name ++ "' is not registered under '" ++ group ++ "'"

-- Every failure but a refusal breaks the program off.
inductive Failure
  | refused (r : Refusal)
  | load (e : LoadError)
  | settings (e : Settings.ProjectError)
  | reference (e : Markup.ReferenceError)
  | encode (e : EncodeError)
  | file (path : Path) (fault : FileFault)
  | handoff (t : Handoff.Trouble)
  | consumers (f : Consumer.Failure)

def Failure.message : Failure → Text
  | refused r => r.message
  | load e => e.message
  | settings e => e.message
  | reference e => e.message
  | encode e => e.message
  | file path fault => path.text ++ ": " ++ fault.message
  | handoff t => t.message
  | consumers f => f.message

-- The implementors of a library in columns.
structure Table where
  title : Text
  rows : List (List Text)
  deriving DecidableEq, Repr

inductive Printed
  | line (t : Text)
  | table (t : Table)
  deriving DecidableEq, Repr

namespace Printed

def texts : Printed → List Text
  | line t => [t]
  | table t => t.title :: t.rows.flatten

-- The lines as they are put out. How a table is drawn is left to the output.
def shown (ps : List Printed) : Text :=
  ps.flatMap fun
    | line t => t ++ "\n"
    | table _ => []

end Printed

-- Where output goes to.
structure Output where
  -- What the output says of itself, if it says anything.
  terminal : Option Bool
  -- Only text with a UTF-8 form can be put out.
  encoded : Bool
  deriving DecidableEq, Repr

structure Session where
  tree : FileTree
  output : Output
  printed : List Printed
  scene : Handoff.Scene

-- A session over the given files in which nothing has happened yet.
def Session.initial (tree : FileTree) (output : Output) (conducts : Keyed Handoff.Conduct) :
    Session where
  tree := tree
  output := output
  printed := []
  scene := .initial conducts

end Command

-- Commands change the session and may fail; what they changed before a failure stays.
abbrev Command := ExceptT Command.Failure (StateM Command.Session)

namespace Command

def run (command : Command α) (s : Session) : Except Failure α × Session :=
  ExceptT.run command |>.run s

def ofExcept (f : ε → Failure) : Except ε α → Command α
  | .ok a => return a
  | .error e => throw (f e)

def print (p : Printed) : Command Unit := do
  let s ← get
  if s.output.encoded && p.texts.any (·.utf8?.isNone) then
    throw (.encode .loneSurrogate)
  set { s with printed := s.printed ++ [p] }

def look (s : Settings) : Report.Look :=
  ⟨s.emoji, some s.color⟩

def report (l : Report.Look) (severity : Severity) (message : Text) : Command Unit := do
  print (.line (Report.line l (← get).output.terminal severity message))

def handoff (operation : Handoff.Operation α) : Command α := do
  let s ← get
  let (answer, scene) := Handoff.run operation s.scene
  set { s with scene := scene }
  ofExcept .handoff answer

-- What a failure to load means: the user is told of what is wrong with a payload or missing, while
-- a file that cannot be read, text beyond the limits, or a schema that does not work breaks off.
def loadFailure (path : Path) (e : LoadError) : Failure :=
  match e with
  | .file _ .missing => .refused (.payloadNotFound path)
  | .file _ _ => .load e
  | .script _ (.beyond _) => .load e
  | .document _ (.beyond _) => .load e
  | .schema _ (.beyond _) => .load e
  | .unusable _ => .load e
  | e => .refused (.rejected e)

def loader (s : Settings) : Loader :=
  .new s.schemaRoot s.validatesSchema

def loadCatalog (s : Settings) (tree : FileTree) (path : Path) : Except Failure Catalog :=
  ((loader s).loadCatalog tree path none).mapError (loadFailure path)

def catalogAt (s : Settings) (path : Path) : Command Catalog := do
  ofExcept id (loadCatalog s (← get).tree path)

end Command
end TraitCatalog

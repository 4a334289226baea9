import TraitCatalog.Command.Conversion
import TraitCatalog.Command.Delivery
import TraitCatalog.Command.Survey
import TraitCatalog.Command.Tables
import TraitCatalog.CommandLine.Request

namespace TraitCatalog
namespace CommandLine

open Command (Failure Session)

-- What the options set in place of the settings of the project.
def Common.overrides (c : Common) : Keyed Settings.Value :=
  let off (set : Bool) (f : Settings.Field) : Keyed Settings.Value :=
    if set then [(f.name, .bool false)] else []
  (Settings.Field.trait.name, c.trait.elim .null .string) ::
    off c.noEmoji .emoji ++ off c.noColor .color ++ off c.noSchema .validatesSchema

-- How lines look while there are no settings.
def Common.look (c : Common) : Report.Look :=
  ⟨!c.noEmoji, some (!c.noColor)⟩

inductive Ending
  | exit (status : Nat)
  | help
  | misused (e : UsageError)
  -- The settings are not usable; why has been told.
  | badSettings (e : Settings.ProjectError)
  -- Broken off by a failure that nothing handles.
  | broken (f : Failure)

namespace Ending

-- 2 if the command line cannot be understood or a consumer that is required is missing, and 1 if a command
-- refuses or breaks off.
def status : Ending → Nat
  | exit status => status
  | help => 0
  | misused _ => 2
  | badSettings _ | broken _ => 1

def ofStop : Stop → Ending
  | .help => help
  | .usage e => misused e

end Ending

-- The settings, or the error that is told to the user.
def settings (c : Common) : Command (Except Settings.ProjectError Settings) := do
  match Settings.load (← get).tree c.root c.overrides with
  | .ok s => return .ok s
  | .error e =>
    match e with
    | .invalid _ | .unreadable _ | .sectionNotTable _ =>
      Command.report c.look .fail e.message
      return .error e
    | .toolNotTable | .beyond _ | .file .. => throw (.settings e)

-- Where a payload is written to, if to a file at all.
def destination (s : Settings) (format : Format) (output : Option Path) (default : Bool) :
    Option Path :=
  output <|> if default then some (Command.defaultLocation s format) else none

def perform (s : Settings) (entries : List Consumer.EntryPoint) : Task → Command Nat
  | .inspect path library => do
    Command.inspect s path library
    return 0
  | .validate paths => do
    let good ← Command.validate { s with validatesSchema := true } paths
    return if good then 0 else 1
  | .render path format output default => do
    let output := destination s format output default
    let t ← Command.render s path format output
    match output with
    | none => Command.print (.line t)
    | some output =>
      Command.report (Command.look s) .ok
        ("wrote " ++ format.name ++ " payload to " ++ output.text)
    return 0
  | .register path consumer required => do
    let outcome ← Command.register s path (.installed entries) consumer
    return if required && outcome = .pending then 2 else 0

-- Carries out a task; why it is refused is told in a line.
def performReported (s : Settings) (entries : List Consumer.EntryPoint) (task : Task) :
    Command Nat := do
  tryCatch (perform s entries task) fun
    | .refused r => do
      Command.report (Command.look s) .fail r.message
      return 1
    | f => throw f

-- Runs a command line. The arguments of the command are looked at only once the settings are there.
def endingOf (entries : List Consumer.EntryPoint) (arguments : List Text) : Command Ending := do
  match Request.read arguments with
  | .error stop => return .ofStop stop
  | .ok request =>
    match ← settings request.common with
    | .error e => return .badSettings e
    | .ok s =>
      match Task.read request.command request.arguments with
      | .error stop => return .ofStop stop
      | .ok task => return .exit (← performReported s entries task)

-- The log records that are shown: all of them if the command line asks for it.
def shownLog (arguments : List Text) (log : List LogRecord) : List LogRecord :=
  let verbose := match Request.read arguments with
    | .ok request => request.common.verbose
    | .error _ => false
  log.filter fun r => verbose || r.level = .warning

def run (entries : List Consumer.EntryPoint) (arguments : List Text) (s : Session) :
    Ending × Session :=
  match Command.run (endingOf entries arguments) s with
  | (.ok ending, s) => (ending, s)
  | (.error f, s) => (.broken f, s)

-- The paths that a command line looks at, as far as the files in `tree` tell: those of the project,
-- of the schema, of payloads, and of the file to be written.
def paths (tree : FileTree) (arguments : List Text) : List Path :=
  match Request.read arguments with
  | .error _ => []
  | .ok request =>
    let root := request.common.root
    let project := root.child Settings.projectFile
    let settings := (Settings.load tree root request.common.overrides).toOption
    let schema := (settings.bind Settings.schemaRoot).map (·.child Schema.fileName)
    let task := (Task.read request.command request.arguments).toOption
    project :: schema.toList ++ (task.map Task.payloads).getD [] ++
      match settings, task with
      | some s, some (.render _ format output default) => (destination s format output default).toList
      | _, _ => []

end CommandLine
end TraitCatalog

import TraitCatalog.CommandLine.Options
import TraitCatalog.Files.Tree
import TraitCatalog.Payload.Format

namespace TraitCatalog
namespace CommandLine

-- The command line asks for help, or cannot be understood.
inductive Stop
  | help
  | usage (e : UsageError)
  deriving DecidableEq, Repr

-- The path that an argument names. A path that is merely too long counts as one that may be missing.
def readPath (t : Text) : Except Stop Path :=
  let path := Path.ofText t
  match path.fault? with
  | none | some .tooLong => .ok path
  | some _ => .error (.usage .unusablePath)

inductive CommonKey
  | root
  | trait
  | noEmoji
  | noColor
  | noSchema
  | verbose
  | help
  deriving DecidableEq, Repr

-- The options in front of the name of the command.
def commonOptions : List (OptionSpec CommonKey) :=
  [⟨["--root"], true, .root⟩, ⟨["--trait"], true, .trait⟩, ⟨["--no-emoji"], false, .noEmoji⟩,
   ⟨["--no-color"], false, .noColor⟩, ⟨["--no-schema"], false, .noSchema⟩,
   ⟨["--verbose", "-v"], false, .verbose⟩, ⟨["--help"], false, .help⟩]

inductive CommandName
  | inspect
  | validate
  | render
  | register
  deriving DecidableEq, Repr

namespace CommandName

def text : CommandName → Text
  | inspect => "inspect"
  | validate => "validate"
  | render => "render"
  | register => "register"

def all : List CommandName :=
  [inspect, validate, render, register]

def ofText? (t : Text) : Option CommandName :=
  all.find? (·.text = t)

end CommandName

structure Common where
  root : Path
  trait : Option Text
  noEmoji : Bool
  noColor : Bool
  noSchema : Bool
  verbose : Bool
  deriving DecidableEq, Repr

-- A command line up to the arguments of its command.
structure Request where
  common : Common
  command : CommandName
  arguments : List Text
  deriving DecidableEq, Repr

namespace Common

def ofGiven (given : Given CommonKey) : Except Stop Common := do
  let root ← readPath ((given.value? .root).getD [])
  return {
    root
    trait := given.value? .trait
    noEmoji := given.has .noEmoji
    noColor := given.has .noColor
    noSchema := given.has .noSchema
    verbose := given.has .verbose }

end Common

namespace Request

def read (arguments : List Text) : Except Stop Request := do
  let (given, rest) ← (scan commonOptions false arguments).mapError .usage
  if given.has .help then
    throw .help
  match rest with
  | [] => throw (.usage .missingCommand)
  | name :: arguments =>
    match CommandName.ofText? name with
    | none => throw (.usage .unknownCommand)
    | some command => return ⟨← Common.ofGiven given, command, arguments⟩

end Request

inductive CommandKey
  | library
  | format
  | output
  | defaultLocation
  | consumer
  | requireConsumer
  | help
  deriving DecidableEq, Repr

def help : OptionSpec CommandKey :=
  ⟨["--help"], false, .help⟩

-- The options behind the name of a command.
def CommandName.options : CommandName → List (OptionSpec CommandKey)
  | inspect => [⟨["--library", "-l"], true, .library⟩, help]
  | validate => [help]
  | render =>
    [⟨["--format", "-f"], true, .format⟩, ⟨["--output", "-o"], true, .output⟩,
     ⟨["--default-location"], false, .defaultLocation⟩, help]
  | register =>
    [⟨["--consumer", "-c"], true, .consumer⟩, ⟨["--require-consumer"], false, .requireConsumer⟩, help]

-- How a command line is put together, line by line.
def usage : List Text :=
  let heading : Text := "usage: doc-implementors [OPTION]... COMMAND [OPTION]... PATH..."
  let common := commonOptions.map OptionSpec.usage
  let commands := CommandName.all.map fun command =>
    command.text ++ ": " ++ Text.join "; " (command.options.map OptionSpec.usage)
  heading :: common ++ commands

inductive Task
  | inspect (path : Path) (library : Option Text)
  | validate (paths : List Path)
  | render (path : Path) (format : Format) (output : Option Path) (defaultLocation : Bool)
  | register (path : Path) (consumer : Option Text) (required : Bool)
  deriving DecidableEq, Repr

namespace Task

-- The payloads that the command looks at.
def payloads : Task → List Path
  | inspect path _ => [path]
  | validate paths => paths
  | render path .. => [path]
  | register path .. => [path]

-- The format of a name, in upper or lower case. A long s counts as an s.
def format? (t : Text) : Option Format :=
  let folded := t.lower.map fun c => if c.is 'ſ' then 's' else c
  [Format.json, Format.script].find? (·.name = folded)

def single : List Text → Except Stop Path
  | [] => .error (.usage .missingArgument)
  | [t] => readPath t
  | _ => .error (.usage .surplusArgument)

def read (command : CommandName) (arguments : List Text) : Except Stop Task := do
  let (given, others) ← (scan command.options true arguments).mapError .usage
  if given.has .help then
    throw .help
  match command with
  | .inspect => return .inspect (← single others) (given.value? .library)
  | .validate =>
    if others.isEmpty then
      throw (.usage .missingArgument)
    return .validate (← others.mapM readPath)
  | .render =>
    let path ← single others
    let format ← match given.value? .format with
      | none => pure Format.script
      | some t => match format? t with
        | some f => pure f
        | none => throw (.usage .unknownChoice)
    let output ← (given.value? .output).mapM readPath
    return .render path format output (given.has .defaultLocation)
  | .register =>
    return .register (← single others) (given.value? .consumer) (given.has .requireConsumer)

end Task
end CommandLine
end TraitCatalog

import TraitCatalog.Text.Basic

namespace TraitCatalog
namespace CommandLine

inductive UsageError
  | unknownOption
  | missingValue
  | surplusValue
  | missingCommand
  | unknownCommand
  | missingArgument
  | surplusArgument
  | unknownChoice
  | unusablePath
  deriving DecidableEq, Repr

def UsageError.message : UsageError → Text
  | unknownOption => "unknown option"
  | missingValue => "an option needs a value"
  | surplusValue => "an option takes no value"
  | missingCommand => "missing command"
  | unknownCommand => "unknown command"
  | missingArgument => "missing argument"
  | surplusArgument => "too many arguments"
  | unknownChoice => "unknown choice for an option"
  | unusablePath => "not a path"

-- An option with all its names, dashes included. `key` is what it is known by.
structure OptionSpec (κ : Type) where
  names : List Text
  takesValue : Bool
  key : κ

variable {κ : Type}

-- The options that were given, in order, each with its value if it takes one.
abbrev Given (κ : Type) := List (κ × Option Text)

namespace Given

variable [DecidableEq κ]

def has (given : Given κ) (key : κ) : Bool :=
  given.any (·.fst = key)

-- The value that was given last.
def value? (given : Given κ) (key : κ) : Option Text :=
  (given.reverse.find? (·.fst = key)).bind Prod.snd

end Given

-- The names of an option, with a mark for its value.
def OptionSpec.usage (o : OptionSpec κ) : Text :=
  Text.join ", " o.names ++ (if o.takesValue then " VALUE" else "")

def find? (options : List (OptionSpec κ)) (name : Text) : Option (OptionSpec κ) :=
  options.find? (·.names.contains name)

-- The name and the value of an argument with a `=` in it.
def splitEquals (t : Text) : Text × Option Text :=
  let name := t.takeWhile fun c => !c.is '='
  (name, (t.drop name.length).tail?)

-- What an argument asks for: options that are complete, and perhaps one that needs the next
-- argument for its value.
structure Demand (κ : Type) where
  complete : Given κ
  waiting : Option κ

-- Short options behind one dash. One that takes a value takes the rest of the argument.
def shortOptions (options : List (OptionSpec κ)) : Text → Except UsageError (Demand κ)
  | [] => .ok ⟨[], none⟩
  | c :: rest => do
    match find? options ("-" ++ [c]) with
    | none => throw .unknownOption
    | some o =>
      if !o.takesValue then
        let d ← shortOptions options rest
        return ⟨(o.key, none) :: d.complete, d.waiting⟩
      else if rest.isEmpty then return ⟨[], some o.key⟩
      else return ⟨[(o.key, some rest)], none⟩

-- What an argument with a dash in front asks for.
def demand (options : List (OptionSpec κ)) (argument : Text) : Except UsageError (Demand κ) :=
  let (name, value) := splitEquals argument
  match Text.after? "--" argument, find? options name, value with
  | some _, none, _ => .error .unknownOption
  | some _, some o, none => .ok (if o.takesValue then ⟨[], some o.key⟩ else ⟨[(o.key, none)], none⟩)
  | some _, some o, some v =>
    if o.takesValue then .ok ⟨[(o.key, some v)], none⟩ else .error .surplusValue
  | none, _, _ => shortOptions options argument.tail

-- The options and the other arguments. Unless they may be mixed, the options end at the first other
-- argument. `--` ends them too, and a single dash is no option.
def scan (options : List (OptionSpec κ)) (mixed : Bool) :
    List Text → Except UsageError (Given κ × List Text)
  | [] => .ok ([], [])
  | argument :: rest => do
    if argument = Text.ofString "--" then
      return ([], rest)
    if argument.head?.any (·.is '-') && argument.length ≠ 1 then
      let d ← demand options argument
      match d.waiting, rest with
      | none, rest =>
        let (given, others) ← scan options mixed rest
        return (d.complete ++ given, others)
      | some _, [] => throw .missingValue
      | some key, value :: rest =>
        let (given, others) ← scan options mixed rest
        return (d.complete ++ (key, some value) :: given, others)
    else if mixed then
      let (given, others) ← scan options mixed rest
      return (given, argument :: others)
    else
      return ([], argument :: rest)

end CommandLine
end TraitCatalog

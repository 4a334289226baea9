import TraitCatalog.Files.Path
import TraitCatalog.Handoff.Consumer
import TraitCatalog.Json.Basic
import TraitCatalog.Text.Blank
import TraitCatalog.Text.Utf8
import TraitCatalog.Toml.Basic

namespace TraitCatalog

structure Settings where
  -- The full path of the trait.
  trait : Text
  consumerGroup : Text
  consumer : Option Text
  validatesSchema : Bool
  schemaRoot : Option Path
  emoji : Bool
  color : Bool
  payloadDir : Path
  deriving DecidableEq, Repr

namespace Settings

def standard : Settings where
  trait := "core::iter::traits::iterator::Iterator"
  consumerGroup := Consumer.defaultGroup
  consumer := none
  validatesSchema := true
  schemaRoot := none
  emoji := true
  color := true
  payloadDir := .ofText "implementors"

def traitName (s : Settings) : Text :=
  s.trait.afterLastSeparator

-- Where the payload script of the trait lies: in a directory for each module of its path.
def payloadPath (s : Settings) : Path :=
  let segments := s.trait.segments
  let dir := segments.dropLast.foldl Path.child s.payloadDir
  dir.child ("trait." ++ segments.getLastD [] ++ ".js")

-- A value that a field is to be set to.
inductive Value
  | null
  | bool (b : Bool)
  | int (n : Int)
  | float (x : Double)
  | string (t : Text)
  -- Objects and tables, which no field takes.
  | table
  -- Arrays, dates and times, which no field takes either.
  | other
  deriving DecidableEq, Repr

namespace Value

def ofJson : Json → Value
  | .null => null
  | .bool b => bool b
  | .int n => int n
  | .float x => float x
  | .string t => string t
  | .array _ => other
  | .object _ => table

def ofToml : Toml → Value
  | .bool b => bool b
  | .int n => int n
  | .float x => float x
  | .string t => string t
  | .moment _ | .array _ => other
  | .table _ => table

end Value

inductive Problem
  | notString
  | blank
  | notBoolean
  -- A string or a small number that means neither yes nor no.
  | unclearBoolean
  -- Text without a UTF-8 form.
  | loneSurrogate
  | notPath
  | unknownField
  -- No field of this name can be set.
  | noSuchField (name : Text)
  deriving DecidableEq, Repr

def Problem.message : Problem → Text
  | notString => "Input should be a valid string"
  | blank => "Value error, must not be empty"
  | notBoolean => "Input should be a valid boolean"
  | unclearBoolean => "Input should be a valid boolean, unable to interpret input"
  | loneSurrogate => "Input should be a valid string, unable to parse raw data as a unicode string"
  | notPath => "Input is not a valid path for <class 'pathlib.Path'>"
  | unknownField => "Extra inputs are not permitted"
  | noSuchField name => "Object has no attribute '" ++ name ++ "'"

namespace Value

def toText : Value → Except Problem Text
  | string t => .ok t
  | _ => .error .notString

-- A text that is not only blanks.
def toName (v : Value) : Except Problem Text := do
  let t ← v.toText
  if t.isBlank then throw .blank else return t

def trueWords : List Text := ["1", "true", "t", "yes", "y", "on"]

def falseWords : List Text := ["0", "false", "f", "no", "n", "off"]

-- Whole numbers of more than 64 bits are no small numbers.
def isSmall (n : Int) : Bool :=
  -0x8000000000000000 ≤ n && n ≤ 0x7FFFFFFFFFFFFFFF

-- A number that means neither yes nor no.
def unclear (small : Bool) : Problem :=
  if small then .unclearBoolean else .notBoolean

def toBool : Value → Except Problem Bool
  | bool b => .ok b
  | int n =>
    if n = 0 then .ok false
    else if n = 1 then .ok true
    else .error (unclear (isSmall n))
  | float x =>
    if x.isZero then .ok false
    else if x = Double.one then .ok true
    -- Of the least and the greatest number, a float cannot tell whether it is still small.
    else .error (unclear (x.whole?.any fun n => isSmall (n - 1) && isSmall (n + 1)))
  | string t =>
    if t.utf8?.isNone then .error .loneSurrogate
    else if trueWords.contains t.lower then .ok true
    else if falseWords.contains t.lower then .ok false
    else .error .unclearBoolean
  | null | table | other => .error .notBoolean

def toPath : Value → Except Problem Path
  | string t => .ok (.ofText t)
  | _ => .error .notPath

-- `null` means that there is no value.
def optional (read : Value → Except Problem α) : Value → Except Problem (Option α)
  | null => .ok none
  | v => (read v).map some

end Value

inductive Field
  | trait
  | consumerGroup
  | consumer
  | validatesSchema
  | schemaRoot
  | emoji
  | color
  | payloadDir
  deriving DecidableEq, Repr

namespace Field

def all : List Field :=
  [trait, consumerGroup, consumer, validatesSchema, schemaRoot, emoji, color, payloadDir]

def name : Field → Text
  | trait => "trait"
  | consumerGroup => "consumer_group"
  | consumer => "consumer"
  | validatesSchema => "validate_schema"
  | schemaRoot => "schema_root"
  | emoji => "emoji"
  | color => "color"
  | payloadDir => "payload_dir"

def ofName? (t : Text) : Option Field :=
  all.find? (·.name = t)

theorem mem_all (f : Field) : f ∈ all := by
  cases f <;> decide

end Field

-- The settings with another value of one field.
def set (s : Settings) (f : Field) (v : Value) : Except Problem Settings := do
  match f with
  | .trait => return { s with trait := ← v.toName }
  | .consumerGroup => return { s with consumerGroup := ← v.toName }
  | .consumer => return { s with consumer := ← v.optional Value.toText }
  | .validatesSchema => return { s with validatesSchema := ← v.toBool }
  | .schemaRoot => return { s with schemaRoot := ← v.optional Value.toPath }
  | .emoji => return { s with emoji := ← v.toBool }
  | .color => return { s with color := ← v.toBool }
  | .payloadDir => return { s with payloadDir := ← v.toPath }

-- What is wrong, and under which name; none if the names themselves cannot be read.
structure Issue where
  name : Option Text
  problem : Problem
  deriving DecidableEq, Repr

-- Why no value could be set under a name.
inductive SetError
  | refused (i : Issue)
  -- The name stands for what follows from the settings.
  | readOnly
  -- The name stands for what the settings are made of.
  | wrongKind
  -- The name has no UTF-8 form.
  | loneSurrogate
  deriving DecidableEq, Repr

-- Names that begin with an underscore are no names of settings; values may be left under them.
def isPrivate (name : Text) : Bool :=
  name.head?.any (·.is '_')

-- Sets a field to the value that is given for it, if there is one; a refused value is an issue.
def take (given : Keyed Value) (s : Settings) (f : Field) : Settings × List Issue :=
  match (given.get? f.name).map (s.set f) with
  | none => (s, [])
  | some (.ok s) => (s, [])
  | some (.error p) => (s, [⟨f.name, p⟩])

-- Takes the values for a list of fields, one after the other.
def takeAll (given : Keyed Value) (s : Settings) : List Field → Settings × List Issue
  | [] => (s, [])
  | f :: fields =>
    let (s, issues) := s.take given f
    let (s, more) := takeAll given s fields
    (s, issues ++ more)

-- The standard settings with the given values, or all that is wrong with those: first the refused
-- values in the order of the fields, then the unknown names in their own order. Nothing else is said
-- if a name has no UTF-8 form. What a field takes a value for is told by the readers of values above, and all that is
-- said of settings rests on them.
def ofValues (given : Keyed Value) : Except (List Issue) Settings :=
  let (s, refused) := standard.takeAll given Field.all
  let unknown := given.keys.filter fun name => (Field.ofName? name).isNone
  if given.keys.any (·.utf8?.isNone) then
    .error [⟨none, .loneSurrogate⟩]
  else
    match refused ++ unknown.map fun name => ⟨name, .unknownField⟩ with
    | [] => .ok s
    | issues => .error issues

-- Settings into which values are put by name, one after the other. Nothing can be read from them any
-- more once all that they hold has been taken away at once.
inductive Draft
  | whole (s : Settings)
  | emptied

namespace Draft

def setField (d : Draft) (f : Field) (v : Value) : Except Problem Draft :=
  match d with
  | whole s => (s.set f v).map whole
  | emptied => (standard.set f v).map fun _ => emptied

def setNamed (d : Draft) (name : Text) (v : Value) : Except SetError Draft :=
  match Field.ofName? name with
  | some f => (d.setField f v).mapError fun p => .refused ⟨name, p⟩
  | none =>
    if readOnlyNames.contains name then .error .readOnly
    else if name = "__class__" then .error .wrongKind
    else if name = "__dict__" then
      if v = .table then .ok emptied else .error .wrongKind
    else if isPrivate name then .ok d
    else if name.utf8?.isNone then .error .loneSurrogate
    else .error (.refused ⟨name, .noSuchField name⟩)
where
  readOnlyNames : List Text :=
    ["trait_name", "model_extra", "model_fields_set", "__fields__", "__fields_set__", "__weakref__"]

end Draft
end Settings
end TraitCatalog

import TraitCatalog.Json.Number
import TraitCatalog.Schema.Dialect

namespace TraitCatalog

-- The kinds of JSON values. An integer is a number as well.
inductive Kind
  | null
  | boolean
  | integer
  | number
  | string
  | array
  | object
  deriving DecidableEq, Repr

namespace Kind

def name : Kind → Text
  | null => "null"
  | boolean => "boolean"
  | integer => "integer"
  | number => "number"
  | string => "string"
  | array => "array"
  | object => "object"

def all : List Kind :=
  [null, boolean, integer, number, string, array, object]

def ofName? (t : Text) : Option Kind :=
  all.find? fun k => k.name = t

-- Numbers with a fraction of nothing are integers from the draft 6 on.
def holds (d : Dialect) : Kind → Json → Bool
  | null, .null => true
  | boolean, .bool _ => true
  | integer, .int _ => true
  | integer, .float x => d.isFrom .draft6 && x.isWhole
  | number, .int _ => true
  | number, .float _ => true
  | string, .string _ => true
  | array, .array _ => true
  | object, .object _ => true
  | _, _ => false

end Kind

-- What of a value is counted.
inductive Measure
  | items
  | length
  | properties
  deriving DecidableEq, Repr

namespace Measure

def count? : Measure → Json → Option Nat
  | items, .array vs => some vs.length
  | length, .string t => some t.length
  | properties, .object fields => some fields.length
  | _, _ => none

def kind : Measure → Kind
  | items => .array
  | length => .string
  | properties => .object

end Measure

-- How a number has to lie to a limit.
inductive Comparison
  | atLeast
  | atMost
  | above
  | below
  deriving DecidableEq, Repr

namespace Comparison

-- Whether `m` lies on the wrong side of the limit `n`.
def isBroken : Comparison → (m n : Number) → Bool
  | atLeast, m, n => m.less n
  | atMost, m, n => n.less m
  | above, m, n => m.less n || m.same n
  | below, m, n => n.less m || m.same n

def words : Comparison → Text
  | atLeast => "less than the minimum of"
  | atMost => "greater than the maximum of"
  | above => "less than or equal to the minimum of"
  | below => "greater than or equal to the maximum of"

end Comparison

-- What a reference leads to that is not there.
inductive Missing
  | document
  | place
  | name
  -- Something that cannot be a name.
  | improperName
  deriving DecidableEq, Repr

-- Why a schema has no answer for a value.
inductive SchemaFault
  | unknownKind
  -- A keyword has a value of a kind that makes no sense for it.
  | wrongKind
  | notSchema
  | malformedPattern
  | contradictoryPattern
  -- A number is too large to be used.
  | tooLarge
  | divisionByZero
  -- Something has to be a whole number and is none.
  | notWhole
  | malformedAddress
  -- A value cannot be checked against what is referred to.
  | unresolved
  -- It is not known what is evaluated by what is referred to.
  | dangling (m : Missing)
  -- A name is sought under an address that is not known.
  | unknownAddress
  -- The value and what the schema refers to are nested too deep.
  | tooDeep
  deriving DecidableEq, Repr

def SchemaFault.message : SchemaFault → Text
  | unknownKind => "the schema names an unknown type"
  | wrongKind => "the schema has a keyword with a value of another type"
  | notSchema => "the schema has something else in place of a schema"
  | malformedPattern => "the schema has a malformed pattern"
  | contradictoryPattern => "the schema has a pattern that contradicts itself"
  | tooLarge => "a number is too large for the schema"
  | divisionByZero => "the schema asks for a multiple of nothing"
  | notWhole => "something is no whole number"
  | malformedAddress => "the schema has a malformed address"
  | unresolved | dangling _ => "the schema refers to what is not there"
  | unknownAddress => "the schema has an address that is not known"
  | tooDeep => "nested too deep for the schema"

end TraitCatalog

import TraitCatalog.Double.Basic
import TraitCatalog.Keyed
import TraitCatalog.Limit

namespace TraitCatalog

inductive Toml
  | bool (value : Bool)
  | int (value : Int)
  | float (value : Double)
  | string (value : Text)
  -- A date, a time, or both, as it was written.
  | moment (written : Text)
  | array (items : List Toml)
  | table (fields : List (Text × Toml))

namespace Toml

inductive Fault
  | malformed
  | beyond (l : Limit)
  deriving DecidableEq, Repr

-- How a table came to be: on the way to a table that a header names, by a dotted key, or by a
-- header of its own.
inductive Origin
  | implied
  | dotted
  | header
  deriving DecidableEq, Repr

-- What stands under a key while a document is read.
inductive Entry
  | value (v : Toml)
  | table (origin : Origin) (fields : List (Text × Entry))
  -- The tables of an array, the last one first.
  | tables (items : List (List (Text × Entry)))

abbrev Entries := Keyed Entry

namespace Entries

-- Changes the table at the end of a path. Missing tables on the way are made, and of an array of
-- tables the last one is meant.
def within (entries : Entries) (path : List Text) (f : Entries → Except Fault Entries) :
    Except Fault Entries :=
  match path with
  | [] => f entries
  | key :: path => do
    match entries.get? key with
    | none => return entries.put key (.table .implied (← within [] path f))
    | some (.table origin fields) => return entries.put key (.table origin (← within fields path f))
    | some (.tables (last :: before)) =>
      return entries.put key (.tables ((← within last path f) :: before))
    | some _ => throw .malformed

-- The table of a header `[path.key]`. It may have been implied before, but nothing else.
def openTable (entries : Entries) (path : List Text) (key : Text) : Except Fault Entries :=
  entries.within path fun fields =>
    match fields.get? key with
    | none => .ok (fields.put key (.table .header []))
    | some (.table .implied inner) => .ok (fields.put key (.table .header inner))
    | some _ => .error .malformed

-- One table more for the array of a header `[[path.key]]`.
def appendTable (entries : Entries) (path : List Text) (key : Text) : Except Fault Entries :=
  entries.within path fun fields =>
    match fields.get? key with
    | none => .ok (fields.put key (.tables [[]]))
    | some (.tables items) => .ok (fields.put key (.tables ([] :: items)))
    | some _ => .error .malformed

-- Sets `path.key`. A dotted key goes through no table that has a header of its own, and no key is
-- set twice.
def set (entries : Entries) (path : List Text) (key : Text) (v : Toml) : Except Fault Entries :=
  match path with
  | [] => if entries.contains key then .error .malformed else .ok (entries.put key (.value v))
  | outer :: path => do
    match entries.get? outer with
    | none => return entries.put outer (.table .dotted (← set [] path key v))
    | some (.table .header _) => throw .malformed
    | some (.table _ fields) => return entries.put outer (.table .dotted (← set fields path key v))
    | some _ => throw .malformed

end Entries

mutual

-- The value of an entry, once nothing is added any more.
def Entry.toToml : Entry → Toml
  | .value v => v
  | .table _ fields => .table (fieldsToToml fields)
  | .tables items => .array (tablesToToml items).reverse

def fieldsToToml : List (Text × Entry) → List (Text × Toml)
  | [] => []
  | (key, e) :: fields => (key, e.toToml) :: fieldsToToml fields

def tablesToToml : List (List (Text × Entry)) → List Toml
  | [] => []
  | fields :: items => .table (fieldsToToml fields) :: tablesToToml items

end

end Toml
end TraitCatalog

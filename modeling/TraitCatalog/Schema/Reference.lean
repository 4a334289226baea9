import TraitCatalog.Limit
import TraitCatalog.Schema.Published
import TraitCatalog.Schema.Way

namespace TraitCatalog

-- A schema in a JSON document, under the address that it gives itself.
structure Schema where
  fields : Keyed Json
  address : Text

-- What stands under an address outside of a schema and of the published ones, if anything does.
abbrev Outside := Text → Option Json

-- What is fetched is in the last dialect, unless it names another one.
def Outside.source? (outside : Outside) (address : Text) : Option Source := do
  let document ← outside address
  let dialect ← (Schema.dialectInside .draft2020 document).toOption
  return ⟨address, dialect, document⟩

namespace Schema

def ofFields (fields : Keyed Json) : Except SchemaFault Schema := do
  return ⟨fields, (← ownAddress? .draft2020 (.object fields)).getD []⟩

def document (s : Schema) : Json :=
  .object s.fields

def scope (s : Schema) : Scope :=
  ⟨s.address, [], .draft2020, [], false⟩

def source (s : Schema) : Source :=
  ⟨s.address, .draft2020, s.document⟩

def sources (s : Schema) (scope : Scope) : List Source :=
  scope.fetched ++ [s.source]

end Schema

namespace Source

def entries? (x : Source) : Except SchemaFault (List Schema.Entry) :=
  Schema.entries (Limit.mostContainers + 1) x.dialect x.address x.document

def known (x : Source) (isSearched : Bool) : Except SchemaFault (List Schema.Entry) :=
  if isSearched then x.entries? else .ok []

end Source

namespace Schema

-- The schema with an address of its own inside of a document.
def innerAt? (all : List Entry) (address : Text) : Option (Dialect × Json) :=
  (all.find? fun e => e.isOwn && e.address = address).map fun e => (e.dialect, e.schema)

-- The schema with an address, and its dialect, from sources of which all but the first have been searched.
def schemaAmong (address : Text) (isSearched : Bool) :
    List Source → Except SchemaFault (Option (Dialect × Json))
  | [] => .ok (published? address)
  | x :: older => do
    match innerAt? (← x.known isSearched) address with
    | some found => return some found
    | none =>
      if x.address = address then return some (x.dialect, x.document)
      schemaAmong address true older

-- The schema with an address, and its dialect. It may be one that only a search finds, or one that has to be
-- fetched, each time that it is asked for.
def schemaAt (s : Schema) (outside : Outside) (scope : Scope) (address : Text) :
    Except SchemaFault (Scope × Dialect × Json) := do
  if let some found ← schemaAmong address scope.isSearched (s.sources scope) then
    return (scope, found)
  if let some found ← schemaAmong address true (s.sources scope) then
    return (scope.searched, found)
  match outside.source? address with
  | some x => return (scope.fetch x, x.dialect, x.document)
  | none => throw (.dangling .document)

-- The address that the schema with an address gives itself.
def otherAddress? (s : Schema) (scope : Scope) (address : Text) :
    Except SchemaFault (Option Text) := do
  match ← schemaAmong address scope.isSearched (s.sources scope) with
  | some (d, v) => ownAddress? d v
  | none => throw .unknownAddress

-- The schema with a name under an address, and whether the name is sought in the outer schemas too.
def nameIn? (all : List Entry) (address name : Text) : Option (Json × Bool) :=
  all.findSome? fun e =>
    if e.address = address then (e.names.lookup name).map (e.schema, ·) else none

def publishedName? (address name : Text) : Except SchemaFault (Option (Json × Bool)) := do
  match published? address with
  | some (d, v) => return nameIn? (← Source.entries? ⟨address, d, v⟩) address name
  | none => return none

-- The same from sources of which all but the first have been searched.
def nameAmong (address name : Text) (isSearched : Bool) :
    List Source → Except SchemaFault (Option (Json × Bool))
  | [] => publishedName? address name
  | x :: older => do
    match nameIn? (← x.known isSearched) address name with
    | some found => return some found
    | none => nameAmong address name true older

def anchor? (s : Schema) (scope : Scope) (address name : Text) :
    Except SchemaFault (Option (Scope × Json × Bool)) := do
  if let some found ← nameAmong address name scope.isSearched (s.sources scope) then
    return some (scope, found)
  let found ← match ← nameAmong address name true (s.sources scope) with
    | some found => pure (some found)
    | none =>
      match ← s.otherAddress? scope address with
      | some other => nameAmong other name true (s.sources scope)
      | none => pure none
  return found.map (scope.searched, ·)

-- The schema that a name stands for. A dynamic name stands for the outermost schema with that name.
def named (s : Schema) (scope : Scope) (name : Text) : Except SchemaFault (Scope × Json) := do
  match ← s.anchor? scope scope.base name with
  | none => throw (.dangling (if name.any (·.is '/') then .improperName else .name))
  | some (scope, v, false) => return (scope, v)
  | some (scope, v, true) =>
    let v ← scope.outer.foldlM (outermost scope) v
    match ← ownAddress? .draft2020 v with
    | some id => return (← scope.enter id, v)
    | none => return (scope, v)
where
  outermost (scope : Scope) (v : Json) (address : Text) : Except SchemaFault Json := do
    match ← s.anchor? scope address name with
    | some (_, w, true) => return w
    | _ => return v

-- What a reference in a schema with the given scope stands for, and the scope of that.
def resolve (s : Schema) (outside : Outside) (scope : Scope) (reference : Text) :
    Except SchemaFault (Scope × Json) := do
  let (address, fragment) ← match reference with
    | '#' :: fragment => pure (scope.base, fragment)
    | _ =>
      match (Address.join? scope.base reference).bind Address.withoutFragment? with
      | some parts => pure parts
      | none => throw .malformedAddress
  let (scope, d, v) ← s.schemaAt outside scope address
  let scope := scope.moveTo address
  match fragment with
  | [] => return (scope, v)
  | '/' :: way => follow d scope [] v ((unquote way).splitOn (Code.char '/'))
  | name => s.named scope name

-- Whether a schema is replaced by outer ones that are marked like it, where it refers to itself.
def isRecursive (v : Json) : Bool :=
  (v.object?.bind (Keyed.get? · "$recursiveAnchor")).any (!isVoid ·)

-- What a reference of a schema to itself stands for: the outermost one of the marked schemas around it.
def resolveRecursive (s : Schema) (outside : Outside) (scope : Scope) :
    Except SchemaFault (Scope × Json) := do
  let found ← s.resolve outside scope "#"
  if isRecursive found.2 then outermost found scope.outer else return found
where
  outermost (found : Scope × Json) : List Text → Except SchemaFault (Scope × Json)
    | [] => .ok found
    | address :: outer => do
      let next ← s.resolve outside scope address
      if isRecursive next.2 then outermost next outer else return found

end Schema
end TraitCatalog

import TraitCatalog.Schema.Address

namespace TraitCatalog

-- A schema that names no dialect is in the dialect of the schema around it.
inductive Dialect
  | draft3
  | draft4
  | draft6
  | draft7
  | draft2019
  | draft2020
  deriving DecidableEq, Repr

namespace Dialect

def all : List Dialect :=
  [draft3, draft4, draft6, draft7, draft2019, draft2020]

-- The folder of the published schema of a dialect.
def folder (d : Dialect) : Text :=
  "http" ++ rest
where
  site : Text := "://json-schema.org/draft"
  rest : Text :=
    match d with
    | draft3 => site ++ "-03/"
    | draft4 => site ++ "-04/"
    | draft6 => site ++ "-06/"
    | draft7 => site ++ "-07/"
    | draft2019 => "s" ++ site ++ "/2019-09/"
    | draft2020 => "s" ++ site ++ "/2020-12/"

def address (d : Dialect) : Text :=
  d.folder ++ "schema"

-- The dialect with exactly this address.
def ofAddress? (t : Text) : Option Dialect :=
  all.find? fun d => d.address = t

def rank : Dialect → Nat
  | draft3 => 0
  | draft4 => 1
  | draft6 => 2
  | draft7 => 3
  | draft2019 => 4
  | draft2020 => 5

def isFrom (d first : Dialect) : Bool :=
  first.rank ≤ d.rank

-- Whether `d` is one of the dialects from `first` to `last`.
def isWithin (d first last : Dialect) : Bool :=
  d.isFrom first && last.isFrom d

end Dialect
end TraitCatalog

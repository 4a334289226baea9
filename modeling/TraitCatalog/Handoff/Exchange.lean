import TraitCatalog.Catalog.Basic

namespace TraitCatalog

-- A catalog that was offered. The serial number tells apart two offers of equal catalogs.
structure Parcel where
  serial : Nat
  catalog : Catalog
  deriving DecidableEq

-- Hooks are known by name.
abbrev Hook := Text

-- A hook as messages show it.
def Hook.display (h : Hook) : Text :=
  "<hook " ++ h ++ ">"

inductive Outcome
  | delivered
  | pending
  deriving DecidableEq, Repr

def Outcome.name : Outcome → Text
  | delivered => "delivered"
  | pending => "pending"

-- A catalog that is offered while no hook is bound waits in the one pending slot, where the next such catalog
-- replaces it.
structure Exchange where
  hook : Option Hook
  pending : Option Parcel
  deriving DecidableEq

namespace Exchange

def unbound : Exchange :=
  ⟨none, none⟩

def bound (h : Hook) : Exchange :=
  ⟨some h, none⟩

def stateName (e : Exchange) : Text :=
  if e.hook.isSome then "bound" else "unbound"

def outline (e : Exchange) : Text :=
  let pending : Text := e.pending.elim "None" fun p => p.catalog.outline
  "RegistrationContext(state=" ++ e.stateName ++ ", pending=" ++ pending ++ ")"

-- `p` waits for a hook, in place of whatever waited before.
def park (e : Exchange) (p : Parcel) : Exchange :=
  { e with pending := some p }

def attach (e : Exchange) (h : Hook) : Exchange :=
  { e with hook := some h }

def detach (e : Exchange) : Exchange :=
  { e with hook := none }

def clear (e : Exchange) : Exchange :=
  { e with pending := none }

-- `p` is with its hook: the slot is cleared if it is still `p` that waits there.
def settle (e : Exchange) (p : Parcel) : Exchange :=
  if e.pending.any (·.serial = p.serial) then e.clear else e

end Exchange
end TraitCatalog

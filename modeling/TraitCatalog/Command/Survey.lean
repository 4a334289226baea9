import TraitCatalog.Command.Session

namespace TraitCatalog
namespace Command

-- Reports on the payload at `path`, and answers whether it is good.
def validateOne (s : Settings) (path : Path) : Command Bool := do
  match loadCatalog s (← get).tree path with
  | .error (.refused r) =>
    report (look s) .fail r.message
    return false
  | .error f => throw f
  | .ok c =>
    let summary ← ofExcept .encode c.summary
    report (look s) .ok (path.text ++ ": " ++ summary)
    return true

-- Reports on all payloads in order, and answers whether all of them are good.
def validate (s : Settings) : List Path → Command Bool
  | [] => return true
  | path :: paths => do
    let good ← validateOne s path
    let others ← validate s paths
    return good && others

end Command
end TraitCatalog

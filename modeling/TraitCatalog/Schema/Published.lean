import TraitCatalog.Schema.Published.Early
import TraitCatalog.Schema.Published.Late

namespace TraitCatalog
namespace Schema.Published

def whole : Dialect → Json
  | .draft3 => draft3
  | .draft4 => draft4
  | .draft6 => draft6
  | .draft7 => draft7
  | .draft2019 => Draft2019.whole
  | .draft2020 => Draft2020.whole

def parts : Dialect → Keyed Json
  | .draft2019 =>
    [("core", Draft2019.core), ("applicator", Draft2019.applicator),
     ("validation", Draft2019.validation), ("meta-data", Draft2019.annotations),
     ("format", Draft2019.format "format"), ("content", Draft2019.content)]
  | .draft2020 =>
    [("core", Draft2020.core), ("applicator", Draft2020.applicator),
     ("unevaluated", Draft2020.unevaluated), ("validation", Draft2020.validation),
     ("meta-data", Draft2020.annotations), ("format", Draft2020.format "format"),
     ("format-annotation", Draft2020.format "format-annotation"),
     ("format-assertion", Draft2020.format "format-assertion"), ("content", Draft2020.content)]
  | _ => []

-- The schema of the dialect `d` that is published under an address.
def ofDialect? (d : Dialect) (address : Text) : Option Json :=
  if address = d.address then some (whole d)
  else (parts d).findSome? fun (name, v) => if address = partAddress d name then some v else none

end Schema.Published

namespace Schema

-- The published schema with an address, and its dialect.
def published? (address : Text) : Option (Dialect × Json) :=
  Dialect.all.findSome? fun d => (Published.ofDialect? d address).map (d, ·)

end Schema
end TraitCatalog

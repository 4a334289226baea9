import TraitCatalog.Payload.Loading
import TraitCatalog.Proofs.Payload.Stored

namespace TraitCatalog
namespace Document

theorem read_render (l : Json.Layout) (c : Catalog) : read (render l c) = .ok c.toFields := by
  have value : Json.read (c.toJson.write l 0) = .ok c.toJson := Json.read_write l c.plain_toJson (by decide)
  rw [read, render, value]
  rfl

-- Reading the document of a catalog gives its data in the same order, and building from that gives the
-- same catalog.
theorem render_reads_back (c : Catalog) (indent : Option Int) (context : Text) :
    Payload.read context (render (.ofIndent indent) c) .json = .ok c.toFields ∧
    ∃ d, Catalog.ofJson context (.object c.toFields) = .ok d ∧ d.entries = c.entries := by
  refine ⟨?read, c, ?build, rfl⟩
  case read  => simp [Payload.read, read_render]
  case build => simp [Catalog.ofJson, Json.expectObject, Catalog.ofFields_toFields]

end Document
end TraitCatalog

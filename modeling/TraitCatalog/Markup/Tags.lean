import TraitCatalog.Text.Basic

namespace TraitCatalog
namespace Markup

-- The text outside of tags. While a tag is open, `held` is what was read of it, in reverse.
def scanTags : (held : Option Text) → Text → Text
  | none, [] => []
  | none, '<' :: rest => scanTags (some "<") rest
  | none, c :: rest => c :: scanTags none rest
  | some held, [] => held.reverse
  | some _, '>' :: rest => scanTags none rest
  | some held, c :: rest => scanTags (some (c :: held)) rest

-- A tag goes from a `<` to the first `>` behind it; a `<` that no `>` follows is text.
def removeTags (t : Text) : Text :=
  scanTags none t

end Markup
end TraitCatalog

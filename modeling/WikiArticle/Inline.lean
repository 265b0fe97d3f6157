import WikiArticle.Inline.Entity
import WikiArticle.Inline.Link
import WikiArticle.Inline.Emphasis.MarkUp

/-! The markup inside a line. Reserved characters become entities first, so that no character of the
    source is taken for part of a tag; links come next, and emphasis last, when the tags of the links
    already show which delimiters belong together. -/

namespace WikiArticle
namespace Inline

/-- The text with its reserved characters, links and emphasised spans marked up. -/
def markUp (t : Text) : Text := Emphasis.markUp (markUpLinks (escape t))

end Inline
end WikiArticle

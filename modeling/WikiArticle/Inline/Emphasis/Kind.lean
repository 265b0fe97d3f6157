import WikiArticle.Text.Blank

/-! The kinds of emphasis: the character that delimits a span of each kind, and the tags that stand for
    the delimiters. No tag holds a delimiter, so the tags of a span bring no new delimiter. -/

namespace WikiArticle
namespace Inline

/-- A kind of emphasised span. -/
inductive Emphasis where
  | bold
  | italic
  | literal
  deriving DecidableEq, Repr

namespace Emphasis

/-- Every kind, in the order in which the kinds are marked up. -/
def all : List Emphasis := [.bold, .italic, .literal]

/-- The character at either end of a span. -/
def delimiter : Emphasis → Char
  | .bold => '*'
  | .italic => '_'
  | .literal => '\x60'

/-- The tag that stands for the opening delimiter. -/
def startTag : Emphasis → Text
  | .bold => "<emphasis role=\"bold\">".toList
  | .italic => "<emphasis>".toList
  | .literal => "<literal>".toList

/-- The tag that stands for the closing delimiter. -/
def endTag : Emphasis → Text
  | .bold | .italic => "</emphasis>".toList
  | .literal => "</literal>".toList

theorem mem_all (k : Emphasis) : k ∈ all := by cases k <;> decide

theorem utf8Size_delimiter (k : Emphasis) : k.delimiter.utf8Size = 1 := by cases k <;> rfl

theorem count_startTag (j k : Emphasis) : k.startTag.count j.delimiter = 0 := by
  cases j <;> cases k <;> decide

theorem count_endTag (j k : Emphasis) : k.endTag.count j.delimiter = 0 := by
  cases j <;> cases k <;> decide

end Emphasis
end Inline
end WikiArticle

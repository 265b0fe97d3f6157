import WikiArticle.Text.Blank

/-! Character entities. The reserved characters `&`, `<` and `>` of a text are written as entities, and
    every other character stands for itself, quotes among them. -/

namespace WikiArticle
namespace Inline

/-- How a character is written in the output. -/
def entity (c : Char) : Text :=
  match c with
  | '&' => "&amp;".toList
  | '<' => "&lt;".toList
  | '>' => "&gt;".toList
  | c => [c]

/-- The text with its reserved characters written as entities. -/
def escape (t : Text) : Text := t.flatMap entity

@[simp] theorem escape_nil : escape [] = [] := rfl

@[simp] theorem escape_cons (c : Char) (t : Text) : escape (c :: t) = entity c ++ escape t := rfl

@[simp] theorem escape_append (t u : Text) : escape (t ++ u) = escape t ++ escape u := List.flatMap_append

theorem entity_ne_nil (c : Char) : entity c ≠ [] := by
  unfold entity
  split <;> simp

end Inline
end WikiArticle

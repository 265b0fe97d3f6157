import WikiArticle.Text.Blank

/-! Pictures. A line is a picture when it is a bracketed url that ends in the name of an image format. A
    url under the base url of the wiki names an attachment, which the article refers to as a local
    file. -/

namespace WikiArticle
namespace Picture

/-- The image formats, by the ends of their file names. -/
def extensions : List Text := [".png".toList, ".jpg".toList, ".gif".toList]

/-- Whether a text can be the url of a picture: it holds no space and ends like an image file. -/
def isUrl (t : Text) : Bool := !t.contains ' ' && extensions.any fun e => e.isSuffixOf t

/-- The url of the picture that a line is. -/
def url? (t : Text) : Option Text :=
  match t with
  | '[' :: rest =>
    if rest.getLast? == some ']' && isUrl rest.dropLast then some rest.dropLast else none
  | _ => none

/-- What stands for the base url in a reference to an attachment. -/
def localBase : Text := "file:./".toList

/-- The reference to a picture in the article. An empty base url has no effect. -/
def fileref (base : Option Text) (url : Text) : Text :=
  match base with
  | some b => if !b.isEmpty && b.isPrefixOf url then localBase ++ url.drop b.length else url
  | none => url

end Picture
end WikiArticle

import WikiArticle.Text.Alphanumeric
import WikiArticle.Text.Property.Category
import WikiArticle.Text.Property.Listed

/-! Properties that follow from categories and from properties given by lists. -/

namespace WikiArticle
namespace Property

/-- The white space. -/
def whiteSpace : CharSet := .ofRanges Text.blankRanges

/-! ### Letters -/

/-- The letters and all other signs of words: what is alphanumeric and no number. -/
def alphabetic : CharSet :=
  (.ofText "41-5A 61-7A" ∪ .ofRanges Text.alphanumericRanges) \ category ["Nd", "No"]

/-- What is in lower case. -/
def lowercase : CharSet := category ["Ll"] ∪ otherLowercase

/-- What is in upper case. -/
def uppercase : CharSet := category ["Lu"] ∪ otherUppercase

/-- What is alphabetic without being a letter, a letter-like number or of one case. -/
def otherAlphabetic : CharSet := alphabetic \ (category ["L", "Nl"] ∪ lowercase ∪ uppercase)

/-- What has a case. -/
def cased : CharSet := lowercase ∪ uppercase ∪ category ["Lt"]

/-- What is passed over when the case of a letter depends on those around it. -/
def caseIgnorable : CharSet :=
  category ["Mn", "Me", "Cf", "Lm", "Sk"] ∪
    .ofText "27 2E 3A B7 387 55F 5F4 2018-2019 2024 2027 FE13 FE52 FE55 FF07 FF0E FF1A"

/-- What changes under one of the changes of case. -/
def changesWhenCasemapped : CharSet := changesWhenLowercased ∪ changesWhenUppercased ∪ changesWhenTitlecased

/-- What is used in formulas. -/
def math : CharSet := category ["Sm"] ∪ otherMath

/-- The characters of words: what is alphabetic, and marks, digits, connecting signs and join controls. -/
def word : CharSet := alphabetic ∪ category ["M", "Nd", "Pc"] ∪ joinControl

/-! ### Signs that are more than one character -/

/-- What goes with the character before it. -/
def graphemeExtend : CharSet := category ["Me", "Mn"] ∪ otherGraphemeExtend

/-- What can begin a sign. -/
def graphemeBase : CharSet := (category ["C", "Zl", "Zp"] ∪ graphemeExtend).complement

/-- What is not shown where it has no effect. -/
def defaultIgnorable : CharSet :=
  (category ["Cf"] ∪ variationSelector ∪ otherDefaultIgnorable) \
    (whiteSpace ∪ prependedConcatenationMark ∪ .ofText "FFF9-FFFB 13430-13440")

/-! ### Identifiers -/

/-- What is kept for the signs of formal languages. -/
def patternKept : CharSet := patternSyntax ∪ patternWhiteSpace

/-- What can begin an identifier. -/
def idStart : CharSet := (category ["L", "Nl"] ∪ otherIdStart) \ patternKept

/-- What can stand in an identifier. -/
def idContinue : CharSet := (idStart ∪ category ["Mn", "Mc", "Nd", "Pc"] ∪ otherIdContinue) \ patternKept

/-- What becomes several characters, not all of them for identifiers, when it is taken apart. -/
def apartInIdentifiers : CharSet :=
  .ofText "37A 309B-309C FC5E-FC63 FDFA-FDFB FE70 FE72 FE74 FE76 FE78 FE7A FE7C FE7E"

/-- What can begin an identifier, also when it is taken apart. -/
def xidStart : CharSet := idStart \ (apartInIdentifiers ∪ .ofText "E33 EB3 FF9E-FF9F")

/-- What can stand in an identifier, also when it is taken apart. -/
def xidContinue : CharSet := idContinue \ apartInIdentifiers

end Property
end WikiArticle

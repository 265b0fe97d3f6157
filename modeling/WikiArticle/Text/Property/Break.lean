import WikiArticle.Text.Property.Derived
import WikiArticle.Text.Property.Script

/-! Where texts can be divided. Each division, into signs, into words and into sentences, sorts the characters
    into classes, of which one character has at most one. -/

namespace WikiArticle
namespace Property

/-- Characters before which the next one is shown as part of the same sign. -/
def prepended : CharSet :=
  prependedConcatenationMark ∪ .ofText "D4E 111C2-111C3 1193F 11941 11A3A 11A84-11A89 11D46 11F02"

/-- The carriage return. -/
def carriageReturn : CharSet := .single 0xD

/-- The line feed. -/
def lineFeed : CharSet := .single 0xA

/-- The joiner of pictures. -/
def zeroWidthJoiner : CharSet := .single 0x200D

/-! ### Signs -/

namespace SignBreak

/-- What goes with the character before it. -/
def extend : CharSet := (graphemeExtend ∪ emojiModifier) \ zeroWidthJoiner

/-- Controls, each of which stands alone. -/
def control : CharSet :=
  (category ["Zl", "Zp", "Cc", "Cf"] ∪ (category ["Cn"] ∩ defaultIgnorable)) \
    (.ofText "A D 200C 200D" ∪ prependedConcatenationMark ∪ graphemeExtend)

/-- Marks with a width of their own. -/
def spacingMark : CharSet :=
  (category ["Mc"] ∪ .ofText "E33 EB3") \
    (graphemeExtend ∪ .ofText "102B-102C 1038 1062-1064 1067-106D 1083 1087-108C 108F 109A-109C 1A61 1A63-1A64
      AA7B AA7D 11720-11721")

/-- The syllables of Hangul that end in a vowel: the first of every 28. -/
def openSyllable : CharSet := .ofList ((List.range 399).map fun i => 0xAC00 + 28 * i)

/-- The syllables of Hangul that end in a consonant. -/
def closedSyllable : CharSet := .range 0xAC00 0xD7A3 \ openSyllable

/-- The classes, with their names. -/
def classes : List (String × CharSet) :=
  [("CR", carriageReturn), ("LF", lineFeed), ("Control CN", control), ("Extend EX", extend), ("ZWJ", zeroWidthJoiner),
    ("Regional_Indicator RI", regionalIndicator), ("Prepend PP", prepended), ("SpacingMark SM", spacingMark),
    ("L", .ofText "1100-115F A960-A97C"), ("V", .ofText "1160-11A7 D7B0-D7C6 16D63 16D67-16D6A"),
    ("T", .ofText "11A8-11FF D7CB-D7FB"), ("LV", openSyllable), ("LVT", closedSyllable)]

end SignBreak

/-! ### Words -/

namespace WordBreak

/-- What goes with the character before it. -/
def extend : CharSet := (graphemeExtend ∪ category ["Mc"] ∪ emojiModifier) \ zeroWidthJoiner

/-- Controls that do not divide words. -/
def format : CharSet := category ["Cf"] \ (.ofText "200B-200D" ∪ prepended ∪ extend)

/-- What is written as Katakana. -/
def katakana : CharSet := script "Kana" ∪ .ofText "3031-3035 309B-309C 30A0 30FC FF70"

/-- The letters of Hebrew. -/
def hebrewLetter : CharSet := script "Hebr" ∩ category ["Lo"]

/-- The letters of scripts without blanks between words. -/
def withoutBlanks : CharSet :=
  scripts.having ["Thai", "Laoo", "Mymr", "Khmr", "Tale", "Talu", "Lana", "Tavt", "Ahom"].contains ∩
    category ["Lo", "Lm", "Mn", "Mc", "Cf"]

/-- The other letters. -/
def letter : CharSet :=
  (alphabetic ∪ .ofText "2C2-2C5 2D2-2D7 2DE-2DF 2E5-2EB 2ED 2EF-2FF 55A-55C 55E 58A 5F3 70F A708-A716
    A720-A721 A789-A78A AB5B") \
    (ideographic ∪ katakana ∪ withoutBlanks ∪ script "Hira" ∪ extend ∪ hebrewLetter)

/-- The classes, with their names. -/
def classes : List (String × CharSet) :=
  [("CR", carriageReturn), ("LF", lineFeed), ("Newline NL", .ofText "B-C 85 2028-2029"), ("Extend", extend),
    ("ZWJ", zeroWidthJoiner), ("Format FO", format), ("Katakana KA", katakana), ("Hebrew_Letter HL", hebrewLetter),
    ("ALetter LE", letter), ("Single_Quote SQ", .single 0x27), ("Double_Quote DQ", .single 0x22),
    ("MidLetter ML", .ofText "3A B7 387 55F 5F4 2027 FE13 FE55 FF1A"),
    ("MidNumLet MB", .ofText "2E 2018-2019 2024 FE52 FF07 FF0E"),
    ("MidNum MN", .ofText "2C 3B 37E 589 60C-60D 66C 7F8 2044 FE10 FE14 FE50 FE54 FF0C FF1B"),
    ("Numeric NU", category ["Nd"] ∪ .single 0x66B ∪ (prependedConcatenationMark \ .single 0x70F)),
    ("ExtendNumLet EX", .ofText "5F 202F 203F-2040 2054 FE33-FE34 FE4D-FE4F FF3F"),
    ("Regional_Indicator RI", regionalIndicator),
    ("WSegSpace", .ofText "20 1680 2000-2006 2008-200A 205F 3000")]

end WordBreak

/-! ### Sentences -/

namespace SentenceBreak

/-- What goes with the character before it. -/
def extend : CharSet := graphemeExtend ∪ category ["Mc"] ∪ zeroWidthJoiner

/-- The ends of paragraphs that are not made of a carriage return or a line feed. -/
def separator : CharSet := .ofText "85 2028-2029"

/-- Full stops, which do not end every sentence. -/
def fullStop : CharSet := .ofText "2E 2024 FE52 FF0E"

/-- The signs that end every sentence. -/
def terminal : CharSet := sentenceTerminal \ fullStop

/-- What is in lower case. -/
def lower : CharSet := lowercase \ (graphemeExtend ∪ .ofText "10D0-10FA 10FD-10FF")

/-- What is in upper case, or begins a title. -/
def upper : CharSet := (category ["Lt"] ∪ uppercase) \ .ofText "1C90-1CBA 1CBD-1CBF"

/-- The letters without case. -/
def letter : CharSet := (alphabetic ∪ .single 0x5F3) \ (lower ∪ upper ∪ extend)

/-- The signs that close something in front of a sentence's end. -/
def close : CharSet :=
  (category ["Ps", "Pe", "Pi", "Pf"] ∪ .ofText "22 27 AB BB 2018-2019 201B-201D 201F 2039-203A 275B-2760
    2E00-2E0D 2E1C-2E1D 2E20-2E21 1F676-1F678") \ (.single 0x5F3 ∪ fullStop ∪ terminal)

/-- The classes, with their names. -/
def classes : List (String × CharSet) :=
  [("CR", carriageReturn), ("LF", lineFeed), ("Extend EX", extend), ("Sep SE", separator),
    ("Format FO", category ["Cf"] \ (graphemeExtend ∪ zeroWidthJoiner)),
    ("Sp SP", whiteSpace \ (separator ∪ carriageReturn ∪ lineFeed)), ("Lower LO", lower), ("Upper UP", upper),
    ("OLetter LE", letter), ("Numeric NU", category ["Nd"] ∪ .ofText "66B-66C"), ("ATerm AT", fullStop),
    ("SContinue SC", .ofText "2C-2D 3A 55D 60C-60D 7F8 1802 1808 2013-2014 3001 FE10-FE11 FE13 FE31-FE32
      FE50-FE51 FE55 FE58 FE63 FF0C-FF0D FF1A FF64"),
    ("STerm ST", terminal), ("Close CL", close)]

end SentenceBreak
end Property
end WikiArticle

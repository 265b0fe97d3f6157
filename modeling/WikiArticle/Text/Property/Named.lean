import WikiArticle.Text.Property.Age
import WikiArticle.Text.Property.Break

/-! Sets of characters by the names of properties: of a property that a character has or has not, of a general
    category or a script, or of a property together with one of its values. -/

namespace WikiArticle
namespace Property

/-- The set that stands beside a list of names of which one is the given name. -/
def lookUp? (entries : List (String × CharSet)) (name : Text) : Option CharSet :=
  (entries.find? fun e => (words e.1.toList).any fun n => keyName n = name).map (·.2)

/-- The properties that a character has or has not. -/
def binaries : List (String × CharSet) :=
  [("Alphabetic Alpha", alphabetic), ("ASCII_Hex_Digit AHex", asciiHexDigit), ("Bidi_Control Bidi_C", bidiControl),
    ("Bidi_Mirrored Bidi_M", bidiMirrored), ("Case_Ignorable CI", caseIgnorable), ("Cased", cased),
    ("Changes_When_Casefolded CWCF", changesWhenCasefolded), ("Changes_When_Casemapped CWCM", changesWhenCasemapped),
    ("Changes_When_Lowercased CWL", changesWhenLowercased), ("Changes_When_Titlecased CWT", changesWhenTitlecased),
    ("Changes_When_Uppercased CWU", changesWhenUppercased), ("Dash", dash),
    ("Default_Ignorable_Code_Point DI", defaultIgnorable), ("Deprecated Dep", deprecated), ("Diacritic Dia", diacritic),
    ("Emoji", emoji), ("Emoji_Component EComp", emojiComponent), ("Emoji_Modifier EMod", emojiModifier),
    ("Emoji_Modifier_Base EBase", emojiModifierBase), ("Emoji_Presentation EPres", emojiPresentation),
    ("Extended_Pictographic ExtPict", extendedPictographic), ("Extender Ext", extender),
    ("Grapheme_Base Gr_Base", graphemeBase), ("Grapheme_Extend Gr_Ext", graphemeExtend),
    ("Grapheme_Link Gr_Link", graphemeLink), ("Hex_Digit Hex", hexDigit), ("Hyphen", hyphen),
    ("ID_Compat_Math_Continue", idCompatMathContinue), ("ID_Compat_Math_Start", idCompatMathStart),
    ("ID_Continue IDC", idContinue), ("ID_Start IDS", idStart), ("Ideographic Ideo", ideographic),
    ("IDS_Binary_Operator IDSB", idsBinaryOperator), ("IDS_Trinary_Operator IDST", idsTrinaryOperator),
    ("IDS_Unary_Operator IDSU", idsUnaryOperator), ("Join_Control Join_C", joinControl),
    ("Logical_Order_Exception LOE", logicalOrderException), ("Lowercase Lower", lowercase), ("Math", math),
    ("Modifier_Combining_Mark MCM", modifierCombiningMark), ("Noncharacter_Code_Point NChar", noncharacter),
    ("Other_Alphabetic OAlpha", otherAlphabetic), ("Other_Default_Ignorable_Code_Point ODI", otherDefaultIgnorable),
    ("Other_Grapheme_Extend OGr_Ext", otherGraphemeExtend), ("Other_ID_Continue OIDC", otherIdContinue),
    ("Other_ID_Start OIDS", otherIdStart), ("Other_Lowercase OLower", otherLowercase), ("Other_Math OMath", otherMath),
    ("Other_Uppercase OUpper", otherUppercase), ("Pattern_Syntax Pat_Syn", patternSyntax),
    ("Pattern_White_Space Pat_WS", patternWhiteSpace), ("Prepended_Concatenation_Mark PCM", prependedConcatenationMark),
    ("Quotation_Mark QMark", quotationMark), ("Radical", radical), ("Regional_Indicator RI", regionalIndicator),
    ("Sentence_Terminal STerm", sentenceTerminal), ("Soft_Dotted SD", softDotted),
    ("Terminal_Punctuation Term", terminalPunctuation), ("Unified_Ideograph UIdeo", unifiedIdeograph),
    ("Uppercase Upper", uppercase), ("Variation_Selector VS", variationSelector),
    ("White_Space WSpace Space", whiteSpace), ("XID_Continue XIDC", xidContinue), ("XID_Start XIDS", xidStart)]

/-- The names of the general categories and of classes of them. -/
def categoryNames : NameList := .ofText "Any, Assigned, ASCII, LC Cased_Letter, L Letter, Lu Uppercase_Letter,
  Ll Lowercase_Letter, Lt Titlecase_Letter, Lm Modifier_Letter, Lo Other_Letter, M Mark Combining_Mark,
  Mn Nonspacing_Mark, Mc Spacing_Mark, Me Enclosing_Mark, N Number, Nd Decimal_Number Digit, Nl Letter_Number,
  No Other_Number, P Punctuation Punct, Pc Connector_Punctuation, Pd Dash_Punctuation, Ps Open_Punctuation,
  Pe Close_Punctuation, Pi Initial_Punctuation, Pf Final_Punctuation, Po Other_Punctuation, S Symbol,
  Sm Math_Symbol, Sc Currency_Symbol, Sk Modifier_Symbol, So Other_Symbol, Z Separator, Zs Space_Separator,
  Zl Line_Separator, Zp Paragraph_Separator, C Other, Cc Control Cntrl, Cf Format, Co Private_Use, Cn Unassigned"

/-- The characters of a general category, or of a class of categories. -/
def categoryNamed? (name : Text) : Option CharSet :=
  (categoryNames.key? name).map fun key =>
    match key with
    | "Any" => .all
    | "Assigned" => (category ["Cn"]).complement
    | "ASCII" => .range 0 0x7F
    | "LC" => category ["Lu", "Ll", "Lt"]
    | abbreviation => category [abbreviation]

/-- The properties that have many values. -/
def properties : NameList := .ofText "gc General_Category, sc Script, scx Script_Extensions, age,
  GCB Grapheme_Cluster_Break, WB Word_Break, SB Sentence_Break"

/-- The characters that one name describes. -/
def named? (name : Text) : Option CharSet :=
  let key := keyName name
  ((lookUp? binaries key).or (categoryNamed? key)).or ((scriptNames.key? key).map script)

/-- The characters for which a property has a value. -/
def valued? (property value : Text) : Option CharSet :=
  let key := keyName value
  match properties.key? (keyName property) with
  | some "gc" => categoryNamed? key
  | some "sc" => (scriptNames.key? key).map script
  | some "scx" => (scriptNames.key? key).map scriptUse
  | some "age" => age? key
  | some "GCB" => lookUp? SignBreak.classes key
  | some "WB" => lookUp? WordBreak.classes key
  | some "SB" => lookUp? SentenceBreak.classes key
  | _ => none

/-- What a description in braces names: a property and a value with `!=`, `:` or `=` between them, or one name.
    With `!=` all characters are meant but those of the set. -/
def ofText? (t : Text) : Option (Bool × CharSet) :=
  let split := fun (sep : Text) =>
    ((List.range t.length).find? fun i => sep.isPrefixOf (t.drop i)).map fun i => (t.take i, t.drop (i + sep.length))
  if let some (property, value) := split ['!', '='] then
    (valued? property value).map (true, ·)
  else if let some (property, value) := (split [':']).or (split ['=']) then
    (valued? property value).map (false, ·)
  else (named? t).map (false, ·)

end Property
end WikiArticle

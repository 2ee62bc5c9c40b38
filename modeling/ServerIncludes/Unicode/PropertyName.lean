import ServerIncludes.Unicode.Age
import ServerIncludes.Unicode.Segmentation

/-!
Properties of characters by their names. Names are compared loosely: case, blanks, hyphens, low
lines and a leading "is" do not count.
-/

namespace ServerIncludes.Unicode

/-- A name in the form in which loosely equal names agree. A lone "c" after "is" keeps it, since
that is another name than the "c" of the category. -/
def looseName (name : List Char) : List Char :=
  let strip (text : List Char) : List Char :=
    (text.filter fun c => c.toNat < 128 && c != ' ' && c != '-' && c != '_').map Char.toLower
  match name with
  | first :: second :: rest =>
    if first.toLower = 'i' ∧ second.toLower = 's' then
      if strip rest = ['c'] then ['i', 's', 'c'] else strip rest
    else strip name
  | short => strip short

/-- True if a name is loosely equal to one that is in its loose form. -/
def isNamed (loose : List Char) (name : String) : Bool := looseName name.toList == loose

/-- The properties that a character either has or lacks, with their names. -/
def binaryProperties : List (List String × CharSet) := [
  (["ASCII_Hex_Digit", "AHex"], asciiHexDigit), (["Alphabetic", "Alpha"], alphabetic),
  (["Bidi_Control", "Bidi_C"], bidiControl), (["Case_Ignorable", "CI"], caseIgnorable),
  (["Cased"], cased), (["Changes_When_Casefolded", "CWCF"], changesWhenCasefolded),
  (["Changes_When_Casemapped", "CWCM"], changesWhenCasemapped),
  (["Changes_When_Lowercased", "CWL"], changesWhenLowercased),
  (["Changes_When_Titlecased", "CWT"], changesWhenTitlecased),
  (["Changes_When_Uppercased", "CWU"], changesWhenUppercased), (["Dash"], dash),
  (["Default_Ignorable_Code_Point", "DI"], defaultIgnorable), (["Deprecated", "Dep"], deprecated),
  (["Diacritic", "Dia"], diacritic), (["Emoji"], emoji),
  (["Emoji_Component", "EComp"], emojiComponent), (["Emoji_Modifier", "EMod"], emojiModifier),
  (["Emoji_Modifier_Base", "EBase"], emojiModifierBase),
  (["Emoji_Presentation", "EPres"], emojiPresentation),
  (["Extended_Pictographic", "ExtPict"], extendedPictographic), (["Extender", "Ext"], extender),
  (["Grapheme_Base", "Gr_Base"], graphemeBase), (["Grapheme_Extend", "Gr_Ext"], graphemeExtend),
  (["Grapheme_Link", "Gr_Link"], graphemeLink), (["Hex_Digit", "Hex"], hexDigit),
  (["Hyphen"], hyphen), (["IDS_Binary_Operator", "IDSB"], idsBinaryOperator),
  (["IDS_Trinary_Operator", "IDST"], idsTrinaryOperator),
  (["IDS_Unary_Operator", "IDSU"], idsUnaryOperator),
  (["ID_Compat_Math_Continue"], idCompatMathContinue),
  (["ID_Compat_Math_Start"], idCompatMathStart), (["ID_Continue", "IDC"], idContinue),
  (["ID_Start", "IDS"], idStart), (["Ideographic", "Ideo"], ideographic),
  (["Join_Control", "Join_C"], joinControl),
  (["Logical_Order_Exception", "LOE"], logicalOrderException), (["Lowercase", "Lower"], lowercase),
  (["Math"], math), (["Modifier_Combining_Mark", "MCM"], modifierCombiningMark),
  (["Noncharacter_Code_Point", "NChar"], noncharacter),
  (["Other_Alphabetic", "OAlpha"], otherAlphabetic),
  (["Other_Default_Ignorable_Code_Point", "ODI"], otherDefaultIgnorable),
  (["Other_Grapheme_Extend", "OGr_Ext"], otherGraphemeExtend),
  (["Other_ID_Continue", "OIDC"], otherIdContinue), (["Other_ID_Start", "OIDS"], otherIdStart),
  (["Other_Lowercase", "OLower"], otherLowercase), (["Other_Math", "OMath"], otherMath),
  (["Other_Uppercase", "OUpper"], otherUppercase), (["Pattern_Syntax", "Pat_Syn"], patternSyntax),
  (["Pattern_White_Space", "Pat_WS"], patternWhiteSpace),
  (["Prepended_Concatenation_Mark", "PCM"], prependedConcatenationMark),
  (["Quotation_Mark", "QMark"], quotationMark), (["Radical"], radical),
  (["Regional_Indicator", "RI"], regionalIndicator), (["Sentence_Terminal", "STerm"],
  sentenceTerminal), (["Soft_Dotted", "SD"], softDotted),
  (["Terminal_Punctuation", "Term"], terminalPunctuation),
  (["Unified_Ideograph", "UIdeo"], unifiedIdeograph), (["Uppercase", "Upper"], uppercase),
  (["Variation_Selector", "VS"], variationSelector), (["White_Space", "WSpace", "space"], blanks),
  (["XID_Continue", "XIDC"], xidContinue), (["XID_Start", "XIDS"], xidStart)]

/-- The groups of categories that have names of their own. -/
def categoryGroups : List (List String × List Category) := [
  (["C", "Other"], Category.group 'C'), (["L", "Letter"], Category.group 'L'),
  (["LC", "Cased_Letter"], [.uppercaseLetter, .lowercaseLetter, .titlecaseLetter]),
  (["M", "Mark", "Combining_Mark"], Category.group 'M'), (["N", "Number"], Category.group 'N'),
  (["P", "Punctuation", "punct"], Category.group 'P'), (["S", "Symbol"], Category.group 'S'),
  (["Z", "Separator"], Category.group 'Z'), (["cntrl"], [.control]), (["digit"], [.decimalNumber])]

/-- The characters of a category or of a group of categories, or one of the three sets that are
named like categories. Surrogates are no characters. -/
def categorySet? (loose : List Char) : Option CharSet :=
  if isNamed loose "any" then some .all
  else if isNamed loose "assigned" then some (Category.charSet [.unassigned]).complement
  else if isNamed loose "ascii" then some (.range 0 127)
  else
    match categoryGroups.find? fun group => group.1.any (isNamed loose) with
    | some (_, categories) => some (Category.charSet categories)
    | none =>
      (Category.names.find? fun (category, short, long) =>
        category != .surrogate && (isNamed loose short || isNamed loose long)).map fun entry =>
          Category.charSet [entry.1]

/-- The characters that a name by itself stands for: those with a property, of a category or of a
script. -/
def named? (name : List Char) : Option CharSet :=
  let loose := looseName name
  match binaryProperties.find? fun property => property.1.any (isNamed loose) with
  | some (_, members) => some members
  | none => (categorySet? loose).or ((script? (isNamed loose)).map Script.members)

/-- The characters of a class by which texts are cut. -/
def breakClass? (classes : List BreakClass) (loose : List Char) : Option CharSet :=
  (classes.find? fun kind => kind.names.any (isNamed loose)).map BreakClass.members

/-- The characters for which a property has a value. -/
def valued? (property value : List Char) : Option CharSet :=
  let isProperty (names : List String) : Bool := names.any (isNamed (looseName property))
  let loose := looseName value
  if isProperty ["General_Category", "gc"] then categorySet? loose
  else if isProperty ["Script", "sc"] then (script? (isNamed loose)).map Script.members
  else if isProperty ["Script_Extensions", "scx"] then (script? (isNamed loose)).map Script.users
  else if isProperty ["Age"] then assignedBy (isNamed loose)
  else if isProperty ["Grapheme_Cluster_Break", "GCB"] then
    breakClass? BreakClass.ofCharacters loose
  else if isProperty ["Word_Break", "WB"] then breakClass? BreakClass.ofWords loose
  else if isProperty ["Sentence_Break", "SB"] then breakClass? BreakClass.ofSentences loose
  else none

end ServerIncludes.Unicode

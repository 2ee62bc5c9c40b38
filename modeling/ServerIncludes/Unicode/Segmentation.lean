import ServerIncludes.Unicode.Derived
import ServerIncludes.Unicode.Script

/-!
The classes of characters by which a text is cut into what is seen as one character, into words
and into sentences.
-/

namespace ServerIncludes.Unicode

/-- A class of characters: its names, and its members. -/
structure BreakClass where
  names : List String
  members : CharSet

namespace BreakClass

/-- The first syllable of each block of Hangul syllables with one beginning: it has no final
consonant. -/
def openSyllables : CharSet :=
  ⟨(List.range 399).map fun index => (0xAC00 + 28 * index, 0xAC00 + 28 * index)⟩

/-- Marks that stand before digits and are read with them. -/
def numberMarks : CharSet := prependedConcatenationMark.diff (.ofText ["70F"])

/-- The classes of characters that make up what is seen as one character. -/
def ofCharacters : List BreakClass :=
  let extend := graphemeExtend.union emojiModifier
  let vowels := CharSet.ofText ["1160-11A7 D7B0-D7C6 16D63 16D67-16D6A"]
  let control :=
    ofCategories [.lineSeparator, .paragraphSeparator, .control, .format]
      (defaultIgnorable.inter (Category.charSet [.unassigned]))
  let prepend := prependedConcatenationMark.union
    (.ofText ["D4E 111C2-111C3 113D1 1193F 11941 11A3A 11A84-11A89 11D46 11F02"])
  let spacing := ofCategories [.spacingMark] (.ofText ["E33 EB3"])
  let apart := CharSet.ofText ["102B-102C 1038 1062-1064 1067-106D 1083 1087-108C 108F 109A-109C",
    "1A61 1A63-1A64 AA7B AA7D 11720-11721"]
  [⟨["CR"], .ofText ["D"]⟩, ⟨["LF"], .ofText ["A"]⟩,
    ⟨["CN", "Control"],
      control.diff ((CharSet.ofText ["A D 200C-200D"]).union
        (prependedConcatenationMark.union extend))⟩,
    ⟨["EX", "Extend"], extend⟩, ⟨["PP", "Prepend"], prepend⟩,
    ⟨["SM", "SpacingMark"], spacing.diff (apart.union extend)⟩,
    ⟨["RI", "Regional_Indicator"], regionalIndicator⟩, ⟨["ZWJ"], .ofText ["200D"]⟩,
    ⟨["L"], .ofText ["1100-115F A960-A97C"]⟩, ⟨["V"], vowels⟩,
    ⟨["T"], .ofText ["11A8-11FF D7CB-D7FB"]⟩, ⟨["LV"], openSyllables⟩,
    ⟨["LVT"], (CharSet.ofText ["AC00-D7A3"]).diff openSyllables⟩]

/-- The characters of a script, by its name. -/
def scriptMembers (name : String) : CharSet :=
  match script? (· == name) with
  | some script => script.members
  | none => .empty

/-- The characters of scripts that are written without blanks between words. -/
def unspacedScripts : CharSet :=
  .ofRanges
    (["Thai", "Lao", "Myanmar", "Khmer", "Tai_Le", "New_Tai_Lue", "Tai_Tham", "Tai_Viet",
      "Ahom"].flatMap fun name => (scriptMembers name).ranges)

/-- Digits as words and sentences have them: those of full width count, and so do the marks that
are read with digits. -/
def numerals : CharSet := (digits.union (.ofText ["66B"])).union numberMarks

/-- The classes of characters that make up words. -/
def ofWords : List BreakClass :=
  let extend := (ofCategories [.spacingMark] (graphemeExtend.union emojiModifier)).diff
    (.ofText ["200D"])
  let katakana := (scriptMembers "Katakana").union
    (.ofText ["3031-3035 309B-309C 30A0 30FC FF70"])
  let hebrew := (scriptMembers "Hebrew").inter (Category.charSet [.otherLetter])
  let likeLetters := CharSet.ofText ["2C2-2C5 2D2-2D7 2DE-2DF 2E5-2EB 2ED 2EF-2FF 55A-55C 55E 58A",
    "5F3 70F A708-A716 A720-A721 A789-A78A AB5B"]
  let notLetters := ((ideographic.union katakana).union unspacedScripts).union
    (((scriptMembers "Hiragana").union extend).union hebrew)
  let letter := (alphabetic.union likeLetters).diff notLetters
  [⟨["DQ", "Double_Quote"], .ofText ["22"]⟩, ⟨["SQ", "Single_Quote"], .ofText ["27"]⟩,
    ⟨["CR"], .ofText ["D"]⟩, ⟨["LF"], .ofText ["A"]⟩,
    ⟨["NL", "Newline"], .ofText ["B-C 85 2028-2029"]⟩, ⟨["Extend"], extend⟩,
    ⟨["ZWJ"], .ofText ["200D"]⟩, ⟨["RI", "Regional_Indicator"], regionalIndicator⟩,
    ⟨["FO", "Format"],
      (Category.charSet [.format]).diff
        ((CharSet.ofText ["200B-200D"]).union (prependedConcatenationMark.union extend))⟩,
    ⟨["KA", "Katakana"], katakana⟩, ⟨["HL", "Hebrew_Letter"], hebrew⟩, ⟨["LE", "ALetter"], letter⟩,
    ⟨["ML", "MidLetter"], .ofText ["3A B7 387 55F 5F4 2027 FE13 FE55 FF1A"]⟩,
    ⟨["MN", "MidNum"],
      .ofText ["2C 3B 37E 589 60C-60D 66C 7F8 2044 FE10 FE14 FE50 FE54 FF0C FF1B"]⟩,
    ⟨["MB", "MidNumLet"], .ofText ["2E 2018-2019 2024 FE52 FF07 FF0E"]⟩,
    ⟨["NU", "Numeric"], numerals⟩,
    ⟨["EX", "ExtendNumLet"], ofCategories [.connectorPunctuation] (.ofText ["202F"])⟩,
    ⟨["WSegSpace"], (Category.charSet [.spaceSeparator]).diff (.ofText ["A0 2007 202F"])⟩]

/-- The classes of characters that make up sentences. -/
def ofSentences : List BreakClass :=
  let extend := ofCategories [.spacingMark] (graphemeExtend.union joinControl)
  let georgian := CharSet.ofText ["10D0-10FA 10FD-10FF"]
  let georgianCapitals := CharSet.ofText ["1C90-1CBA 1CBD-1CBF"]
  let lower := lowercase.diff (graphemeExtend.union georgian)
  let upper := (ofCategories [.titlecaseLetter] uppercase).diff georgianCapitals
  let other := (alphabetic.union (.ofText ["5F3 70F"])).union (georgian.union georgianCapitals)
  let terminators := CharSet.ofText ["2E 2024 FE52 FF0E"]
  let quotes := CharSet.ofText ["22 27 275B-2760 2E00-2E01 2E06-2E08 2E0B 1F676-1F678"]
  let stop := sentenceTerminal.diff terminators
  [⟨["CR"], .ofText ["D"]⟩, ⟨["LF"], .ofText ["A"]⟩, ⟨["EX", "Extend"], extend⟩,
    ⟨["SE", "Sep"], .ofText ["85 2028-2029"]⟩,
    ⟨["FO", "Format"],
      (Category.charSet [.format]).diff (prependedConcatenationMark.union extend)⟩,
    ⟨["SP", "Sp"], blanks.diff (.ofText ["A D 85 2028-2029"])⟩, ⟨["LO", "Lower"], lower⟩,
    ⟨["UP", "Upper"], upper⟩, ⟨["LE", "OLetter"], other.diff ((lower.union upper).union extend)⟩,
    ⟨["NU", "Numeric"], numerals.union (.ofText ["66C"])⟩, ⟨["AT", "ATerm"], terminators⟩,
    ⟨["SC", "SContinue"],
      .ofText ["2C-2D 3A-3B 37E 55D 60C-60D 7F8 1802 1808 2013-2014 3001 FE10-FE11 FE13-FE14",
        "FE31-FE32 FE50-FE51 FE54-FE55 FE58 FE63 FF0C-FF0D FF1A-FF1B FF64"]⟩,
    ⟨["ST", "STerm"], stop⟩,
    ⟨["CL", "Close"],
      (ofCategories
        [.openPunctuation, .closePunctuation, .initialPunctuation, .finalPunctuation]
        quotes).diff (terminators.union stop)⟩]

end BreakClass

end ServerIncludes.Unicode

import ServerIncludes.Unicode.Property

/-!
Properties of characters that the standard derives from others: case, identifiers, and how
characters combine to what is seen as one.
-/

namespace ServerIncludes.Unicode

/-- The characters of some categories, with some more. -/
def ofCategories (categories : List Category) (more : CharSet) : CharSet :=
  (Category.charSet categories).union more

/-- Characters of lower case. -/
def lowercase : CharSet := ofCategories [.lowercaseLetter] otherLowercase

/-- Characters of upper case. -/
def uppercase : CharSet := ofCategories [.uppercaseLetter] otherUppercase

/-- Characters that have a case. -/
def cased : CharSet := ofCategories [.titlecaseLetter] (lowercase.union uppercase)

/-- Characters that may stand within a word without a case of their own. -/
def caseIgnorable : CharSet :=
  ofCategories
    [.nonspacingMark, .enclosingMark, .format, .modifierLetter, .modifierSymbol]
    (.ofText ["27 2E 3A B7 387 55F 5F4 2018-2019 2024 2027 FE13 FE52 FE55 FF07 FF0E FF1A"])

/-- Characters that differ from their lower-case form. -/
def changesWhenLowercased : CharSet :=
  (ofCategories [.titlecaseLetter] uppercase).diff fixedUppercase

/-- Characters that differ from their upper-case form. -/
def changesWhenUppercased : CharSet :=
  (ofCategories [.titlecaseLetter] lowercase).diff fixedLowercase

/-- Characters that differ from their title-case form: capital digraphs do, while letters in title
case and the Georgian ones, which have no title case, do not. -/
def changesWhenTitlecased : CharSet :=
  (changesWhenUppercased.union (.ofText ["1C4 1C7 1CA 1F1"])).diff
    (ofCategories [.titlecaseLetter] (.ofText ["10D0-10FA 10FD-10FF"]))

/-- Characters that differ from one of their forms. -/
def changesWhenCasemapped : CharSet :=
  (changesWhenLowercased.union changesWhenUppercased).union changesWhenTitlecased

/-- Characters that differ from what they fold to. Cherokee letters fold to capitals. -/
def changesWhenCasefolded : CharSet :=
  (changesWhenLowercased.diff (.ofText ["13A0-13F5"])).union (.ofText [
    "B5 DF 149 17F 345 3C2 3D0-3D1 3D5-3D6 3F0-3F1 3F5 587 13F8-13FD 1C80-1C88 1E9A-1E9B",
    "1F80-1F87 1F90-1F97 1FA0-1FA7 1FB2-1FB4 1FB7 1FC2-1FC4 1FC7 1FF2-1FF4 1FF7 AB70-ABBF",
    "FB00-FB06 FB13-FB17"])

/-- Mathematical characters. -/
def math : CharSet := ofCategories [.mathSymbol] otherMath

/-- Characters that are part of the notation of patterns. -/
def patternCharacters : CharSet := patternSyntax.union patternWhiteSpace

/-- Characters that may start an identifier. -/
def idStart : CharSet :=
  (ofCategories [.letterNumber] (letters.union otherIdStart)).diff patternCharacters

/-- Characters that may go on an identifier. -/
def idContinue : CharSet :=
  (ofCategories [.nonspacingMark, .spacingMark, .decimalNumber, .connectorPunctuation]
    (idStart.union otherIdContinue)).diff patternCharacters

/-- Characters that no longer fit an identifier when it is brought into its normal form. -/
def unstableInIdentifiers : CharSet :=
  .ofText ["37A 309B-309C FC5E-FC63 FDFA-FDFB FE70 FE72 FE74 FE76 FE78 FE7A FE7C FE7E"]

/-- Characters that may start an identifier also in its normal form. -/
def xidStart : CharSet :=
  idStart.diff (unstableInIdentifiers.union (.ofText ["E33 EB3 FF9E-FF9F"]))

/-- Characters that may go on an identifier also in its normal form. -/
def xidContinue : CharSet := idContinue.diff unstableInIdentifiers

/-- Mathematical characters that a profile of identifiers lets go on one. -/
def idCompatMathContinue : CharSet := idCompatMathStart.union idCompatMathDigits

/-- Characters that are left out where they cannot be shown. -/
def defaultIgnorable : CharSet :=
  (ofCategories [.format] (otherDefaultIgnorable.union variationSelector)).diff
    ((blanks.union (.ofText ["FFF9-FFFB 13430-13440"])).union prependedConcatenationMark)

/-- Characters that extend the one before them. -/
def graphemeExtend : CharSet :=
  ofCategories [.nonspacingMark, .enclosingMark] otherGraphemeExtend

/-- Characters that others may extend. -/
def graphemeBase : CharSet :=
  (ofCategories [.control, .format, .surrogate, .privateUse, .unassigned, .lineSeparator,
    .paragraphSeparator] graphemeExtend).complement

end ServerIncludes.Unicode

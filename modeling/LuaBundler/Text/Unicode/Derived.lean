/-
# Derived properties

Properties of characters that the Unicode standard derives from their categories and
from the listed properties.
-/

import LuaBundler.Text.Unicode.Category
import LuaBundler.Text.Unicode.Listed

namespace LuaBundler
namespace Text
namespace Unicode
namespace Property

open Category

/-- Small letters and what counts as such. -/
def lowercase : CharSet := lowercaseLetter.union otherLowercase

/-- Capital letters and what counts as such. -/
def uppercase : CharSet := uppercaseLetter.union otherUppercase

/-- Characters that come as capital and small ones. -/
def cased : CharSet := .unions [lowercase, uppercase, titlecaseLetter]

/-- Letters and what counts as such. -/
def alphabetic : CharSet :=
  .unions [lowercase, uppercase, titlecaseLetter, modifierLetter, otherLetter, letterNumber,
    otherAlphabetic]

/-- Characters of mathematics. -/
def math : CharSet := mathSymbol.union otherMath

/-- Signs and white space that patterns keep for themselves. -/
def patternReserved : CharSet := patternSyntax.union patternWhiteSpace

/-- Characters that can begin an identifier. -/
def idStart : CharSet :=
  (CharSet.unions [letter, letterNumber, otherIdStart]).diff patternReserved

/-- Characters that can go on an identifier. -/
def idContinue : CharSet :=
  (CharSet.unions [idStart, nonspacingMark, spacingMark, decimalNumber, connectorPunctuation,
    otherIdContinue]).diff patternReserved

/-- Characters whose compatibility form cannot go on an identifier. -/
def idUnstable : CharSet := .ofTable "37A 309B-309C FC5E-FC63 FDFA-FDFB FE70-FE7E/2"

/-- Characters that can begin an identifier, also in their compatibility form. -/
def xidStart : CharSet :=
  idStart.diff (idUnstable.union (.ofTable "E33 EB3 FF9E-FF9F"))

/-- Characters that can go on an identifier, also in their compatibility form. -/
def xidContinue : CharSet := idContinue.diff idUnstable

/-- Characters that are not shown when they are not supported. -/
def defaultIgnorableCodePoint : CharSet :=
  (CharSet.unions [otherDefaultIgnorableCodePoint, format, variationSelector]).diff
    (.unions [whiteSpace, prependedConcatenationMark, .ofTable "FFF9-FFFB 13430-1343F"])

/-- Marks that belong to the character before. -/
def graphemeExtend : CharSet := .unions [enclosingMark, nonspacingMark, otherGraphemeExtend]

/-- Characters that stand on their own. -/
def graphemeBase : CharSet :=
  (CharSet.unions [control, format, privateUse, unassigned, lineSeparator, paragraphSeparator,
    graphemeExtend]).compl

/-- Characters that some mapping between capital and small ones changes. -/
def changesWhenCasemapped : CharSet :=
  .unions [changesWhenLowercased, changesWhenUppercased, changesWhenTitlecased]

end Property
end Unicode
end Text
end LuaBundler

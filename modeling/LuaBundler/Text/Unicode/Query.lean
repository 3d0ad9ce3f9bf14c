/-
# Classes of characters by name

A class of characters can be asked for by the name of a property, a category or a
script, or by a property and its value, as in `Greek`, `Lu` and `Script=Greek`.
Capitals, blanks, hyphens and underscores in names do not count, nor does an `is` in
front of them.
-/

import LuaBundler.Text.Unicode.Age
import LuaBundler.Text.Unicode.Break
import LuaBundler.Text.Unicode.ScriptExtension

namespace LuaBundler
namespace Text
namespace Unicode

namespace Property

/-- The properties that a character has or has not, by their names. -/
def names : List (List String × CharSet) := [
  (["asciihexdigit", "ahex"], asciiHexDigit), (["alphabetic", "alpha"], alphabetic),
  (["bidicontrol", "bidic"], bidiControl), (["bidimirrored", "bidim"], bidiMirrored),
  (["caseignorable", "ci"], caseIgnorable), (["cased"], cased),
  (["changeswhencasefolded", "cwcf"], changesWhenCasefolded),
  (["changeswhencasemapped", "cwcm"], changesWhenCasemapped),
  (["changeswhenlowercased", "cwl"], changesWhenLowercased),
  (["changeswhentitlecased", "cwt"], changesWhenTitlecased),
  (["changeswhenuppercased", "cwu"], changesWhenUppercased), (["dash"], dash),
  (["defaultignorablecodepoint", "di"], defaultIgnorableCodePoint),
  (["deprecated", "dep"], deprecated), (["diacritic", "dia"], diacritic), (["emoji"], emoji),
  (["emojicomponent", "ecomp"], emojiComponent), (["emojimodifier", "emod"], emojiModifier),
  (["emojimodifierbase", "ebase"], emojiModifierBase),
  (["emojipresentation", "epres"], emojiPresentation),
  (["extendedpictographic", "extpict"], extendedPictographic), (["extender", "ext"], extender),
  (["graphemebase", "grbase"], graphemeBase), (["graphemeextend", "grext"], graphemeExtend),
  (["graphemelink", "grlink"], graphemeLink), (["hexdigit", "hex"], hexDigit),
  (["hyphen"], hyphen), (["idsbinaryoperator", "idsb"], idsBinaryOperator),
  (["idstrinaryoperator", "idst"], idsTrinaryOperator),
  (["idsunaryoperator", "idsu"], idsUnaryOperator),
  (["idcompatmathcontinue"], idCompatMathContinue), (["idcompatmathstart"], idCompatMathStart),
  (["idcontinue", "idc"], idContinue), (["idstart", "ids"], idStart),
  (["ideographic", "ideo"], ideographic), (["joincontrol", "joinc"], joinControl),
  (["logicalorderexception", "loe"], logicalOrderException), (["lowercase", "lower"], lowercase),
  (["math"], math), (["modifiercombiningmark", "mcm"], modifierCombiningMark),
  (["noncharactercodepoint", "nchar"], noncharacterCodePoint),
  (["otheralphabetic", "oalpha"], otherAlphabetic),
  (["otherdefaultignorablecodepoint", "odi"], otherDefaultIgnorableCodePoint),
  (["othergraphemeextend", "ogrext"], otherGraphemeExtend),
  (["otheridcontinue", "oidc"], otherIdContinue), (["otheridstart", "oids"], otherIdStart),
  (["otherlowercase", "olower"], otherLowercase), (["othermath", "omath"], otherMath),
  (["otheruppercase", "oupper"], otherUppercase), (["patternsyntax", "patsyn"], patternSyntax),
  (["patternwhitespace", "patws"], patternWhiteSpace),
  (["prependedconcatenationmark", "pcm"], prependedConcatenationMark),
  (["quotationmark", "qmark"], quotationMark), (["radical"], radical),
  (["regionalindicator", "ri"], regionalIndicator),
  (["sentenceterminal", "sterm"], sentenceTerminal), (["softdotted", "sd"], softDotted),
  (["terminalpunctuation", "term"], terminalPunctuation),
  (["unifiedideograph", "uideo"], unifiedIdeograph), (["uppercase", "upper"], uppercase),
  (["variationselector", "vs"], variationSelector),
  (["whitespace", "wspace", "space"], whiteSpace), (["xidcontinue", "xidc"], xidContinue),
  (["xidstart", "xids"], xidStart)]

end Property

/-- The letters of a name that count, as small ones. -/
def plainLetters (name : List Char) : List Char :=
  (name.filter fun c => c.toNat < 128 && c != ' ' && c != '_' && c != '-').map Char.toLower

/-- A name without what does not count.  An `is` in front of nothing but a `c` counts,
since it makes the name of something else. -/
def plainName (name : List Char) : String :=
  if (name.take 2).map Char.toLower = ['i', 's'] then
    match plainLetters (name.drop 2) with
    | ['c'] => "isc"
    | letters => String.ofList letters
  else String.ofList (plainLetters name)

/-- The set that goes by a name. -/
def lookup? (table : List (List String × CharSet)) (name : String) : Option CharSet :=
  (table.find? fun entry => entry.1.contains name).map Prod.snd

/-- The script that goes by a name. -/
def script? (name : String) : Option Script :=
  scripts.find? fun s => s.name == name || s.codes.contains name

/-- The class that goes by a single name. -/
def byName? (name : List Char) : Option CharSet :=
  let name := plainName name
  lookup? Property.names name <|> lookup? Category.names name <|> (script? name).map Script.chars

/-- The version of the standard that a name stands for: `6.1` is also called `v61`. -/
def version? (name : String) : Option String :=
  (versions.map Prod.fst).find? fun v =>
    v == name || name == String.ofList ('v' :: v.toList.filter (· != '.'))

/-- The class of the characters for which a property has a value. -/
def byValue? (property value : List Char) : Option CharSet :=
  let value := plainName value
  match plainName property with
  | "generalcategory" | "gc" => lookup? Category.names value
  | "script" | "sc" => (script? value).map Script.chars
  | "scriptextensions" | "scx" => (script? value).map Script.users
  | "age" => (version? value).bind charsOfVersion?
  | "graphemeclusterbreak" | "gcb" => lookup? Grapheme.classes value
  | "wordbreak" | "wb" => lookup? Word.classes value
  | "sentencebreak" | "sb" => lookup? Sentence.classes value
  | _ => none

end Unicode
end Text
end LuaBundler

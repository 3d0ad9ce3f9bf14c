/-
# Script extensions

Some characters are used in a few scripts, though they belong to one or to none of
them.  The lists are those of version 16 of the Unicode standard.
-/

import LuaBundler.Text.Unicode.Script

namespace LuaBundler
namespace Text
namespace Unicode

/-- Characters with a list of scripts of their own, each list with its characters. -/
def extensions : List (List String × CharSet) := [
  (["avestan", "carian", "coptic", "duployan", "elbasan", "georgian", "glagolitic", "gothic",
    "greek", "gunjalagondi", "han", "latin", "lydian", "mahajani", "oldpermic", "shavian"],
    .ofTable "B7"),
  (["bengali", "cyrillic", "devanagari", "latin", "lisu", "thai", "toto"],
    .ofTable "2BC"),
  (["bopomofo", "latin"],
    .ofTable "2C7 2C9-2CB 2D9"),
  (["latin", "lisu"],
    .ofTable "2CD"),
  (["latin", "thai"],
    .ofTable "2D7"),
  (["cherokee", "coptic", "cyrillic", "greek", "latin", "oldpermic", "sunuwar", "taile"],
    .ofTable "300"),
  (["cherokee", "cyrillic", "greek", "latin", "osage", "sunuwar", "taile", "todhri"],
    .ofTable "301"),
  (["cherokee", "cyrillic", "latin", "tifinagh"],
    .ofTable "302"),
  (["glagolitic", "latin", "sunuwar", "syriac", "thai"],
    .ofTable "303"),
  (["caucasianalbanian", "cherokee", "coptic", "cyrillic", "gothic", "greek", "latin",
    "osage", "syriac", "tifinagh", "todhri"],
    .ofTable "304"),
  (["coptic", "elbasan", "glagolitic", "gothic", "katakana", "latin"],
    .ofTable "305"),
  (["cyrillic", "greek", "latin", "oldpermic"],
    .ofTable "306"),
  (["coptic", "duployan", "hebrew", "latin", "oldpermic", "syriac", "taile", "tifinagh",
    "todhri"],
    .ofTable "307"),
  (["armenian", "cyrillic", "duployan", "gothic", "greek", "hebrew", "latin", "oldpermic",
    "syriac", "taile"],
    .ofTable "308"),
  (["latin", "tifinagh"],
    .ofTable "309"),
  (["duployan", "latin", "syriac"],
    .ofTable "30A"),
  (["cherokee", "cyrillic", "latin", "osage"],
    .ofTable "30B"),
  (["cherokee", "latin", "taile"],
    .ofTable "30C"),
  (["latin", "sunuwar"],
    .ofTable "30D 310"),
  (["ethiopic", "latin"],
    .ofTable "30E"),
  (["cyrillic", "latin", "todhri"],
    .ofTable "311"),
  (["greek", "latin", "oldpermic", "todhri"],
    .ofTable "313"),
  (["latin", "syriac"],
    .ofTable "320 325 32E"),
  (["cherokee", "duployan", "katakana", "latin", "syriac"],
    .ofTable "323"),
  (["cherokee", "duployan", "latin", "syriac"],
    .ofTable "324"),
  (["latin", "sunuwar", "syriac"],
    .ofTable "32D"),
  (["cherokee", "latin", "syriac"],
    .ofTable "330"),
  (["caucasianalbanian", "cherokee", "gothic", "latin", "sunuwar", "thai"],
    .ofTable "331"),
  (["greek"],
    .ofTable "342 345 1DC0-1DC1"),
  (["latin", "osage"],
    .ofTable "358"),
  (["caucasianalbanian", "latin", "todhri"],
    .ofTable "35E"),
  (["latin"],
    .ofTable "363-36F"),
  (["coptic", "greek"],
    .ofTable "374-375"),
  (["cyrillic", "oldpermic"],
    .ofTable "483"),
  (["cyrillic", "glagolitic"],
    .ofTable "484 487 2E43 A66F"),
  (["cyrillic", "latin"],
    .ofTable "485-486"),
  (["armenian", "georgian", "glagolitic"],
    .ofTable "589"),
  (["arabic", "garay", "hanifirohingya", "nko", "syriac", "thaana", "yezidi"],
    .ofTable "60C 61B"),
  (["arabic", "syriac", "thaana"],
    .ofTable "61C"),
  (["adlam", "arabic", "garay", "hanifirohingya", "nko", "syriac", "thaana", "yezidi"],
    .ofTable "61F"),
  (["adlam", "arabic", "hanifirohingya", "mandaic", "manichaean", "olduyghur",
    "psalterpahlavi", "sogdian", "syriac"],
    .ofTable "640"),
  (["arabic", "syriac"],
    .ofTable "64B-655 670"),
  (["arabic", "thaana", "yezidi"],
    .ofTable "660-669"),
  (["arabic", "hanifirohingya"],
    .ofTable "6D4"),
  (["bengali", "devanagari", "grantha", "gujarati", "gurmukhi", "kannada", "latin",
    "malayalam", "oriya", "sharada", "tamil", "telugu", "tirhuta"],
    .ofTable "951"),
  (["bengali", "devanagari", "grantha", "gujarati", "gurmukhi", "kannada", "latin",
    "malayalam", "oriya", "tamil", "telugu", "tirhuta"],
    .ofTable "952"),
  (["bengali", "devanagari", "dogra", "grantha", "gujarati", "gunjalagondi", "gurmukhi",
    "kannada", "khudawadi", "mahajani", "malayalam", "masaramgondi", "nandinagari", "olonal",
    "oriya", "sinhala", "sylotinagri", "takri", "tamil", "telugu", "tirhuta"],
    .ofTable "964"),
  (["bengali", "devanagari", "dogra", "grantha", "gujarati", "gunjalagondi", "gurmukhi",
    "gurungkhema", "kannada", "khudawadi", "limbu", "mahajani", "malayalam", "masaramgondi",
    "nandinagari", "olonal", "oriya", "sinhala", "sylotinagri", "takri", "tamil", "telugu",
    "tirhuta"],
    .ofTable "965"),
  (["devanagari", "dogra", "kaithi", "mahajani"],
    .ofTable "966-96F"),
  (["bengali", "chakma", "sylotinagri"],
    .ofTable "9E6-9EF"),
  (["gurmukhi", "multani"],
    .ofTable "A66-A6F"),
  (["gujarati", "khojki"],
    .ofTable "AE6-AEF"),
  (["grantha", "tamil"],
    .ofTable "BE6-BF3 11301 11303 1133B-1133C 11FD0-11FD1 11FD3"),
  (["kannada", "nandinagari", "tulutigalari"],
    .ofTable "CE6-CEF"),
  (["chakma", "myanmar", "taile"],
    .ofTable "1040-1049"),
  (["georgian", "glagolitic", "latin"],
    .ofTable "10FB"),
  (["runic"],
    .ofTable "16EB-16ED"),
  (["buhid", "hanunoo", "tagalog", "tagbanwa"],
    .ofTable "1735-1736"),
  (["mongolian", "phagspa"],
    .ofTable "1802-1803 1805"),
  (["bengali", "devanagari", "grantha", "kannada"],
    .ofTable "1CD0 1CD2"),
  (["devanagari"],
    .ofTable "1CD1 1CD4 1CDB 1CDE-1CDF 1CE2-1CE8 1CEB-1CEC 1CEE-1CF1"),
  (["devanagari", "grantha", "kannada"],
    .ofTable "1CD3"),
  (["bengali", "devanagari"],
    .ofTable "1CD5-1CD6 1CD8 1CE1 1CEA 1CED 1CF5-1CF6"),
  (["devanagari", "sharada"],
    .ofTable "1CD7 1CD9 1CDC-1CDD 1CE0"),
  (["devanagari", "kannada", "malayalam", "oriya", "tamil", "telugu"],
    .ofTable "1CDA"),
  (["devanagari", "nandinagari"],
    .ofTable "1CE9"),
  (["bengali", "devanagari", "grantha", "kannada", "malayalam", "nandinagari", "oriya",
    "sinhala", "telugu", "tirhuta", "tulutigalari"],
    .ofTable "1CF2"),
  (["devanagari", "grantha"],
    .ofTable "1CF3 1CF8-1CF9"),
  (["devanagari", "grantha", "kannada", "tulutigalari"],
    .ofTable "1CF4"),
  (["bengali"],
    .ofTable "1CF7"),
  (["nandinagari"],
    .ofTable "1CFA"),
  (["cyrillic", "latin", "syriac"],
    .ofTable "1DF8"),
  (["syriac"],
    .ofTable "1DFA"),
  (["latin", "mongolian", "phagspa"],
    .ofTable "202F"),
  (["adlam", "arabic"],
    .ofTable "204F"),
  (["carian", "georgian", "glagolitic", "lycian", "oldhungarian", "oldturkic"],
    .ofTable "205A"),
  (["carian", "greek", "meroitichieroglyphs", "oldhungarian"],
    .ofTable "205D"),
  (["devanagari", "grantha", "latin"],
    .ofTable "20F0"),
  (["coptic", "latin"],
    .ofTable "2E17"),
  (["avestan", "oldturkic"],
    .ofTable "2E30"),
  (["avestan", "carian", "georgian", "kaithi", "lydian", "oldhungarian", "samaritan"],
    .ofTable "2E31"),
  (["duployan"],
    .ofTable "2E3C 1BCA0-1BCA3"),
  (["adlam", "arabic", "oldhungarian"],
    .ofTable "2E41"),
  (["han", "tangut"],
    .ofTable "2FF0-2FFF 31EF"),
  (["bopomofo", "han", "hangul", "hiragana", "katakana", "mongolian", "yi"],
    .ofTable "3001"),
  (["bopomofo", "han", "hangul", "hiragana", "katakana", "mongolian", "phagspa", "yi"],
    .ofTable "3002"),
  (["bopomofo", "han", "hangul", "hiragana", "katakana"],
    .ofTable "3003 3013 301C-301F 3030 3037 FE45-FE46"),
  (["han"],
    .ofTable "
    3006 303E-303F 3190-319F 31C0-31E5 3220-3247 3280-32B0 32C0-32CB 32FF 3358-3370 337B-337F
    33E0-33FE 1D360-1D371 1F250-1F251"),
  (["bopomofo", "han", "hangul", "hiragana", "katakana", "mongolian", "tibetan", "yi"],
    .ofTable "3008-3009"),
  (["bopomofo", "han", "hangul", "hiragana", "katakana", "lisu", "mongolian", "tibetan",
    "yi"],
    .ofTable "300A-300B"),
  (["bopomofo", "han", "hangul", "hiragana", "katakana", "yi"],
    .ofTable "300C-3011 3014-301B 30FB FF61-FF65"),
  (["bopomofo", "han"],
    .ofTable "302A-302D"),
  (["hiragana", "katakana"],
    .ofTable "3031-3035 3099-309C 30A0 30FC FF70 FF9E-FF9F"),
  (["han", "hiragana", "katakana"],
    .ofTable "303C-303D"),
  (["han", "latin"],
    .ofTable "A700-A707"),
  (["devanagari", "dogra", "gujarati", "gurmukhi", "kaithi", "kannada", "khojki",
    "khudawadi", "mahajani", "malayalam", "modi", "nandinagari", "sharada", "takri",
    "tirhuta", "tulutigalari"],
    .ofTable "A830-A832"),
  (["devanagari", "dogra", "gujarati", "gurmukhi", "kaithi", "kannada", "khojki",
    "khudawadi", "mahajani", "modi", "nandinagari", "sharada", "takri", "tirhuta",
    "tulutigalari"],
    .ofTable "A833-A835"),
  (["devanagari", "dogra", "gujarati", "gurmukhi", "kaithi", "khojki", "khudawadi",
    "mahajani", "modi", "takri", "tirhuta"],
    .ofTable "A836-A837 A839"),
  (["devanagari", "dogra", "gujarati", "gurmukhi", "kaithi", "khojki", "khudawadi",
    "mahajani", "modi", "sharada", "takri", "tirhuta"],
    .ofTable "A838"),
  (["bengali", "devanagari", "tulutigalari"],
    .ofTable "A8F1"),
  (["devanagari", "tamil"],
    .ofTable "A8F3"),
  (["kayahli", "latin", "myanmar"],
    .ofTable "A92E"),
  (["buginese", "javanese"],
    .ofTable "A9CF"),
  (["arabic", "nko"],
    .ofTable "FD3E-FD3F"),
  (["arabic", "thaana"],
    .ofTable "FDF2 FDFD"),
  (["cypriot", "cyprominoan", "linearb"],
    .ofTable "10100-10101"),
  (["cypriot", "linearb"],
    .ofTable "10102 10137-1013F"),
  (["cypriot", "lineara", "linearb"],
    .ofTable "10107-10133"),
  (["arabic", "coptic"],
    .ofTable "102E0-102FB"),
  (["manichaean", "olduyghur"],
    .ofTable "10AF2")]

/-- The characters that have a list of scripts of their own. -/
def extended : CharSet := .unions (extensions.map Prod.snd)

/-- The characters that are used in a script: those of the script that have no list of
their own, and those whose list names it. -/
def Script.users (s : Script) : CharSet :=
  .unions (s.chars.diff extended ::
    (extensions.filter fun e => e.1.contains s.name).map Prod.snd)

end Unicode
end Text
end LuaBundler

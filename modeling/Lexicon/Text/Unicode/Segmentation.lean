import Lexicon.Text.Unicode.Property
import Lexicon.Text.Unicode.Script

namespace Lexicon.Text.Unicode

private def these (words : String) : CodeRanges := CodeRanges.read [words]

def zeroWidthJoiner : CodeRanges := these "200d"

def numberMark : CodeRanges := (listed "prependedconcatenationmark").without (these "70f")

def scriptLetters (name : String) : CodeRanges := (script? name).getD .empty

/-- The first code points of the blocks of twenty-eight syllables that have the consonants before and the vowel in
common. -/
def openSyllable : CodeRanges :=
  CodeRanges.ofList ((List.range 399).map fun k => (0xAC00 + 28 * k, 0xAC00 + 28 * k))

def graphemeBreak? : String → Option CodeRanges
  | "cr" => some (these "d")
  | "lf" => some (these "a")
  | "control" | "cn" =>
    let unassigned := CodeRanges.intersect CodeRanges.lastCodePoint (ofCategories ["Cn"]) defaultIgnorable
    let controls := (ofCategories ["Zl", "Zp", "Cc", "Cf"]).union unassigned
    some ((((controls.without (these "a d")).without (listed "prependedconcatenationmark")).without
      graphemeExtend).without zeroWidthJoiner)
  | "extend" | "ex" => some (graphemeExtend.union (listed "emojimodifier"))
  | "zwj" => some zeroWidthJoiner
  | "regionalindicator" | "ri" => some (listed "regionalindicator")
  | "prepend" | "pp" =>
    some ((listed "prependedconcatenationmark").union
      (these "d4e 111c2-111c3 113d1 1193f 11941 11a3a 11a84-11a89 11d46 11f02"))
  | "spacingmark" | "sm" =>
    some ((((ofCategories ["Mc"]).without graphemeExtend).without
      (these "102b-102c 1038 1062-1064 1067-106d 1083 1087-108c 108f 109a-109c 1a61 1a63-1a64 aa7b aa7d 11720-11721")).union
      (these "e33 eb3"))
  | "l" => some (these "1100-115f a960-a97c")
  | "v" => some (these "1160-11a7 d7b0-d7c6 16d63 16d67-16d6a")
  | "t" => some (these "11a8-11ff d7cb-d7fb")
  | "lv" => some openSyllable
  | "lvt" => some ((these "ac00-d7a3").without openSyllable)
  | _ => none

def wordExtend : CodeRanges := (graphemeExtend.union (ofCategories ["Mc"])).union (listed "emojimodifier")

def hebrewLetter : CodeRanges :=
  CodeRanges.intersect CodeRanges.lastCodePoint (scriptLetters "hebrew") (ofCategories ["Lo"])

def furtherWordLetter : CodeRanges := CodeRanges.read
  ["2c2-2c5 2d2-2d7 2de-2df 2e5-2eb 2ed 2ef-2ff 55a-55c 55e 58a 5f3 70f a708-a716 a720-a721 a789-a78a ab5b"]

def unspacedLetter : CodeRanges := CodeRanges.read
  ["e01-e30 e32-e33 e40-e46 e81-e82 e84 e86-e8a e8c-ea3 ea5 ea7-eb0 eb2-eb3 ebd ec0-ec4 ec6 edc-edf 1000-102a 103f",
  "1050-1055 105a-105d 1061 1065-1066 106e-1070 1075-1081 108e 1780-17b3 17d7 17dc 1950-196d 1970-1974 1980-19ab",
  "19b0-19c9 1a20-1a54 1aa7 3031-3035 30fc a9e0-a9e4 a9e6-a9ef a9fa-a9fe aa60-aa76 aa7a aa7e-aaaf aab1 aab5-aab6",
  "aab9-aabd aac0 aac2 aadb-aadd ff70 11700-1171a 11740-11746"]

def spacedLetter : CodeRanges :=
  let letters := (((alphabetic.without (listed "ideographic")).without (scriptLetters "katakana")).without
    (scriptLetters "hiragana")).without wordExtend
  ((letters.without hebrewLetter).without unspacedLetter).union furtherWordLetter

def wordBreak? : String → Option CodeRanges
  | "cr" => some (these "d")
  | "lf" => some (these "a")
  | "newline" | "nl" => some (these "b-c 85 2028-2029")
  | "doublequote" | "dq" => some (these "22")
  | "singlequote" | "sq" => some (these "27")
  | "midletter" | "ml" => some (these "3a b7 387 55f 5f4 2027 fe13 fe55 ff1a")
  | "midnum" | "mn" => some (these "2c 3b 37e 589 60c-60d 66c 7f8 2044 fe50 fe54 ff0c ff1b")
  | "midnumlet" | "mb" => some (these "2e 2018-2019 2024 fe52 ff07 ff0e")
  | "zwj" => some zeroWidthJoiner
  | "regionalindicator" | "ri" => some (listed "regionalindicator")
  | "extend" => some wordExtend
  | "format" | "fo" =>
    some ((((ofCategories ["Cf"]).without numberMark).without (these "70f 200b-200d")).without graphemeExtend)
  | "katakana" | "ka" => some ((scriptLetters "katakana").union (these "3031-3035 309b-309c 30a0 30fc ff70"))
  | "hebrewletter" | "hl" => some hebrewLetter
  | "numeric" | "nu" => some (((ofCategories ["Nd"]).union numberMark).union (these "66b 19da"))
  | "extendnumlet" | "ex" => some ((ofCategories ["Pc"]).union (these "202f"))
  | "wsegspace" => some ((ofCategories ["Zs"]).without (these "a0 2007 202f"))
  | "aletter" | "le" => some spacedLetter
  | _ => none

def sentenceExtend : CodeRanges := (graphemeExtend.union (ofCategories ["Mc"])).union zeroWidthJoiner

def sentenceLower : CodeRanges := lowercase.without (these "345 10d0-10fa 10fd-10ff")

def sentenceUpper : CodeRanges :=
  (uppercase.union (ofCategories ["Lt"])).without (these "1c90-1cba 1cbd-1cbf")

def sentenceBreak? : String → Option CodeRanges
  | "cr" => some (these "d")
  | "lf" => some (these "a")
  | "sep" | "se" => some (these "85 2028-2029")
  | "sp" => some (whiteSpace.without (these "a d 85 2028-2029"))
  | "aterm" | "at" => some (these "2e 2024 fe52 ff0e")
  | "sterm" | "st" => some ((listed "sentenceterminal").without (these "2e 2024 fe52 ff0e"))
  | "scontinue" | "sc" =>
    some (these ("2c-2d 3a-3b 37e 55d 60c-60d 7f8 1802 1808 2013-2014 3001 fe10-fe11 fe13-fe14 fe31-fe32 fe50-fe51 " ++
      "fe54-fe55 fe58 fe63 ff0c-ff0d ff1a-ff1b ff64"))
  | "extend" | "ex" => some sentenceExtend
  | "format" | "fo" =>
    some ((((ofCategories ["Cf"]).without numberMark).without zeroWidthJoiner).without graphemeExtend)
  | "lower" | "lo" => some sentenceLower
  | "upper" | "up" => some sentenceUpper
  | "oletter" | "le" =>
    some ((((alphabetic.without sentenceLower).without sentenceUpper).without sentenceExtend).union (these "5f3"))
  | "numeric" | "nu" => some (((ofCategories ["Nd"]).union numberMark).union (these "66b-66c 19da"))
  | "close" | "cl" =>
    some ((((ofCategories ["Ps", "Pe", "Pi", "Pf"]).union (listed "quotationmark")).union
      (these "275b-2760 2e00-2e01 2e06-2e08 2e0b 1f676-1f678")).without (these "ff02 ff07"))
  | _ => none

end Lexicon.Text.Unicode

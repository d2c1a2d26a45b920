import SeriesReplica.Unicode.Property
import SeriesReplica.Unicode.Script

/-!
Values of the three properties that cut text apart: into characters as readers see them, into
words and into sentences. They follow from the other properties, with the exceptions the standard
lists.
-/
namespace SeriesReplica.Unicode.Segment

/-- Signs in front of a syllable, number marks apart. -/
private def otherPrepend : CharSet :=
  ⟨[(0xD4E, 0xD4E), (0x111C2, 0x111C3), (0x1193F, 0x1193F), (0x11941, 0x11941), (0x11A3A, 0x11A3A),
    (0x11A84, 0x11A89), (0x11D46, 0x11D46), (0x11F02, 0x11F02)]⟩

/-- Spacing marks that stand on their own. -/
private def standingMark : CharSet := Run.readRanges
  "4139-4140 4152 4194-4196 4199-4205 4227 4231-4236 4239 4250-4252 6753 6755-6756 43643 43645
  71456-71457"

/-- Vowels that follow a character like spacing marks. -/
private def followingVowel : CharSet :=
  ⟨[(0xE33, 0xE33), (0xEB3, 0xEB3)]⟩

private def katakana : CharSet := Run.readRanges
  "12337-12341 12443-12444 12448-12538 12540-12543 12784-12799 13008-13054 13056-13143 65382-65437
  110576-110579 110581-110587 110589-110590 110592 110880-110882 110933 110948-110951"

private def hebrewLetter : CharSet := Run.readRanges
  "1488-1514 1519-1522 64285 64287-64296 64298-64310 64312-64316 64318 64320-64321 64323-64324
  64326-64335"

/-- Symbols that count as letters of a word. -/
private def letterLike : CharSet := Run.readRanges
  "706-709 722-727 734-735 741-747 749 751-767 1370-1372 1374 1418 1523 42760-42774 42784-42785
  42889-42890 43867"

/-- Letters of scripts that put no blanks between words. -/
private def unspaced : CharSet := Run.readRanges
  "3585-3632 3634-3635 3648-3654 3713-3714 3716 3718-3722 3724-3747 3749 3751-3760 3762-3763 3773
  3776-3780 3782 3804-3807 4096-4138 4159 4176-4181 4186-4189 4193 4197-4198 4206-4208 4213-4225
  4238 6016-6067 6103 6108 6480-6509 6512-6516 6528-6571 6576-6601 6688-6740 6823 43488-43492
  43494-43503 43514-43518 43616-43638 43642 43646-43695 43697 43701-43702 43705-43709 43712 43714
  43739-43741 71424-71450 71488-71494"

private def midLetter : CharSet := Run.readRanges
  "58 183 903 1375 1524 8231 65043 65109 65306"

private def midNumber : CharSet := Run.readRanges
  "44 59 894 1417 1548-1549 1644 2040 8260 65040 65044 65104 65108 65292 65307"

private def midBoth : CharSet :=
  ⟨[(0x2E, 0x2E), (0x2018, 0x2019), (0x2024, 0x2024), (0xFE52, 0xFE52), (0xFF07, 0xFF07),
    (0xFF0E, 0xFF0E)]⟩

private def wordBlank : CharSet :=
  ⟨[(0x20, 0x20), (0x1680, 0x1680), (0x2000, 0x2006), (0x2008, 0x200A), (0x205F, 0x205F),
    (0x3000, 0x3000)]⟩

/-- Quotes that close a sentence, brackets and paired quotes apart. -/
private def otherClose : CharSet :=
  ⟨[(0x22, 0x22), (0x27, 0x27), (0x275B, 0x2760), (0x2E00, 0x2E01), (0x2E06, 0x2E08),
    (0x2E0B, 0x2E0B), (0x1F676, 0x1F678)]⟩

private def sentenceDot : CharSet :=
  ⟨[(0x2E, 0x2E), (0x2024, 0x2024), (0xFE52, 0xFE52), (0xFF0E, 0xFF0E)]⟩

private def continuing : CharSet := Run.readRanges
  "44-45 58 1373 1548-1549 2040 6146 6152 8211-8212 12289 65040-65041 65043 65073-65074
  65104-65105 65109 65112 65123 65292-65293 65306 65380"

private def ofChars (cs : List Char) : CharSet := ⟨cs.map fun c => (c.toNat, c.toNat)⟩

private def joiner : CharSet := ofChars ['\u200d']

/-- First consonants, vowels and last consonants of Korean syllables. -/
private def leading : CharSet := ⟨[(0x1100, 0x115F), (0xA960, 0xA97C)]⟩
private def vowel : CharSet := ⟨[(0x1160, 0x11A7), (0xD7B0, 0xD7C6)]⟩
private def trailing : CharSet := ⟨[(0x11A8, 0x11FF), (0xD7CB, 0xD7FB)]⟩

/-- Korean syllables that end with their vowel: every 28th. -/
private def openSyllable : CharSet :=
  ⟨(List.range 399).map fun i => (0xAC00 + 28 * i, 0xAC00 + 28 * i)⟩

private def closedSyllable : CharSet := CharSet.diff ⟨[(0xAC00, 0xD7A3)]⟩ openSyllable

private def control : CharSet :=
  let ignorable := (Category.set ["Cn"]).inter Property.defaultIgnorable
  let controls := (Category.set ["Zl", "Zp", "Cc", "Cf"]).union ignorable
  let others := ((ofChars ['\r', '\n']).union joiner).union Listed.prependedMark
  (controls.diff others).diff Property.graphemeExtend

private def spacingMark : CharSet :=
  (((Category.set ["Mc"]).diff Property.graphemeExtend).diff standingMark).union followingVowel

/-- What extends the character before it, with a value of its own in all three. -/
private def extend : CharSet := Property.graphemeExtend.union Listed.emojiModifier

/-- The characters of a place within a cluster of characters. -/
def cluster? : String → Option CharSet
  | "cr" => some (ofChars ['\r'])
  | "lf" => some (ofChars ['\n'])
  | "cn" | "control" => some control
  | "ex" | "extend" => some extend
  | "pp" | "prepend" => some (Listed.prependedMark.union otherPrepend)
  | "ri" | "regionalindicator" => some Listed.regionalIndicator
  | "sm" | "spacingmark" => some spacingMark
  | "l" => some leading
  | "v" => some vowel
  | "t" => some trailing
  | "lv" => some openSyllable
  | "lvt" => some closedSyllable
  | "zwj" => some joiner
  | _ => none

private def wordExtend : CharSet := extend.union (Category.set ["Mc"])

private def wordLetter : CharSet :=
  let others := [Property.ideographic, katakana, Script.set "Hira", wordExtend, hebrewLetter,
    unspaced]
  (others.foldl CharSet.diff Property.alphabetic).union letterLike

private def wordFormat : CharSet :=
  ((Category.set ["Cf"]).diff (ofChars ['\u200b', '\u200c', '\u200d'])).diff wordExtend

private def numeric : CharSet := (Category.set ["Nd"]).union (ofChars ['\u066b'])

/-- The characters of a place within a word. -/
def word? : String → Option CharSet
  | "cr" => some (ofChars ['\r'])
  | "lf" => some (ofChars ['\n'])
  | "nl" | "newline" => some ⟨[(0x0B, 0x0C), (0x85, 0x85), (0x2028, 0x2029)]⟩
  | "le" | "aletter" => some wordLetter
  | "hl" | "hebrewletter" => some hebrewLetter
  | "ka" | "katakana" => some katakana
  | "extend" => some wordExtend
  | "fo" | "format" => some wordFormat
  | "ri" | "regionalindicator" => some Listed.regionalIndicator
  | "zwj" => some joiner
  | "sq" | "singlequote" => some ⟨[(0x27, 0x27)]⟩
  | "dq" | "doublequote" => some ⟨[(0x22, 0x22)]⟩
  | "ml" | "midletter" => some midLetter
  | "mn" | "midnum" => some midNumber
  | "mb" | "midnumlet" => some midBoth
  | "nu" | "numeric" => some numeric
  | "ex" | "extendnumlet" => some ((Category.set ["Pc"]).union (ofChars ['\u202f']))
  | "wsegspace" => some wordBlank
  | _ => none

/-- Georgian letters have case, but not for sentences. -/
private def georgian : CharSet :=
  ⟨[(0x10D0, 0x10FA), (0x10FD, 0x10FF), (0x1C90, 0x1CBA), (0x1CBD, 0x1CBF)]⟩

private def sentenceExtend : CharSet :=
  (Property.graphemeExtend.union (Category.set ["Mc"])).union joiner

private def sentenceLower : CharSet :=
  (Property.lowercase.diff Property.graphemeExtend).diff georgian

private def sentenceUpper : CharSet :=
  (Property.uppercase.union (Category.set ["Lt"])).diff georgian

private def sentenceLetter : CharSet :=
  let others := [sentenceLower, sentenceUpper, sentenceExtend]
  (others.foldl CharSet.diff Property.alphabetic).union (ofChars ['\u05f3'])

private def separator : CharSet := ⟨[(0x85, 0x85), (0x2028, 0x2029)]⟩

/-- The characters of a place within a sentence. -/
def sentence? : String → Option CharSet
  | "cr" => some (ofChars ['\r'])
  | "lf" => some (ofChars ['\n'])
  | "ex" | "extend" => some sentenceExtend
  | "se" | "sep" => some separator
  | "fo" | "format" =>
    some (((Category.set ["Cf"]).diff Property.graphemeExtend).diff joiner)
  | "sp" => some ((Property.whiteSpace.diff separator).diff (ofChars ['\r', '\n']))
  | "lo" | "lower" => some sentenceLower
  | "up" | "upper" => some sentenceUpper
  | "le" | "oletter" => some sentenceLetter
  | "nu" | "numeric" => some (numeric.union (ofChars ['\u066c']))
  | "at" | "aterm" => some sentenceDot
  | "st" | "sterm" => some (Listed.sentenceTerminal.diff sentenceDot)
  | "cl" | "close" => some ((Category.set ["Ps", "Pe", "Pi", "Pf"]).union otherClose)
  | "sc" | "scontinue" => some continuing
  | _ => none

end SeriesReplica.Unicode.Segment

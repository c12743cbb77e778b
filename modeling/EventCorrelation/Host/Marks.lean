import EventCorrelation.Text.Visible

/-!
# Marks in names

Marks belong to the character in front of them, so that no label of a name begins with one. Some
merge with that character: the two are spelled as one character.
-/

namespace EventCorrelation.Host

/-- The ranges of marks that take room of their own. -/
def spacingMarkRanges : Array (Nat × Nat) := #[
  (0x903, 0x903), (0x93B, 0x93B), (0x93E, 0x94F), (0x982, 0x983), (0x9BF, 0x9CC), (0xA03, 0xA03),
  (0xA3E, 0xA40), (0xA83, 0xA83), (0xABE, 0xACC), (0xB02, 0xB03), (0xB40, 0xB4C), (0xBBF, 0xBCC),
  (0xC01, 0xC03), (0xC41, 0xC44), (0xC82, 0xC83), (0xCBE, 0xCC4), (0xCF3, 0xD03), (0xD3F, 0xD4C),
  (0xD82, 0xD83), (0xDD0, 0xDDE), (0xDF2, 0xDF3), (0xF3E, 0xF3F), (0xF7F, 0xF7F), (0x102B, 0x103C),
  (0x1056, 0x1057), (0x1062, 0x1064), (0x1067, 0x106D), (0x1083, 0x108C), (0x108F, 0x108F),
  (0x109A, 0x109C), (0x17B6, 0x17C8), (0x1923, 0x1938), (0x1A19, 0x1A1A), (0x1A55, 0x1A72),
  (0x1B04, 0x1B04), (0x1B3E, 0x1B41), (0x1B82, 0x1B82), (0x1BA1, 0x1BA7), (0x1BE7, 0x1BEE),
  (0x1C24, 0x1C35), (0x1CE1, 0x1CE1), (0x1CF7, 0x1CF7), (0xA823, 0xA827), (0xA880, 0xA881),
  (0xA8B4, 0xA8C3), (0xA952, 0xA952), (0xA983, 0xA983), (0xA9B4, 0xA9BF), (0xAA2F, 0xAA34),
  (0xAA4D, 0xAA4D), (0xAA7B, 0xAA7D), (0xAAEB, 0xAAEF), (0xAAF5, 0xAAF5), (0xABE3, 0xABEA),
  (0xABEC, 0xABEC), (0x11000, 0x11002), (0x11082, 0x11082), (0x110B0, 0x110B8), (0x1112C, 0x1112C),
  (0x11145, 0x11146), (0x11182, 0x11182), (0x111B3, 0x111BF), (0x111CE, 0x111CE),
  (0x1122C, 0x11233), (0x112E0, 0x112E2), (0x11302, 0x11303), (0x1133F, 0x1134C),
  (0x11362, 0x11363), (0x113B9, 0x113CD), (0x11435, 0x11445), (0x114B1, 0x114C1),
  (0x115B0, 0x115BE), (0x11630, 0x1163E), (0x116AC, 0x116AF), (0x1171E, 0x11726),
  (0x1182C, 0x11838), (0x11931, 0x11938), (0x11940, 0x11940), (0x11942, 0x11942),
  (0x119D1, 0x119DF), (0x119E4, 0x119E4), (0x11A39, 0x11A39), (0x11A57, 0x11A58),
  (0x11A97, 0x11A97), (0x11B61, 0x11B67), (0x11C2F, 0x11C3E), (0x11CA9, 0x11CB4),
  (0x11D8A, 0x11D96), (0x11EF5, 0x11EF6), (0x11F03, 0x11F03), (0x11F34, 0x11F3F),
  (0x1612A, 0x1612C), (0x16F51, 0x16F87)]

/-- Marks, and the letters and symbols that each of them merges with. -/
def accents : Array (Nat × String) := #[
  (0x300, "aeinouwyâêôüăēōơưαεηιουωϊϋеиἀἁἐἑἠἡἰἱὀὁὐὑὠὡ"),
  (0x301, "acegiklmnoprsuwyzâåæçêïôõøüăēōũơưαεηιουωϊϋгкἀἁἐἑἠἡἰἱὀὁὐὑὠὡ"),
  (0x302, "aceghijosuwyzạẹọ"), (0x303, "aeinouvyâêôăơư"), (0x304, "aegiouyäæõöüǫȧȯαιυиуḷṛ"),
  (0x306, "aegiouȩαιυаежиуạ"), (0x307, "abcdefghmnoprstwxyzśšṣ"),
  (0x308, "aehiotuwxyõūιυаежзиоучыэіәө"), (0x309, "aeiouyâêôăơư"), (0x30A, "auwy"), (0x30B, "ouу"),
  (0x30C, "acdeghijklnorstuzüʒ"), (0x30F, "aeioruѵ"), (0x311, "aeioru"), (0x313, "αεηιορυω"),
  (0x314, "αεηιορυω"), (0x31B, "ou"), (0x323, "abdehiklmnorstuvwyzơư"), (0x324, "u"), (0x325, "a"),
  (0x326, "st"), (0x327, "cdeghklnrst"), (0x328, "aeiou"), (0x32D, "delntu"), (0x32E, "h"),
  (0x330, "eiu"), (0x331, "bdhklnrtz"), (0x338, "<=>←→↔⇐⇒⇔∃∈∋∣∥∼≃≅≈≍≡≤≥≲≳≶≷≺≻≼≽⊂⊃⊆⊇⊑⊒⊢⊨⊩⊫⊲⊳⊴⊵"),
  (0x342, "αηιυωϊϋἀἁἠἡἰἱὐὑὠὡ"), (0x3099, "うかきくけこさしすせそたちつてとはひふへほゝウカキクケコサシスセソタチツテトハヒフヘホワヰヱヲヽ"),
  (0x309A, "はひふへほハヒフヘホ")]

/-- Further pairs that merge: letters and signs, and the signs behind them. -/
def signPairs : Array (Nat × Nat) := #[
  (0x627, 0x653), (0x627, 0x654), (0x627, 0x655), (0x648, 0x654), (0x64A, 0x654), (0x6C1, 0x654),
  (0x6D2, 0x654), (0x6D5, 0x654), (0x928, 0x93C), (0x930, 0x93C), (0x933, 0x93C), (0x9C7, 0x9BE),
  (0x9C7, 0x9D7), (0xB47, 0xB3E), (0xB47, 0xB56), (0xB47, 0xB57), (0xB92, 0xBD7), (0xBC6, 0xBBE),
  (0xBC6, 0xBD7), (0xBC7, 0xBBE), (0xC46, 0xC56), (0xCBF, 0xCD5), (0xCC6, 0xCC2), (0xCC6, 0xCD5),
  (0xCC6, 0xCD6), (0xCCA, 0xCD5), (0xD46, 0xD3E), (0xD46, 0xD57), (0xD47, 0xD3E), (0xDD9, 0xDCA),
  (0xDD9, 0xDCF), (0xDD9, 0xDDF), (0xDDC, 0xDCA), (0x1025, 0x102E), (0x1B05, 0x1B35),
  (0x1B07, 0x1B35), (0x1B09, 0x1B35), (0x1B0B, 0x1B35), (0x1B0D, 0x1B35), (0x1B11, 0x1B35),
  (0x1B3A, 0x1B35), (0x1B3C, 0x1B35), (0x1B3E, 0x1B35), (0x1B3F, 0x1B35), (0x1B42, 0x1B35),
  (0x105D2, 0x307), (0x105DA, 0x307), (0x11099, 0x110BA), (0x1109B, 0x110BA), (0x110A5, 0x110BA),
  (0x11131, 0x11127), (0x11132, 0x11127), (0x11347, 0x1133E), (0x11347, 0x11357),
  (0x11382, 0x113C9), (0x11384, 0x113BB), (0x1138B, 0x113C2), (0x11390, 0x113C9),
  (0x113C2, 0x113B8), (0x113C2, 0x113C2), (0x113C2, 0x113C9), (0x114B9, 0x114B0),
  (0x114B9, 0x114BA), (0x114B9, 0x114BD), (0x115B8, 0x115AF), (0x115B9, 0x115AF),
  (0x11935, 0x11930), (0x1611E, 0x1611E), (0x1611E, 0x1611F), (0x1611E, 0x16120),
  (0x1611E, 0x16129), (0x16121, 0x1611F), (0x16121, 0x16120), (0x16122, 0x1611F),
  (0x16129, 0x1611F), (0x16D63, 0x16D67), (0x16D67, 0x16D67), (0x16D69, 0x16D67)]

/-- A mark that takes no room of its own. The joiner that keeps letters apart is none. -/
def isNonspacing (symbol : Char) : Bool :=
  Text.inRanges Text.attachingRanges symbol.toNat && symbol != '\u200C'

/-- Joiners change how the letters beside them are drawn. -/
def isJoiner (symbol : Char) : Bool :=
  symbol == '\u200C' || symbol == '\u200D'

def isMark (symbol : Char) : Bool :=
  isNonspacing symbol || Text.inRanges spacingMarkRanges symbol.toNat

/-- A leading consonant and a vowel of Hangul, or a syllable without a trailing consonant and such a
consonant. -/
def mergesToSyllable (first second : Nat) : Bool :=
  (0x1100 ≤ first && first < 0x1113 && 0x1161 ≤ second && second < 0x1176) ||
    (0xAC00 ≤ first && first < 0xD7A4 && (first - 0xAC00) % 28 == 0 &&
      0x11A8 ≤ second && second < 0x11C3)

/-- The two characters are spelled as one. -/
def merge (first second : Char) : Bool :=
  mergesToSyllable first.toNat second.toNat ||
    signPairs.contains (first.toNat, second.toNat) ||
    accents.any fun (mark, bases) => mark == second.toNat && bases.toList.contains first

/-- No two neighbours merge. -/
def isComposed : List Char → Bool
  | first :: second :: rest => !merge first second && isComposed (second :: rest)
  | _ => true

end EventCorrelation.Host

import Redaction.Text.CharacterName.Letters
import Redaction.Text.CharacterName.Pictographs
import Redaction.Text.CharacterName.Symbols
import Redaction.Text.Ranges

/-!
# Characters by name

Characters have a name, and some of them, controls above all, have others beside it. Names are found in
letters of either case, but for the two large scripts whose names follow a rule.

* `CharacterName.code?`: the code point that has a name. It knows the names of the tables beside this file
  and those that follow a rule.
-/

namespace Redaction.Text.CharacterName

/-- Further names of code points, with commas between them. -/
def furtherNames : List (Nat × String) := [
  (0x0, "NULL,NUL"), (0x1, "START OF HEADING,SOH"), (0x2, "START OF TEXT,STX"),
  (0x3, "END OF TEXT,ETX"), (0x4, "END OF TRANSMISSION,EOT"), (0x5, "ENQUIRY,ENQ"),
  (0x6, "ACKNOWLEDGE,ACK"), (0x7, "ALERT,BEL"), (0x8, "BACKSPACE,BS"),
  (0x9, "CHARACTER TABULATION,HORIZONTAL TABULATION,HT,TAB"),
  (0xA, "LINE FEED,NEW LINE,END OF LINE,LF,NL,EOL"),
  (0xB, "LINE TABULATION,VERTICAL TABULATION,VT"), (0xC, "FORM FEED,FF"),
  (0xD, "CARRIAGE RETURN,CR"), (0xE, "SHIFT OUT,LOCKING-SHIFT ONE,SO"),
  (0xF, "SHIFT IN,LOCKING-SHIFT ZERO,SI"), (0x10, "DATA LINK ESCAPE,DLE"),
  (0x11, "DEVICE CONTROL ONE,DC1"), (0x12, "DEVICE CONTROL TWO,DC2"),
  (0x13, "DEVICE CONTROL THREE,DC3"), (0x14, "DEVICE CONTROL FOUR,DC4"),
  (0x15, "NEGATIVE ACKNOWLEDGE,NAK"), (0x16, "SYNCHRONOUS IDLE,SYN"),
  (0x17, "END OF TRANSMISSION BLOCK,ETB"), (0x18, "CANCEL,CAN"), (0x19, "END OF MEDIUM,EOM"),
  (0x1A, "SUBSTITUTE,SUB"), (0x1B, "ESCAPE,ESC"),
  (0x1C, "INFORMATION SEPARATOR FOUR,FILE SEPARATOR,FS"),
  (0x1D, "INFORMATION SEPARATOR THREE,GROUP SEPARATOR,GS"),
  (0x1E, "INFORMATION SEPARATOR TWO,RECORD SEPARATOR,RS"),
  (0x1F, "INFORMATION SEPARATOR ONE,UNIT SEPARATOR,US"), (0x20, "SP"), (0x7F, "DELETE,DEL"),
  (0x80, "PADDING CHARACTER,PAD"), (0x81, "HIGH OCTET PRESET,HOP"),
  (0x82, "BREAK PERMITTED HERE,BPH"), (0x83, "NO BREAK HERE,NBH"), (0x84, "INDEX,IND"),
  (0x85, "NEXT LINE,NEL"), (0x86, "START OF SELECTED AREA,SSA"),
  (0x87, "END OF SELECTED AREA,ESA"),
  (0x88, "CHARACTER TABULATION SET,HORIZONTAL TABULATION SET,HTS"),
  (0x89, "CHARACTER TABULATION WITH JUSTIFICATION,HORIZONTAL TABULATION WITH JUSTIFICATION,HTJ"),
  (0x8A, "LINE TABULATION SET,VERTICAL TABULATION SET,VTS"),
  (0x8B, "PARTIAL LINE FORWARD,PARTIAL LINE DOWN,PLD"),
  (0x8C, "PARTIAL LINE BACKWARD,PARTIAL LINE UP,PLU"),
  (0x8D, "REVERSE LINE FEED,REVERSE INDEX,RI"), (0x8E, "SINGLE SHIFT TWO,SINGLE-SHIFT-2,SS2"),
  (0x8F, "SINGLE SHIFT THREE,SINGLE-SHIFT-3,SS3"), (0x90, "DEVICE CONTROL STRING,DCS"),
  (0x91, "PRIVATE USE ONE,PRIVATE USE-1,PU1"), (0x92, "PRIVATE USE TWO,PRIVATE USE-2,PU2"),
  (0x93, "SET TRANSMIT STATE,STS"), (0x94, "CANCEL CHARACTER,CCH"), (0x95, "MESSAGE WAITING,MW"),
  (0x96, "START OF GUARDED AREA,START OF PROTECTED AREA,SPA"),
  (0x97, "END OF GUARDED AREA,END OF PROTECTED AREA,EPA"), (0x98, "START OF STRING,SOS"),
  (0x99, "SINGLE GRAPHIC CHARACTER INTRODUCER,SGC"), (0x9A, "SINGLE CHARACTER INTRODUCER,SCI"),
  (0x9B, "CONTROL SEQUENCE INTRODUCER,CSI"), (0x9C, "STRING TERMINATOR,ST"),
  (0x9D, "OPERATING SYSTEM COMMAND,OSC"), (0x9E, "PRIVACY MESSAGE,PM"),
  (0x9F, "APPLICATION PROGRAM COMMAND,APC"), (0xA0, "NBSP"), (0xAD, "SHY"),
  (0x1A2, "LATIN CAPITAL LETTER GHA"), (0x1A3, "LATIN SMALL LETTER GHA"), (0x34F, "CGJ"),
  (0x61C, "ALM"), (0x180B, "FVS1"), (0x200B, "ZWSP"), (0x200C, "ZWNJ"), (0x200D, "ZWJ"),
  (0x200E, "LRM"), (0x200F, "RLM"), (0x202A, "LRE"), (0x202B, "RLE"), (0x202C, "PDF"),
  (0x202D, "LRO"), (0x202E, "RLO"), (0x202F, "NNBSP"), (0x205F, "MMSP"), (0x2060, "WJ"),
  (0x2066, "LRI"), (0x2067, "RLI"), (0x2068, "FSI"), (0x2069, "PDI"),
  (0x2118, "WEIERSTRASS ELLIPTIC FUNCTION"), (0x2448, "MICR ON US SYMBOL"),
  (0x2449, "MICR DASH SYMBOL"),
  (0xFE18, "PRESENTATION FORM FOR VERTICAL RIGHT WHITE LENTICULAR BRACKET"),
  (0xFEFF, "BYTE ORDER MARK,BOM,ZWNBSP")]

/-- The code point that has a further name. -/
def ofFurtherName? (name : String) : Option Nat :=
  (furtherNames.find? fun (_, names) => (names.splitOn ",").contains name).map (·.1)

/-! ## Names that follow a rule -/

/-- The first letters of Hangul syllables. -/
def leads : List String :=
  "G,GG,N,D,DD,R,M,B,BB,S,SS,,J,JJ,C,K,T,P,H".splitOn ","

/-- The vowels of Hangul syllables. -/
def vowels : List String :=
  "A,AE,YA,YAE,EO,E,YEO,YE,O,WA,WAE,OE,YO,U,WEO,WE,WI,YU,EU,YI,I".splitOn ","

/-- The last letters of Hangul syllables. -/
def tails : List String :=
  ",G,GG,GS,N,NJ,NH,D,L,LG,LM,LB,LS,LT,LP,LH,M,B,BS,S,SS,NG,J,C,K,T,P,H".splitOn ","

/-- A letter that spells a vowel. -/
def spellsVowel (c : Char) : Bool :=
  ['A', 'E', 'I', 'O', 'U', 'W', 'Y'].contains c

/-- The Hangul syllable with a spelling; all combinations of the three parts stand in a row. -/
def ofSyllable? (spelling : List Char) : Option Nat := do
  let afterLead := spelling.dropWhile (!spellsVowel ·)
  let lead ← leads.idxOf? (String.ofList (spelling.takeWhile (!spellsVowel ·)))
  let vowel ← vowels.idxOf? (String.ofList (afterLead.takeWhile spellsVowel))
  let tail ← tails.idxOf? (String.ofList (afterLead.dropWhile spellsVowel))
  return 0xAC00 + (lead * vowels.length + vowel) * tails.length + tail

/-- The ideographs that are named by their code points. -/
def ideographs : Ranges := #[
  (0x3400, 0x4DBF), (0x4E00, 0x9FFF), (0x20000, 0x2A6DF), (0x2A700, 0x2B738), (0x2B740, 0x2B81D),
  (0x2B820, 0x2CEA1), (0x2CEB0, 0x2EBE0), (0x30000, 0x3134A)]

/-- The value of an upper-case hexadecimal digit. -/
def hexValue? (c : Char) : Option Nat :=
  if '0' ≤ c && c ≤ '9' then some (c.toNat - 0x30)
  else if 'A' ≤ c && c ≤ 'F' then some (c.toNat - 0x37)
  else none

/-- The ideograph whose code point is written in four or five hexadecimal digits. -/
def ofIdeograph? (digits : List Char) : Option Nat := do
  if digits.length < 4 || 5 < digits.length then none
  let values ← digits.mapM hexValue?
  let code := values.foldl (fun value digit => 0x10 * value + digit) 0
  if ideographs.contains code then some code else none

/-- What follows a beginning. -/
def after? (beginning : String) (name : List Char) : Option (List Char) :=
  if beginning.toList.isPrefixOf name then some (name.drop beginning.length) else none

/-- The code point of a name that follows a rule. -/
def ofRule? (name : List Char) : Option Nat :=
  match after? "HANGUL SYLLABLE " name, after? "CJK UNIFIED IDEOGRAPH-" name with
  | some spelling, _ => ofSyllable? spelling
  | none, some digits => ofIdeograph? digits
  | none, none => none

/-! ## All names -/

/-- An ASCII letter in upper case; other characters stay. -/
def asciiUpper (c : Char) : Char :=
  if 'a' ≤ c && c ≤ 'z' then Char.ofNat (c.toNat - 0x20) else c

/-- The code point with a name. -/
def code? (name : String) : Option Nat :=
  let upper := String.ofList (name.toList.map asciiUpper)
  match ofRule? name.toList with
  | some code => some code
  | none =>
    match (letters ++ symbols ++ pictographs).findSome? (·.code? upper) with
    | some code => some code
    | none => ofFurtherName? upper

end Redaction.Text.CharacterName

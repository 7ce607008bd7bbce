import GirDoc.Text.CharacterName.Letters
import GirDoc.Text.CharacterName.Signs
import GirDoc.Text.Split

/-!
# Names of characters

The character that has a name. Ideographs are named by their numbers and Korean syllables by their letters;
other characters are found in tables, and some have further names. Where a name stands in a table, its letters
may be small.
-/

namespace GirDoc.Text.CharacterName

/-! ## Ideographs -/

/-- The first and last numbers of the runs of ideographs. -/
def ideographs : List (Nat × Nat) :=
  [(0x3400, 0x4DBF), (0x4E00, 0x9FFF), (0x20000, 0x2A6DF), (0x2A700, 0x2B738), (0x2B740, 0x2B81D),
   (0x2B820, 0x2CEA1), (0x2CEB0, 0x2EBE0), (0x30000, 0x3134A)]

/-- The value of a hexadecimal digit that is no small letter. -/
def digit? (c : Char) : Option Nat :=
  if c.isDigit then some (c.toNat - 0x30)
  else if 'A' ≤ c && c ≤ 'F' then some (c.toNat - 0x37)
  else none

/-- The ideograph whose number is given in four or five digits. -/
def ideograph? (digits : List Char) : Option Char := do
  unless digits.length = 4 || digits.length = 5 do none
  let n := (← digits.mapM digit?).foldl (fun n d => n * 16 + d) 0
  if ideographs.any fun (first, last) => first ≤ n && n ≤ last then some (Char.ofNat n) else none

/-! ## Syllables -/

/-- The first letters of syllables. -/
def initials : List String :=
  ["G", "GG", "N", "D", "DD", "R", "M", "B", "BB", "S", "SS", "", "J", "JJ", "C", "K", "T", "P", "H"]

/-- The vowels of syllables. -/
def vowels : List String :=
  ["A", "AE", "YA", "YAE", "EO", "E", "YEO", "YE", "O", "WA", "WAE", "OE", "YO", "U", "WEO", "WE", "WI", "YU",
   "EU", "YI", "I"]

/-- The last letters of syllables. -/
def finals : List String :=
  ["", "G", "GG", "GS", "N", "NJ", "NH", "D", "L", "LG", "LM", "LB", "LS", "LT", "LP", "LH", "M", "B", "BS",
   "S", "SS", "NG", "J", "C", "K", "T", "P", "H"]

/-- The place of the longest of some words with which a text begins, and what follows it. -/
def longest? (words : List String) (cs : List Char) : Option (Nat × List Char) :=
  let begun := words.zipIdx.filter fun (w, _) => w.toList.isPrefixOf cs
  match begun.mergeSort fun a b => decide (b.1.length ≤ a.1.length) with
  | [] => none
  | (w, i) :: _ => some (i, cs.drop w.length)

/-- The syllable with the given letters. -/
def syllable? (cs : List Char) : Option Char := do
  let (initial, cs) ← longest? initials cs
  let (vowel, cs) ← longest? vowels cs
  let (final, cs) ← longest? finals cs
  if cs.isEmpty then some (Char.ofNat (0xAC00 + (initial * 21 + vowel) * 28 + final)) else none

/-! ## Tables -/

/-- Further names, by the numbers of their characters. -/
def furtherNames : List (Nat × String) :=
  [(0x00, "NULL;NUL"), (0x01, "START OF HEADING;SOH"), (0x02, "START OF TEXT;STX"),
   (0x03, "END OF TEXT;ETX"), (0x04, "END OF TRANSMISSION;EOT"), (0x05, "ENQUIRY;ENQ"),
   (0x06, "ACKNOWLEDGE;ACK"), (0x07, "ALERT;BEL"), (0x08, "BACKSPACE;BS"),
   (0x09, "CHARACTER TABULATION;HORIZONTAL TABULATION;HT;TAB"),
   (0x0A, "LINE FEED;NEW LINE;END OF LINE;LF;NL;EOL"), (0x0B, "LINE TABULATION;VERTICAL TABULATION;VT"),
   (0x0C, "FORM FEED;FF"), (0x0D, "CARRIAGE RETURN;CR"), (0x0E, "SHIFT OUT;LOCKING-SHIFT ONE;SO"),
   (0x0F, "SHIFT IN;LOCKING-SHIFT ZERO;SI"), (0x10, "DATA LINK ESCAPE;DLE"),
   (0x11, "DEVICE CONTROL ONE;DC1"), (0x12, "DEVICE CONTROL TWO;DC2"), (0x13, "DEVICE CONTROL THREE;DC3"),
   (0x14, "DEVICE CONTROL FOUR;DC4"), (0x15, "NEGATIVE ACKNOWLEDGE;NAK"), (0x16, "SYNCHRONOUS IDLE;SYN"),
   (0x17, "END OF TRANSMISSION BLOCK;ETB"), (0x18, "CANCEL;CAN"), (0x19, "END OF MEDIUM;EOM"),
   (0x1A, "SUBSTITUTE;SUB"), (0x1B, "ESCAPE;ESC"), (0x1C, "INFORMATION SEPARATOR FOUR;FILE SEPARATOR;FS"),
   (0x1D, "INFORMATION SEPARATOR THREE;GROUP SEPARATOR;GS"),
   (0x1E, "INFORMATION SEPARATOR TWO;RECORD SEPARATOR;RS"),
   (0x1F, "INFORMATION SEPARATOR ONE;UNIT SEPARATOR;US"), (0x20, "SP"), (0x7F, "DELETE;DEL"),
   (0x80, "PADDING CHARACTER;PAD"), (0x81, "HIGH OCTET PRESET;HOP"), (0x82, "BREAK PERMITTED HERE;BPH"),
   (0x83, "NO BREAK HERE;NBH"), (0x84, "INDEX;IND"), (0x85, "NEXT LINE;NEL"),
   (0x86, "START OF SELECTED AREA;SSA"), (0x87, "END OF SELECTED AREA;ESA"),
   (0x88, "CHARACTER TABULATION SET;HORIZONTAL TABULATION SET;HTS"),
   (0x89, "CHARACTER TABULATION WITH JUSTIFICATION;HORIZONTAL TABULATION WITH JUSTIFICATION;HTJ"),
   (0x8A, "LINE TABULATION SET;VERTICAL TABULATION SET;VTS"),
   (0x8B, "PARTIAL LINE FORWARD;PARTIAL LINE DOWN;PLD"),
   (0x8C, "PARTIAL LINE BACKWARD;PARTIAL LINE UP;PLU"), (0x8D, "REVERSE LINE FEED;REVERSE INDEX;RI"),
   (0x8E, "SINGLE SHIFT TWO;SINGLE-SHIFT-2;SS2"), (0x8F, "SINGLE SHIFT THREE;SINGLE-SHIFT-3;SS3"),
   (0x90, "DEVICE CONTROL STRING;DCS"), (0x91, "PRIVATE USE ONE;PRIVATE USE-1;PU1"),
   (0x92, "PRIVATE USE TWO;PRIVATE USE-2;PU2"), (0x93, "SET TRANSMIT STATE;STS"),
   (0x94, "CANCEL CHARACTER;CCH"), (0x95, "MESSAGE WAITING;MW"),
   (0x96, "START OF GUARDED AREA;START OF PROTECTED AREA;SPA"),
   (0x97, "END OF GUARDED AREA;END OF PROTECTED AREA;EPA"), (0x98, "START OF STRING;SOS"),
   (0x99, "SINGLE GRAPHIC CHARACTER INTRODUCER;SGC"), (0x9A, "SINGLE CHARACTER INTRODUCER;SCI"),
   (0x9B, "CONTROL SEQUENCE INTRODUCER;CSI"), (0x9C, "STRING TERMINATOR;ST"),
   (0x9D, "OPERATING SYSTEM COMMAND;OSC"), (0x9E, "PRIVACY MESSAGE;PM"),
   (0x9F, "APPLICATION PROGRAM COMMAND;APC"), (0xA0, "NBSP"), (0xAD, "SHY"),
   (0x1A2, "LATIN CAPITAL LETTER GHA"), (0x1A3, "LATIN SMALL LETTER GHA"), (0x34F, "CGJ"),
   (0x200B, "ZWSP"), (0x200C, "ZWNJ"), (0x200D, "ZWJ"), (0x200E, "LRM"), (0x200F, "RLM"), (0x202A, "LRE"),
   (0x202B, "RLE"), (0x202C, "PDF"), (0x202D, "LRO"), (0x202E, "RLO"), (0x202F, "NNBSP"),
   (0x205F, "MMSP"), (0x2060, "WJ"), (0x2066, "LRI"), (0x2067, "RLI"), (0x2068, "FSI"), (0x2069, "PDI"),
   (0x2118, "WEIERSTRASS ELLIPTIC FUNCTION"), (0x2448, "MICR ON US SYMBOL"), (0x2449, "MICR DASH SYMBOL"),
   (0xFEFF, "BYTE ORDER MARK;BOM;ZWNBSP")]

/-- The words that small letters stand for in a table. -/
def frequentWords : List (String × String) :=
  [("a", "ARROW"), ("b", "BLACK"), ("c", "CAPITAL"), ("d", "DOUBLE"), ("g", "SIGN"), ("h", "HEAVY"),
   ("i", "WHITE"), ("k", "STROKE"), ("l", "LEFT"), ("m", "MARK"), ("o", "HORIZONTAL"), ("r", "RIGHT"),
   ("s", "SMALL"), ("t", "LETTER"), ("v", "VERTICAL"), ("w", "WITH"), ("x", "RIGHTWARDS"), ("y", "SYMBOL")]

/-- The words of a name in a table. A digit stands for so many words of the name before it; `before` are the
words of that name from the same place on. -/
def fullWords (before : List String) : List String → List String
  | [] => []
  | word :: rest =>
    match word.toNat? with
    | some count => before.take count ++ fullWords (before.drop count) rest
    | none => (frequentWords.lookup word).getD word :: fullWords (before.drop 1) rest

/-- The names in a table; `before` are the words of the name before them. -/
def fullNames (before : List String) : List String → List String
  | [] => []
  | name :: rest =>
    let words := fullWords before (splitAll ' ' name)
    " ".intercalate words :: fullNames words rest

/-- The character with a name in a table. -/
def tabled? (name : String) : Option Char :=
  let inRun (run : Nat × List String) : Option Char :=
    ((fullNames [] (run.2.flatMap (splitAll ';'))).idxOf? name).map fun i => Char.ofNat (run.1 + i)
  let further (entry : Nat × String) : Option Char :=
    if (splitAll ';' entry.2).contains name then some (Char.ofNat entry.1) else none
  letters.findSome? inRun <|> signs.findSome? inRun <|> furtherNames.findSome? further

/-- What follows a lead of a text. -/
def behind? (lead : String) (cs : List Char) : Option (List Char) :=
  if lead.toList.isPrefixOf cs then some (cs.drop lead.length) else none

/-- The character that has a name. -/
def find? (name : List Char) : Option Char :=
  match behind? "HANGUL SYLLABLE " name, behind? "CJK UNIFIED IDEOGRAPH-" name with
  | some letters, _ => syllable? letters
  | none, some digits => ideograph? digits
  | none, none => if name.isEmpty then none else tabled? (String.ofList (name.map Char.toUpper))

end GirDoc.Text.CharacterName

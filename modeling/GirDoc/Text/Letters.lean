import GirDoc.Text.LetterContext

/-!
# Letter case

Upper and lower case of whole texts. Most letters map to one letter at a fixed distance inside a
range; some upper case forms take two or three letters.
-/

namespace GirDoc.Text

/-- Letters `first`, `first + step`, …, `last`, each mapped to the letter `shift` away. -/
structure CaseRange where
  first : Nat
  last : Nat
  step : Nat
  shift : Int

/-- Whether a code point is one of the letters of the range. -/
def CaseRange.covers (r : CaseRange) (n : Nat) : Bool :=
  r.first ≤ n && n ≤ r.last && (n - r.first) % r.step == 0

/-- Letters past ASCII that stand alone, each with its upper case form after it. -/
def upperPairs : String :=
  "µΜÿŸıIſSƀɃƈƇƌƋƒƑƕǶƙƘƚȽƞȠƨƧƭƬưƯƹƸƽƼƿǷǅǄǆǄǈǇǉǇǋǊǌǊǝƎǲǱǳǱǵǴȼȻɂɁɐⱯɑⱭɒⱰɓƁɔƆəƏɛƐɜꞫɠƓɡꞬɣƔɥꞍɦꞪɨƗɩƖɪꞮɫⱢɬꞭɯƜɱⱮ"
    ++ "ɲƝɵƟɽⱤʀƦʂꟅʃƩʇꞱʈƮʉɄʌɅʒƷʝꞲʞꞰ\u0345ΙͷͶάΆςΣόΌϐΒϑΘϕΦϖΠϗϏϰΚϱΡϲϹϳͿϵΕϸϷϻϺӏӀᲀВᲁДᲂОᲅТᲆЪᲇѢᲈꙊᵹꝽᵽⱣᶎꟆẛṠ\u1fbeΙῥῬⅎℲↄↃⱡⱠ"
    ++ "ⱥȺⱦȾⱳⱲⱶⱵⳳⳲⴧჇⴭჍꞌꞋꞔꟄꟑꟐꟶꟵꭓꞳ"

/-- Ranges of letters past ASCII with a one-letter upper case form. -/
def upperRanges : List CaseRange := [
  ⟨0xE0, 0xF6, 1, -32⟩, ⟨0xF8, 0xFE, 1, -32⟩, ⟨0x101, 0x12F, 2, -1⟩, ⟨0x133, 0x137, 2, -1⟩, ⟨0x13A, 0x148, 2, -1⟩,
  ⟨0x14B, 0x177, 2, -1⟩, ⟨0x17A, 0x17E, 2, -1⟩, ⟨0x183, 0x185, 2, -1⟩, ⟨0x1A1, 0x1A5, 2, -1⟩, ⟨0x1B4, 0x1B6, 2, -1⟩,
  ⟨0x1CE, 0x1DC, 2, -1⟩, ⟨0x1DF, 0x1EF, 2, -1⟩, ⟨0x1F9, 0x21F, 2, -1⟩, ⟨0x223, 0x233, 2, -1⟩,
  ⟨0x23F, 0x240, 1, 10815⟩, ⟨0x247, 0x24F, 2, -1⟩, ⟨0x256, 0x257, 1, -205⟩, ⟨0x28A, 0x28B, 1, -217⟩,
  ⟨0x371, 0x373, 2, -1⟩, ⟨0x37B, 0x37D, 1, 130⟩, ⟨0x3AD, 0x3AF, 1, -37⟩, ⟨0x3B1, 0x3C1, 1, -32⟩,
  ⟨0x3C3, 0x3CB, 1, -32⟩, ⟨0x3CD, 0x3CE, 1, -63⟩, ⟨0x3D9, 0x3EF, 2, -1⟩, ⟨0x430, 0x44F, 1, -32⟩,
  ⟨0x450, 0x45F, 1, -80⟩, ⟨0x461, 0x481, 2, -1⟩, ⟨0x48B, 0x4BF, 2, -1⟩, ⟨0x4C2, 0x4CE, 2, -1⟩,
  ⟨0x4D1, 0x52F, 2, -1⟩, ⟨0x561, 0x586, 1, -48⟩, ⟨0x10D0, 0x10FA, 1, 3008⟩, ⟨0x10FD, 0x10FF, 1, 3008⟩,
  ⟨0x13F8, 0x13FD, 1, -8⟩, ⟨0x1C83, 0x1C84, 1, -6242⟩, ⟨0x1E01, 0x1E95, 2, -1⟩, ⟨0x1EA1, 0x1EFF, 2, -1⟩,
  ⟨0x1F00, 0x1F07, 1, 8⟩, ⟨0x1F10, 0x1F15, 1, 8⟩, ⟨0x1F20, 0x1F27, 1, 8⟩, ⟨0x1F30, 0x1F37, 1, 8⟩,
  ⟨0x1F40, 0x1F45, 1, 8⟩, ⟨0x1F51, 0x1F57, 2, 8⟩, ⟨0x1F60, 0x1F67, 1, 8⟩, ⟨0x1F70, 0x1F71, 1, 74⟩,
  ⟨0x1F72, 0x1F75, 1, 86⟩, ⟨0x1F76, 0x1F77, 1, 100⟩, ⟨0x1F78, 0x1F79, 1, 128⟩, ⟨0x1F7A, 0x1F7B, 1, 112⟩,
  ⟨0x1F7C, 0x1F7D, 1, 126⟩, ⟨0x1FB0, 0x1FB1, 1, 8⟩, ⟨0x1FD0, 0x1FD1, 1, 8⟩, ⟨0x1FE0, 0x1FE1, 1, 8⟩,
  ⟨0x2170, 0x217F, 1, -16⟩, ⟨0x24D0, 0x24E9, 1, -26⟩, ⟨0x2C30, 0x2C5F, 1, -48⟩, ⟨0x2C68, 0x2C6C, 2, -1⟩,
  ⟨0x2C81, 0x2CE3, 2, -1⟩, ⟨0x2CEC, 0x2CEE, 2, -1⟩, ⟨0x2D00, 0x2D25, 1, -7264⟩, ⟨0xA641, 0xA66D, 2, -1⟩,
  ⟨0xA681, 0xA69B, 2, -1⟩, ⟨0xA723, 0xA72F, 2, -1⟩, ⟨0xA733, 0xA76F, 2, -1⟩, ⟨0xA77A, 0xA77C, 2, -1⟩,
  ⟨0xA77F, 0xA787, 2, -1⟩, ⟨0xA791, 0xA793, 2, -1⟩, ⟨0xA797, 0xA7A9, 2, -1⟩, ⟨0xA7B5, 0xA7C3, 2, -1⟩,
  ⟨0xA7C8, 0xA7CA, 2, -1⟩, ⟨0xA7D7, 0xA7D9, 2, -1⟩, ⟨0xAB70, 0xABBF, 1, -38864⟩, ⟨0xFF41, 0xFF5A, 1, -32⟩,
  ⟨0x10428, 0x1044F, 1, -40⟩, ⟨0x104D8, 0x104FB, 1, -40⟩, ⟨0x10597, 0x105A1, 1, -39⟩, ⟨0x105A3, 0x105B1, 1, -39⟩,
  ⟨0x105B3, 0x105B9, 1, -39⟩, ⟨0x105BB, 0x105BC, 1, -39⟩, ⟨0x10CC0, 0x10CF2, 1, -64⟩, ⟨0x118C0, 0x118DF, 1, -32⟩,
  ⟨0x16E60, 0x16E7F, 1, -32⟩, ⟨0x1E922, 0x1E943, 1, -34⟩
]

/-- Letters whose upper case form takes several letters. -/
def upperExpansions : List (Char × String) := [
  ('ß', "SS"), ('ŉ', "ʼN"), ('ǰ', "J\u030c"), ('ΐ', "Ι\u0308\u0301"), ('ΰ', "Υ\u0308\u0301"),
  ('և', "ԵՒ"), ('ẖ', "H\u0331"), ('ẗ', "T\u0308"), ('ẘ', "W\u030a"), ('ẙ', "Y\u030a"), ('ẚ', "Aʾ"),
  ('ὐ', "Υ\u0313"), ('ὒ', "Υ\u0313\u0300"), ('ὔ', "Υ\u0313\u0301"), ('ὖ', "Υ\u0313\u0342"),
  ('ᾀ', "ἈΙ"), ('ᾁ', "ἉΙ"), ('ᾂ', "ἊΙ"), ('ᾃ', "ἋΙ"), ('ᾄ', "ἌΙ"), ('ᾅ', "ἍΙ"), ('ᾆ', "ἎΙ"),
  ('ᾇ', "ἏΙ"), ('ᾈ', "ἈΙ"), ('ᾉ', "ἉΙ"), ('ᾊ', "ἊΙ"), ('ᾋ', "ἋΙ"), ('ᾌ', "ἌΙ"), ('ᾍ', "ἍΙ"),
  ('ᾎ', "ἎΙ"), ('ᾏ', "ἏΙ"), ('ᾐ', "ἨΙ"), ('ᾑ', "ἩΙ"), ('ᾒ', "ἪΙ"), ('ᾓ', "ἫΙ"), ('ᾔ', "ἬΙ"),
  ('ᾕ', "ἭΙ"), ('ᾖ', "ἮΙ"), ('ᾗ', "ἯΙ"), ('ᾘ', "ἨΙ"), ('ᾙ', "ἩΙ"), ('ᾚ', "ἪΙ"), ('ᾛ', "ἫΙ"),
  ('ᾜ', "ἬΙ"), ('ᾝ', "ἭΙ"), ('ᾞ', "ἮΙ"), ('ᾟ', "ἯΙ"), ('ᾠ', "ὨΙ"), ('ᾡ', "ὩΙ"), ('ᾢ', "ὪΙ"),
  ('ᾣ', "ὫΙ"), ('ᾤ', "ὬΙ"), ('ᾥ', "ὭΙ"), ('ᾦ', "ὮΙ"), ('ᾧ', "ὯΙ"), ('ᾨ', "ὨΙ"), ('ᾩ', "ὩΙ"),
  ('ᾪ', "ὪΙ"), ('ᾫ', "ὫΙ"), ('ᾬ', "ὬΙ"), ('ᾭ', "ὭΙ"), ('ᾮ', "ὮΙ"), ('ᾯ', "ὯΙ"), ('ᾲ', "ᾺΙ"),
  ('ᾳ', "ΑΙ"), ('ᾴ', "ΆΙ"), ('ᾶ', "Α\u0342"), ('ᾷ', "Α\u0342Ι"), ('ᾼ', "ΑΙ"), ('ῂ', "ῊΙ"),
  ('ῃ', "ΗΙ"), ('ῄ', "ΉΙ"), ('ῆ', "Η\u0342"), ('ῇ', "Η\u0342Ι"), ('ῌ', "ΗΙ"),
  ('ῒ', "Ι\u0308\u0300"), ('\u1fd3', "Ι\u0308\u0301"), ('ῖ', "Ι\u0342"), ('ῗ', "Ι\u0308\u0342"),
  ('ῢ', "Υ\u0308\u0300"), ('\u1fe3', "Υ\u0308\u0301"), ('ῤ', "Ρ\u0313"), ('ῦ', "Υ\u0342"),
  ('ῧ', "Υ\u0308\u0342"), ('ῲ', "ῺΙ"), ('ῳ', "ΩΙ"), ('ῴ', "ΏΙ"), ('ῶ', "Ω\u0342"),
  ('ῷ', "Ω\u0342Ι"), ('ῼ', "ΩΙ"), ('ﬀ', "FF"), ('ﬁ', "FI"), ('ﬂ', "FL"), ('ﬃ', "FFI"), ('ﬄ', "FFL"),
  ('ﬅ', "ST"), ('ﬆ', "ST"), ('ﬓ', "ՄՆ"), ('ﬔ', "ՄԵ"), ('ﬕ', "ՄԻ"), ('ﬖ', "ՎՆ"), ('ﬗ', "ՄԽ")
]

/-- Letters past ASCII that stand alone, each with its lower case form after it. -/
def lowerPairs : String :=
  "ŸÿƁɓƆɔƇƈƋƌƎǝƏəƐɛƑƒƓɠƔɣƖɩƗɨƘƙƜɯƝɲƟɵƦʀƧƨƩʃƬƭƮʈƯưƷʒƸƹƼƽǄǆǅǆǇǉǈǉǊǌǱǳǶƕǷƿȠƞȺⱥȻȼȽƚȾⱦɁɂɃƀɄʉɅʌͶͷͿϳΆάΌόϏϗϴθϷϸ"
    ++ "ϹϲϺϻӀӏჇⴧჍⴭẞßᾼᾳῌῃῬῥῼῳ\u2126ω\u212ak\u212båℲⅎↃↄⱠⱡⱢɫⱣᵽⱤɽⱭɑⱮɱⱯɐⱰɒⱲⱳⱵⱶⳲⳳꝽᵹꞋꞌꞍɥꞪɦꞫɜꞬɡꞭɬꞮɪꞰʞꞱʇꞲʝꞳꭓꟄꞔꟅʂꟆᶎꟐꟑꟵꟶ"

/-- Ranges of letters past ASCII with a one-letter lower case form. -/
def lowerRanges : List CaseRange := [
  ⟨0xC0, 0xD6, 1, 32⟩, ⟨0xD8, 0xDE, 1, 32⟩, ⟨0x100, 0x12E, 2, 1⟩, ⟨0x132, 0x136, 2, 1⟩, ⟨0x139, 0x147, 2, 1⟩,
  ⟨0x14A, 0x176, 2, 1⟩, ⟨0x179, 0x17D, 2, 1⟩, ⟨0x182, 0x184, 2, 1⟩, ⟨0x189, 0x18A, 1, 205⟩, ⟨0x1A0, 0x1A4, 2, 1⟩,
  ⟨0x1B1, 0x1B2, 1, 217⟩, ⟨0x1B3, 0x1B5, 2, 1⟩, ⟨0x1CB, 0x1DB, 2, 1⟩, ⟨0x1DE, 0x1EE, 2, 1⟩, ⟨0x1F2, 0x1F4, 2, 1⟩,
  ⟨0x1F8, 0x21E, 2, 1⟩, ⟨0x222, 0x232, 2, 1⟩, ⟨0x246, 0x24E, 2, 1⟩, ⟨0x370, 0x372, 2, 1⟩, ⟨0x388, 0x38A, 1, 37⟩,
  ⟨0x38E, 0x38F, 1, 63⟩, ⟨0x391, 0x3A1, 1, 32⟩, ⟨0x3A3, 0x3AB, 1, 32⟩, ⟨0x3D8, 0x3EE, 2, 1⟩,
  ⟨0x3FD, 0x3FF, 1, -130⟩, ⟨0x400, 0x40F, 1, 80⟩, ⟨0x410, 0x42F, 1, 32⟩, ⟨0x460, 0x480, 2, 1⟩, ⟨0x48A, 0x4BE, 2, 1⟩,
  ⟨0x4C1, 0x4CD, 2, 1⟩, ⟨0x4D0, 0x52E, 2, 1⟩, ⟨0x531, 0x556, 1, 48⟩, ⟨0x10A0, 0x10C5, 1, 7264⟩,
  ⟨0x13A0, 0x13EF, 1, 38864⟩, ⟨0x13F0, 0x13F5, 1, 8⟩, ⟨0x1C90, 0x1CBA, 1, -3008⟩, ⟨0x1CBD, 0x1CBF, 1, -3008⟩,
  ⟨0x1E00, 0x1E94, 2, 1⟩, ⟨0x1EA0, 0x1EFE, 2, 1⟩, ⟨0x1F08, 0x1F0F, 1, -8⟩, ⟨0x1F18, 0x1F1D, 1, -8⟩,
  ⟨0x1F28, 0x1F2F, 1, -8⟩, ⟨0x1F38, 0x1F3F, 1, -8⟩, ⟨0x1F48, 0x1F4D, 1, -8⟩, ⟨0x1F59, 0x1F5F, 2, -8⟩,
  ⟨0x1F68, 0x1F6F, 1, -8⟩, ⟨0x1F88, 0x1F8F, 1, -8⟩, ⟨0x1F98, 0x1F9F, 1, -8⟩, ⟨0x1FA8, 0x1FAF, 1, -8⟩,
  ⟨0x1FB8, 0x1FB9, 1, -8⟩, ⟨0x1FBA, 0x1FBB, 1, -74⟩, ⟨0x1FC8, 0x1FCB, 1, -86⟩, ⟨0x1FD8, 0x1FD9, 1, -8⟩,
  ⟨0x1FDA, 0x1FDB, 1, -100⟩, ⟨0x1FE8, 0x1FE9, 1, -8⟩, ⟨0x1FEA, 0x1FEB, 1, -112⟩, ⟨0x1FF8, 0x1FF9, 1, -128⟩,
  ⟨0x1FFA, 0x1FFB, 1, -126⟩, ⟨0x2160, 0x216F, 1, 16⟩, ⟨0x24B6, 0x24CF, 1, 26⟩, ⟨0x2C00, 0x2C2F, 1, 48⟩,
  ⟨0x2C67, 0x2C6B, 2, 1⟩, ⟨0x2C7E, 0x2C7F, 1, -10815⟩, ⟨0x2C80, 0x2CE2, 2, 1⟩, ⟨0x2CEB, 0x2CED, 2, 1⟩,
  ⟨0xA640, 0xA66C, 2, 1⟩, ⟨0xA680, 0xA69A, 2, 1⟩, ⟨0xA722, 0xA72E, 2, 1⟩, ⟨0xA732, 0xA76E, 2, 1⟩,
  ⟨0xA779, 0xA77B, 2, 1⟩, ⟨0xA77E, 0xA786, 2, 1⟩, ⟨0xA790, 0xA792, 2, 1⟩, ⟨0xA796, 0xA7A8, 2, 1⟩,
  ⟨0xA7B4, 0xA7C2, 2, 1⟩, ⟨0xA7C7, 0xA7C9, 2, 1⟩, ⟨0xA7D6, 0xA7D8, 2, 1⟩, ⟨0xFF21, 0xFF3A, 1, 32⟩,
  ⟨0x10400, 0x10427, 1, 40⟩, ⟨0x104B0, 0x104D3, 1, 40⟩, ⟨0x10570, 0x1057A, 1, 39⟩, ⟨0x1057C, 0x1058A, 1, 39⟩,
  ⟨0x1058C, 0x10592, 1, 39⟩, ⟨0x10594, 0x10595, 1, 39⟩, ⟨0x10C80, 0x10CB2, 1, 64⟩, ⟨0x118A0, 0x118BF, 1, 32⟩,
  ⟨0x16E40, 0x16E5F, 1, 32⟩, ⟨0x1E900, 0x1E921, 1, 34⟩
]

/-- What comes after a character, in a list of pairs. -/
def partner? (c : Char) : List Char → Option Char
  | first :: second :: rest => if first = c then some second else partner? c rest
  | _ => none

/-- Maps a character through pairs and ranges. -/
def mapCase (pairs : String) (ranges : List CaseRange) (c : Char) : Char :=
  match partner? c pairs.toList with
  | some form => form
  | none => match ranges.find? (·.covers c.toNat) with
    | some r => Char.ofNat (Int.toNat (c.toNat + r.shift))
    | none => c

/-- The upper case form of one character. -/
def upperChar (c : Char) : List Char :=
  if c.toNat < 0x80 then [c.toUpper]
  else match upperExpansions.lookup c with
    | some forms => forms.toList
    | none => [mapCase upperPairs upperRanges c]

/-- The upper case form of a text. -/
def upper (s : String) : String :=
  String.ofList (s.toList.flatMap upperChar)

/-- The lower case form of one character that does not depend on its neighbours. -/
def lowerChar (c : Char) : List Char :=
  if c.toNat < 0x80 then [c.toLower]
  else if c.toNat == 0x130 then [Char.ofNat 0x69, Char.ofNat 0x307]
  else [mapCase lowerPairs lowerRanges c]

/-- Lowers a text from the left; `before` are the characters before it, the last one first. A capital sigma
at the end of a word takes its final form: one with a letter before and none after it. -/
def lowerFrom (before : List Char) : List Char → List Char
  | [] => []
  | c :: rest =>
    let lowered :=
      if c.toNat == 0x3A3 then
        let isFinal := meetsLetter before && !meetsLetter rest
        [Char.ofNat (if isFinal then 0x3C2 else 0x3C3)]
      else lowerChar c
    lowered ++ lowerFrom (c :: before) rest

/-- The lower case form of a text. -/
def lower (s : String) : String :=
  String.ofList (lowerFrom [] s.toList)

end GirDoc.Text

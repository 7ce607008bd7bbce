import GirDoc.Text.Charset.Basic

/-!
# Characters of several bytes

In some encodings a letter and the marks that follow it have a byte each. Together they stand for one
character, if there is such a character.
-/

namespace GirDoc.Text.Charset

/-- Joins each character with those behind it. `goesOn` tells which joined characters are joined again, and
`last` is the character before. -/
def compose (join : Char → Char → Option Char) (goesOn : Char → Bool) : Option Char → List Char → List Char
  | none, [] => []
  | some last, [] => [last]
  | none, c :: rest => compose join goesOn (some c) rest
  | some last, c :: rest => match join last c with
    | none => last :: compose join goesOn (some c) rest
    | some new =>
      if goesOn new then compose join goesOn (some new) rest else new :: compose join goesOn none rest

/-- An encoding in which characters are joined. -/
def composed (cs : Charset) (join : Char → Char → Option Char) (goesOn : Char → Bool) : Charset :=
  ⟨fun bytes =>
    let d := cs.read bytes
    { d with chars := compose join goesOn none d.chars }⟩

/-- A mark, with the characters before it and what they make with it. -/
abbrev Marks := List (Char × String × String)

/-- What a character and a mark make. -/
def Marks.join (marks : Marks) (last mark : Char) : Option Char :=
  marks.findSome? fun (m, before, made) =>
    if m = mark then (before.toList.idxOf? last).bind (made.toList[·]?) else none

/-- The tones of Vietnamese. -/
def tones : Marks :=
  [('\u0300', "AEINOUWYaeinouwy¨ÂÊÔÜâêôüĂăĒēŌōƠơƯư",
      "ÀÈÌǸÒÙẀỲàèìǹòùẁỳ῭ẦỀỒǛầềồǜẰằḔḕṐṑỜờỪừ"),
    ('\u0301', "ACEGIKLMNOPRSUWYZacegiklmnoprsuwyz¨ÂÅÆÇÊÏÔÕØÜâåæçêïôõøüĂăĒēŌōŨũƠơƯư",
      "ÁĆÉǴÍḰĹḾŃÓṔŔŚÚẂÝŹáćéǵíḱĺḿńóṕŕśúẃýź΅ẤǺǼḈẾḮỐṌǾǗấǻǽḉếḯốṍǿǘẮắḖḗṒṓṸṹỚớỨứ"),
    ('\u0303', "AEINOUVYaeinouvyÂÊÓÔÖÚâêóôöúĂăƠơƯư",
      "ÃẼĨÑÕŨṼỸãẽĩñõũṽỹẪỄṌỖṎṸẫễṍỗṏṹẴẵỠỡỮữ"),
    ('\u0309', "AEIOUYaeiouyÂÊÔâêôĂăƠơƯư",
      "ẢẺỈỎỦỶảẻỉỏủỷẨỂỔẩểổẲẳỞởỬử"),
    ('\u0323', "ABDEHIKLMNORSTUVWYZabdehiklmnorstuvwyzÂÊÔâêôĂăƠơƯư",
      "ẠḄḌẸḤỊḲḶṂṆỌṚṢṬỤṾẈỴẒạḅḍẹḥịḳḷṃṇọṛṣṭụṿẉỵẓẬỆỘậệộẶặỢợỰự")]

/-- The points of Hebrew. -/
def points : Marks :=
  [('\u05b4', "\u05d9", "\ufb1d"),
    ('\u05b7', "\u05f2\u05d0", "\ufb1f\ufb2e"),
    ('\u05b8', "\u05d0", "\ufb2f"),
    ('\u05b9', "\u05d5", "\ufb4b"),
    ('\u05bc',
      "\u05d0\u05d1\u05d2\u05d3\u05d4\u05d5\u05d6\u05d8\u05d9\u05da\u05db\u05dc\u05de\u05e0"
        ++ "\u05e1\u05e3\u05e4\u05e6\u05e7\u05e8\u05e9\u05ea",
      "\ufb30\ufb31\ufb32\ufb33\ufb34\ufb35\ufb36\ufb38\ufb39\ufb3a\ufb3b\ufb3c\ufb3e\ufb40"
        ++ "\ufb41\ufb43\ufb44\ufb46\ufb47\ufb48\ufb49\ufb4a"),
    ('\u05bf', "\u05d1\u05db\u05e4", "\ufb4c\ufb4d\ufb4e"),
    ('\u05c1', "\u05e9", "\ufb2a"),
    ('\u05c2', "\u05e9", "\ufb2b"),
    ('\u05bc', "\ufb2a\ufb2b", "\ufb2c\ufb2d"),
    ('\u05c1', "\ufb49", "\ufb2c"),
    ('\u05c2', "\ufb49", "\ufb2d")]

/-- An encoding of Vietnamese, with its tones behind the letters. -/
def vietnamese (cs : Charset) : Charset := composed cs tones.join fun _ => false

/-- An encoding of Hebrew, with its points behind the letters. -/
def hebrew (cs : Charset) : Charset :=
  composed cs points.join fun c => c = '\ufb2a' || c = '\ufb2b' || c = '\ufb49'

end GirDoc.Text.Charset

/-!
# Editions of one-byte encodings

What each byte of an encoding of documents stands for, where sources know the encoding in another edition or
do not know it. A table of 128 characters is that of the bytes past ASCII; one of 256 is that of all bytes. A
byte that stands for nothing has the replacement character.
-/

namespace GirDoc.Text.Charset.Edition

/-- The characters of the upper half of Mac Roman. -/
def macRoman : String :=
  "ÄÅÇÉÑÖÜáàâäãåçéèêëíìîïñóòôöõúùûü†°¢£§•¶ß®©™´¨≠ÆØ∞±≤≥¥µ∂∑∏π∫ªºΩæø¿¡¬√ƒ≈∆«»…\u00a0ÀÃÕŒ"
    ++ "œ–—“”‘’÷◊ÿŸ⁄¤‹›ﬁﬂ‡·‚„‰ÂÊÁËÈÍÎÏÌÓÔ�ÒÚÛÙıˆ˜¯˘˙˚¸˝˛ˇ"

/-- The characters of the upper half of Mac Iceland. -/
def macIceland : String :=
  "ÄÅÇÉÑÖÜáàâäãåçéèêëíìîïñóòôöõúùûüÝ°¢£§•¶ß®©™´¨≠ÆØ∞±≤≥¥µ∂∑∏π∫ªºΩæø¿¡¬√ƒ≈∆«»…\u00a0ÀÃÕŒ"
    ++ "œ–—“”‘’÷◊ÿŸ⁄¤ÐðÞþý·‚„‰ÂÊÁËÈÍÎÏÌÓÔ�ÒÚÛÙıˆ˜¯˘˙˚¸˝˛ˇ"

/-- The characters of the upper half of Mac Croatian. -/
def macCroatian : String :=
  "ÄÅÇÉÑÖÜáàâäãåçéèêëíìîïñóòôöõúùûü†°¢£§•¶ß®Š™´¨≠ŽØ∞±≤≥∆µ∂∑∏š∫ªºΩžø¿¡¬√ƒ≈Ć«Č…\u00a0ÀÃÕŒ"
    ++ "œĐ—“”‘’÷◊�©⁄¤‹›Æ»–·‚„‰ÂćÁčÈÍÎÏÌÓÔđÒÚÛÙıˆ˜¯πË˚¸Êæˇ"

/-- The characters of the upper half of Mac Romania. -/
def macRomania : String :=
  "ÄÅÇÉÑÖÜáàâäãåçéèêëíìîïñóòôöõúùûü†°¢£§•¶ß®©™´¨≠ĂŞ∞±≤≥¥µ∂∑∏π∫ªºΩăş¿¡¬√ƒ≈∆«»…\u00a0ÀÃÕŒ"
    ++ "œ–—“”‘’÷◊ÿŸ⁄¤‹›Ţţ‡·‚„‰ÂÊÁËÈÍÎÏÌÓÔ�ÒÚÛÙıˆ˜¯˘˙˚¸˝˛ˇ"

/-- The characters of the upper half of Mac Cyrillic. -/
def macCyrillic : String :=
  "АБВГДЕЖЗИЙКЛМНОПРСТУФХЦЧШЩЪЫЬЭЮЯ†°¢£§•¶І®©™Ђђ≠Ѓѓ∞±≤≥іµ∂ЈЄєЇїЉљЊњјЅ¬√ƒ≈∆«»…\u00a0ЋћЌќ"
    ++ "ѕ–—“”‘’÷„ЎўЏџ№Ёёяабвгдежзийклмнопрстуфхцчшщъыьэю¤"

/-- The characters of the upper half of Mac Ukraine. -/
def macUkraine : String :=
  "АБВГДЕЖЗИЙКЛМНОПРСТУФХЦЧШЩЪЫЬЭЮЯ†°Ґ£§•¶І®©™Ђђ≠Ѓѓ∞±≤≥іµґЈЄєЇїЉљЊњјЅ¬√ƒ≈∆«»…\u00a0ЋћЌќ"
    ++ "ѕ–—“”‘’÷„ЎўЏџ№Ёёяабвгдежзийклмнопрстуфхцчшщъыьэю¤"

/-- The characters of the upper half of Mac Greek. -/
def macGreek : String :=
  "Ä¹²É³ÖÜ΅àâä΄¨çéèêë£™îï•½‰ôö¦\u00adùûü†ΓΔΘΛΞΠß®©ΣΪ§≠°·Α±≤≥¥ΒΕΖΗΙΚΜΦΫΨΩάΝ¬ΟΡ≈Τ«»…"
    ++ "\u00a0ΥΧΆΈœ–―“”‘’÷ΉΊΌΎέήίόΏύαβψδεφγηιξκλμνοπώρστθωςχυζϊϋΐΰ�"

/-- The characters of the upper half of Mac Turkish. -/
def macTurkish : String :=
  "ÄÅÇÉÑÖÜáàâäãåçéèêëíìîïñóòôöõúùûü†°¢£§•¶ß®©™´¨≠ÆØ∞±≤≥¥µ∂∑∏π∫ªºΩæø¿¡¬√ƒ≈∆«»…\u00a0ÀÃÕŒ"
    ++ "œ–—“”‘’÷◊ÿŸĞğİıŞş‡·‚„‰ÂÊÁËÈÍÎÏÌÓÔ�ÒÚÛÙ�ˆ˜¯˘˙˚¸˝˛ˇ"

/-- The characters of the upper half of Mac Hebrew. -/
def macHebrew : String :=
  "Ä\ufb1fÇÉÑÖÜáàâäãåçéèêëíìîïñóòôöõúùûü������₪��������������������������„����\u05bc"
    ++ "\ufb4b\ufb35…\u00a0\u05b8\u05b7\u05b5\u05b6\u05b4–—“”‘’\ufb2a\ufb2b\u05bf\u05b0"
    ++ "\u05b2\u05b1\u05bb\u05b9�\u05b3\u05d0\u05d1\u05d2\u05d3\u05d4\u05d5\u05d6\u05d7"
    ++ "\u05d8\u05d9\u05da\u05db\u05dc\u05dd\u05de\u05df\u05e0\u05e1\u05e2\u05e3\u05e4\u05e5"
    ++ "\u05e6\u05e7\u05e8\u05e9\u05ea�����"

/-- The characters of the upper half of Mac Arabic. -/
def macArabic : String :=
  "Ä\u00a0ÇÉÑÖÜáàâä\u06ba«çéèêëí…îïñó»ôö÷úùûü�����٪������،���\u0660\u0661\u0662\u0663"
    ++ "\u0664\u0665\u0666\u0667\u0668\u0669�\u061b���\u061f\u066d\u0621\u0622\u0623\u0624"
    ++ "\u0625\u0626\u0627\u0628\u0629\u062a\u062b\u062c\u062d\u062e\u062f\u0630\u0631\u0632"
    ++ "\u0633\u0634\u0635\u0636\u0637\u0638\u0639\u063a�����\u0640\u0641\u0642\u0643\u0644"
    ++ "\u0645\u0646\u0647\u0648\u0649\u064a\u064b\u064c\u064d\u064e\u064f\u0650\u0651\u0652"
    ++ "\u067e\u0679\u0686\u06d5\u06a4\u06af\u0688\u0691���\u0698\u06d2"

/-- The characters of the upper half of Mac Thai. -/
def macThai : String :=
  "«»…\uf88c\uf88f\uf892\uf895\uf898\uf88b\uf88e\uf891\uf894\uf897“”\uf899�•\uf884"
    ++ "\uf889\uf885\uf886\uf887\uf888\uf88a\uf88d\uf890\uf893\uf896‘’�\u00a0กขฃคฅฆงจฉชซฌญฎฏ"
    ++ "ฐฑฒณดตถทธนบปผฝพฟภมยรฤลฦวศษสหฬอฮฯะ\u0e31าำ\u0e34\u0e35\u0e36\u0e37\u0e38\u0e39\u0e3a"
    ++ "\ufeff\u200b–—฿เแโใไๅๆ\u0e47\u0e48\u0e49\u0e4a\u0e4b\u0e4c\u0e4d™๏๐๑๒๓๔๕๖๗๘๙®©����"

/-- The characters of the upper half of code page 1255. -/
def cp1255 : String :=
  "€�‚ƒ„…†‡ˆ‰�‹�����‘’“”•–—˜™�›����\u00a0¡¢£₪¥¦§¨©×«¬\u00ad®¯°±²³´µ¶·¸¹÷»¼½¾¿\u05b0"
    ++ "\u05b1\u05b2\u05b3\u05b4\u05b5\u05b6\u05b7\u05b8\u05b9\u05ba\u05bb\u05bc\u05bd\u05be"
    ++ "\u05bf\u05c0\u05c1\u05c2\u05c3\u05f0\u05f1\u05f2\u05f3\u05f4�������\u05d0\u05d1"
    ++ "\u05d2\u05d3\u05d4\u05d5\u05d6\u05d7\u05d8\u05d9\u05da\u05db\u05dc\u05dd\u05de\u05df"
    ++ "\u05e0\u05e1\u05e2\u05e3\u05e4\u05e5\u05e6\u05e7\u05e8\u05e9\u05ea��\u200e\u200f�"

/-- The characters of the upper half of TIS-620. -/
def tis620 : String :=
  "���������������������������������กขฃคฅฆงจฉชซฌญฎฏฐฑฒณดตถทธนบปผฝพฟภมยรฤลฦวศษสหฬอฮฯะ"
    ++ "\u0e31าำ\u0e34\u0e35\u0e36\u0e37\u0e38\u0e39\u0e3a����฿เแโใไๅๆ\u0e47\u0e48\u0e49"
    ++ "\u0e4a\u0e4b\u0e4c\u0e4d\u0e4e๏๐๑๒๓๔๕๖๗๘๙๚๛����"

/-- The characters of the upper half of KOI8-RU. -/
def koi8Ru : String :=
  "─│┌┐└┘├┤┬┴┼▀▄█▌▐░▒▓⌠■∙√≈≤≥\u00a0⌡°²·÷═║╒ёє╔ії╗╘╙╚╛ґў╞╟╠╡ЁЄ╣ІЇ╦╧╨╩╪ҐЎ©юабцдефгхийклмн"
    ++ "опярстужвьызшэщчъЮАБЦДЕФГХИЙКЛМНОПЯРСТУЖВЬЫЗШЭЩЧЪ"

/-- The characters of the upper half of code page 1131. -/
def cp1131 : String :=
  "АБВГДЕЖЗИЙКЛМНОПРСТУФХЦЧШЩЪЫЬЭЮЯабвгдежзийклмноп░▒▓│┤╡╢╖╕╣║╗╝╜╛┐└┴┬├─┼╞╟╚╔╩╦╠═╬╧╨╤╥╙"
    ++ "╘╒╓╫╪┘┌█▄▌▐▀рстуфхцчшщъыьэюяЁёЄєЇїЎўІі·¤Ґґ∙\u00a0"

/-- The characters of the upper half of NextStep. -/
def nextStep : String :=
  "\u00a0ÀÁÂÃÄÅÇÈÉÊËÌÍÎÏÐÑÒÓÔÕÖÙÚÛÜÝÞµ×÷©¡¢£⁄¥ƒ§¤’“«‹›ﬁﬂ®–†‡·¦¶•‚„”»…‰¬¿¹ˋ´ˆ˜¯˘˙¨²˚¸³˝˛"
    ++ "ˇ—±¼½¾àáâãäåçèéêëìÆíªîïðñŁØŒºòóôõöæùúûıüýłøœßþÿ��"

/-- The characters of the upper half of ARMSCII-8. -/
def armscii8 : String :=
  "\u0080\u0081\u0082\u0083\u0084\u0085\u0086\u0087\u0088\u0089\u008a\u008b\u008c\u008d"
    ++ "\u008e\u008f\u0090\u0091\u0092\u0093\u0094\u0095\u0096\u0097\u0098\u0099\u009a\u009b"
    ++ "\u009c\u009d\u009e\u009f\u00a0�և։)(»«—.՝,-֊…՜՛՞ԱաԲբԳգԴդԵեԶզԷէԸըԹթԺժԻիԼլԽխԾծԿկՀհՁձՂղՃ"
    ++ "ճՄմՅյՆնՇշՈոՉչՊպՋջՌռՍսՎվՏտՐրՑցՒւՓփՔքՕօՖֆ՚�"

/-- The characters of the upper half of the Georgian Academy. -/
def georgianAcademy : String :=
  "\u0080\u0081‚ƒ„…†‡ˆ‰Š‹Œ\u008d\u008e\u008f\u0090‘’“”•–—˜™š›œ\u009d\u009eŸ\u00a0¡¢£¤¥¦"
    ++ "§¨©ª«¬\u00ad®¯°±²³´µ¶·¸¹º»¼½¾¿აბგდევზთიკლმნოპჟრსტუფქღყშჩცძწჭხჯჰჱჲჳჴჵჶçèéêëìíîïðñòóôõ"
    ++ "ö÷øùúûüýþÿ"

/-- The characters of the upper half of Georgian PS. -/
def georgianPs : String :=
  "\u0080\u0081‚ƒ„…†‡ˆ‰Š‹Œ\u008d\u008e\u008f\u0090‘’“”•–—˜™š›œ\u009d\u009eŸ\u00a0¡¢£¤¥¦"
    ++ "§¨©ª«¬\u00ad®¯°±²³´µ¶·¸¹º»¼½¾¿აბგდევზჱთიკლმნჲოპჟრსტჳუფქღყშჩცძწჭხჴჯჰჵæçèéêëìíîïðñòóôõ"
    ++ "ö÷øùúûüýþÿ"

/-- The characters of all of VISCII. -/
def viscii : String :=
  "\x00\x01Ẳ\x03\x04ẴẪ\x07\x08\x09\x0a\x0b\x0c\x0d\x0e\x0f\x10\x11\x12\x13Ỷ\x15\x16\x17"
    ++ "\x18Ỹ\x1a\x1b\x1c\x1dỴ\x1f !\x22#$%&'()*+,-./0123456789:;<=>?@ABCDEFGHIJKLMNOPQRSTUV"
    ++ "WXYZ[\x5c]^_`abcdefghijklmnopqrstuvwxyz\x7b|\x7d~\x7fẠẮẰẶẤẦẨẬẼẸẾỀỂỄỆỐỒỔỖỘỢỚỜỞỊỎỌỈỦŨỤ"
    ++ "ỲÕắằặấầẩậẽẹếềểễệốồổỗỠƠộờởịỰỨỪỬơớƯÀÁÂÃẢĂẳẵÈÉÊẺÌÍĨỳĐứÒÓÔạỷừửÙÚỹỵÝỡưàáâãảăữẫèéêẻìíĩỉđựò"
    ++ "óôõỏọụùúũủýợỮ"

/-- The characters of all of TCVN. -/
def tcvn : String :=
  "\x00ÚỤ\x03ỪỬỮ\x07\x08\x09\x0a\x0b\x0c\x0d\x0e\x0f\x10ỨỰỲỶỸÝỴ\x18\x19\x1a\x1b\x1c\x1d"
    ++ "\x1e\x1f !\x22#$%&'()*+,-./0123456789:;<=>?@ABCDEFGHIJKLMNOPQRSTUVWXYZ[\x5c]^_`abcde"
    ++ "fghijklmnopqrstuvwxyz\x7b|\x7d~\x7fÀẢÃÁẠẶẬÈẺẼÉẸỆÌỈĨÍỊÒỎÕÓỌỘỜỞỠỚỢÙỦŨ\u00a0ĂÂÊÔƠƯĐăâêô"
    ++ "ơưđẰ\u0300\u0309\u0303\u0301\u0323àảãáạẲằẳẵắẴẮẦẨẪẤỀặầẩẫấậèỂẻẽéẹềểễếệìỉỄẾỒĩíịòỔỏõóọồổ"
    ++ "ỗốộờởỡớợùỖủũúụừửữứựỳỷỹýỵỐ"

/-- The characters of the upper half of code page 1133. -/
def cp1133 : String :=
  "\u0080\u0081\u0082\u0083\u0084\u0085\u0086\u0087\u0088\u0089\u008a\u008b\u008c\u008d"
    ++ "\u008e\u008f\u0090\u0091\u0092\u0093\u0094\u0095\u0096\u0097\u0098\u0099\u009a\u009b"
    ++ "\u009c\u009d\u009e\u009f\u00a0ກຂຄງຈສຊຍດຕຖທນບປຜຝພຟມຢຣລວຫອຮ���ຯະາຳ\u0eb4\u0eb5\u0eb6"
    ++ "\u0eb7\u0eb8\u0eb9\u0ebc\u0eb1\u0ebbຽ���ເແໂໃໄ\u0ec8\u0ec9\u0eca\u0ecb\u0ecc\u0ecdໆ�ໜ"
    ++ "ໝ₭����������������໐໑໒໓໔໕໖໗໘໙��¢¬¦�"

/-- The characters of the upper half of Mule Lao. -/
def muleLao : String :=
  "\u0080\u0081\u0082\u0083\u0084\u0085\u0086\u0087\u0088\u0089\u008a\u008b\u008c\u008d"
    ++ "\u008e\u008f\u0090\u0091\u0092\u0093\u0094\u0095\u0096\u0097\u0098\u0099\u009a\u009b"
    ++ "\u009c\u009d\u009e\u009f\u00a0ກຂ�ຄ��ງຈ�ຊ��ຍ������ດຕຖທ�ນບປຜຝພຟ�ມຢຣ�ລ�ວ��ສຫ�ອຮຯະ\u0eb1"
    ++ "າຳ\u0eb4\u0eb5\u0eb6\u0eb7\u0eb8\u0eb9�\u0ebb\u0ebcຽ��ເແໂໃໄ�ໆ�\u0ec8\u0ec9\u0eca"
    ++ "\u0ecb\u0ecc\u0ecd��໐໑໒໓໔໕໖໗໘໙��ໜໝ��"

end GirDoc.Text.Charset.Edition

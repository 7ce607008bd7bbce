import GirDoc.Text.Grid

/-!
# Tables of one-byte encodings

What each byte of an encoding stands for. A table of 128 characters is that of the bytes past ASCII; one of
256 is that of all bytes. A byte that stands for nothing has the replacement character.
-/

namespace GirDoc.Text.Charset.Table

/-- The characters past ASCII that are spelled by their distances. -/
def half (spelling : String) : String := String.ofList (Grid.spelled 0x7F spelling.toList)

/-- The characters with which the code pages of mainframes start. -/
def mainframe : String :=
  "\x00\x01\x02\x03\u009c\x09\u0086\x7f\u0097\u008d\u008e\x0b\x0c\x0d\x0e\x0f\x10\x11\x12\x13\u009d\u0085\x08"
    ++ "\u0087\x18\x19\u0092\u008f\x1c\x1d\x1e\x1f\u0080\u0081\u0082\u0083\u0084\x0a\x17\x1b\u0088\u0089\u008a\u008b"
    ++ "\u008c\x05\x06\x07\u0090\u0091\x16\u0093\u0094\u0095\u0096\x04\u0098\u0099\u009a\u009b\x14\x15\u009e\x1a "

/-- The characters of all of code page `cp037`. -/
def cp037 : String :=
  mainframe ++ "\u00a0âäàáãåçñ¢.<(+|&éêëèíîïìß!$*);¬-/ÂÄÀÁÃÅÇÑ¦,%_>?øÉÊËÈÍÎÏÌ`:#@'=\x22Øabcdefghi«»ðýþ±°jklmnopqrªºæ¸Æ¤µ~stu"
    ++ "vwxyz¡¿ÐÝÞ®^£¥·©§¶¼½¾[]¯¨´×\x7bABCDEFGHI\u00adôöòóõ\x7dJKLMNOPQR¹ûüùúÿ\x5c÷STUVWXYZ²ÔÖÒÓÕ0123456789³ÛÜÙÚ"
    ++ "\u009f"

/-- The characters of the upper half of code page `cp1006`. -/
def cp1006 : String :=
  half ("!A۰!)،F\u00adp9\ufe81C8789\ufb569ij99\ufb669i`999\ufb7a9iT9999\ufb84iV9\ufb8ciR\ufb8aiV99999999;;!(99999\ufb92"
    ++ "9ix9889\ufb9eiv9_=aW\ufba6988h]@88aU88\ufbb05hU8")

/-- The characters of all of code page `cp1026`. -/
def cp1026 : String :=
  mainframe ++ "\u00a0âäàáãå\x7bñÇ.<(+!&éêëèíîïìßĞİ*);^-/ÂÄÀÁÃÅ[Ñş,%_>?øÉÊËÈÍÎÏÌı:ÖŞ'=ÜØabcdefghi«»\x7d`¦±°jklmnopqrªºæ¸Æ¤µö"
    ++ "stuvwxyz¡¿]$@®¢£¥·©§¶¼½¾¬|¯¨´×çABCDEFGHI\u00adô~òóõğJKLMNOPQR¹û\x5cùúÿü÷STUVWXYZ²Ô#ÒÓÕ0123456789³Û\x22ÙÚ"
    ++ "\u009f"

/-- The characters of the upper half of code page `cp1125`. -/
def cp1125 : String :=
  half "А!O░88^fYa,8+6E%==66_T;W/'`+a+Y821L41'S2838+618O6_M+ak3?;'р!/ЁёҐ8ЄєІіЇї·√]K¤■\u00a0"

/-- The characters of all of code page `cp1140`. -/
def cp1140 : String :=
  mainframe ++ "\u00a0âäàáãåçñ¢.<(+|&éêëèíîïìß!$*);¬-/ÂÄÀÁÃÅÇÑ¦,%_>?øÉÊËÈÍÎÏÌ`:#@'=\x22Øabcdefghi«»ðýþ±°jklmnopqrªºæ¸Æ€µ~stu"
    ++ "vwxyz¡¿ÐÝÞ®^£¥·©§¶¼½¾[]¯¨´×\x7bABCDEFGHI\u00adôöòóõ\x7dJKLMNOPQR¹ûüùúÿ\x5c÷STUVWXYZ²ÔÖÒÓÕ0123456789³ÛÜÙÚ"
    ++ "\u009f"

/-- The characters of the upper half of code page `cp1250`. -/
def cp1250 : String :=
  half ("€�‚�„?18�‰Š‹ŚAP3�‘8:8<(8�™š›śAP3]uˇHŁ¤Ą¦!#Ş«!#Ż°8˛ł´!$ąş»Ľ˝ľżŔÁ8ĂÄĹĆÇČÉĘËĚÍ8Ď9Ń;Ó8ŐÖ8ŘMÚŰÜ8Ţßŕá8Xäĺćçčéęëěí8X9"
    ++ "ń;ó8őö8řMúűü8ţ˙")

/-- The characters of the upper half of code page `cp1251`. -/
def cp1251 : String :=
  half "Ђ8‚ѓ„?18az_#Љ‹Њ96;ђ‘8:8<(8�™љ›њ96;\u00a0ЎўЈ¤Ґ¦8Ё©Є«!#Ї°8Ііґµ88ё№є»јЅѕ9А!_"

/-- The characters of the upper half of code page `cp1252`. -/
def cp1252 : String :=
  half "€�‚ƒ„?18ˆ‰Š‹Œ�Ž�7‘8:8<(8˜™š›œ�ž1]w!z!%"

/-- The characters of the upper half of code page `cp1253`. -/
def cp1253 : String :=
  half "€�‚ƒ„?18�‰�‹�7777‘8:8<(8�™�›�777\u00a0΅8£!&�«!#―°!#΄µ88Έ88»Ό½Ύ!3�Σ!K�"

/-- The characters of the upper half of code page `cp1254`. -/
def cp1254 : String :=
  half "€�‚ƒ„?18ˆ‰Š‹Œ�777‘8:8<(8˜™š›œ�7Ÿ]w!OĞÑ!+İŞß!0ğñ!+ışÿ"

/-- The characters of the upper half of code page `cp1255`. -/
def cp1255 : String :=
  half "€�‚ƒ„?18ˆ‰�‹�7777‘8:8<(8˜™�›�777\u00a0!#₪¥!$×«!.÷»!$nh!)�\u05bb!(`t!$�777777\u05d0!:�7\u200e8�"

/-- The characters of the upper half of code page `cp1256`. -/
def cp1256 : String :=
  half ("€\u067e‚ƒ„?18ˆ‰\u0679‹ŒoSI'`n‘8:8<(8\u06a9™\u0691›œ\u200c8\u06ba\u00a0،¢!'r,«!.p)»!#p(b9^W!5×p'!#=!#àp+âp*!#ç"
    ++ "!$p%8î8p#!#ôoz8÷oyùoxû8\u200e8\u06d2")

/-- The characters of the upper half of code page `cp1257`. -/
def cp1257 : String :=
  half ("€�‚�„?18�‰�‹�¨ˇ¸�‘8:8<(8�™�›�¯˛�\u00a0�¢88�¦8Ø©Ŗ«!#O°!'ø¹ŗ»!#æUĮĀ=Ä8Ę11ÉŹĖCK+HŠŃ9ÓŌÕ88ŲŁPGÜŻ9ßąįā=ä8ę11éźėCK+H"
    ++ "šń9óōõ88ųłPGüż9˙")

/-- The characters of the upper half of code page `cp1258`. -/
def cp1258 : String :=
  half "€�‚ƒ„?18ˆ‰�‹Œ�777‘8:8<(8˜™�›œ�7Ÿ]w!BĂÄ!'flÍ88ĐÑfoÓ8ƠÖ!&Ưd;ß!#Xä!'fMí88Yñfió8ơö!&ư₫ÿ"

/-- The characters of all of code page `cp273`. -/
def cp273 : String :=
  mainframe ++ "\u00a0â\x7bàáãåçñÄ.<(+!&éêëèíîïì~Ü$*);^-/Â[ÀÁÃÅÇÑö,%_>?øÉÊËÈÍÎÏÌ`:#§'=\x22Øabcdefghi«»ðýþ±°jklmnopqrªºæ¸Æ¤µß"
    ++ "stuvwxyz¡¿ÐÝÞ®¢£¥·©@¶¼½¾¬|‾¨´×äABCDEFGHI\u00adô¦òóõüJKLMNOPQR¹û\x7dùúÿÖ÷STUVWXYZ²Ô\x5cÒÓÕ0123456789³Û]ÙÚ"
    ++ "\u009f"

/-- The characters of all of code page `cp424`. -/
def cp424 : String :=
  mainframe ++ "\u05d0\u05d1\u05d2\u05d3\u05d4\u05d5\u05d6\u05d7\u05d8¢.<(+|&\u05d9\u05da\u05db\u05dc\u05dd\u05de\u05df"
    ++ "\u05e0\u05e1!$*);¬-/\u05e2\u05e3\u05e4\u05e5\u05e6\u05e7\u05e8\u05e9¦,%_>?�\u05ea��\u00a0���‗`:#@'=\x22�abcd"
    ++ "efghi«»���±°jklmnopqr���¸�¤µ~stuvwxyz�����®^£¥·©§¶¼½¾[]¯¨´×\x7bABCDEFGHI\u00ad�����\x7dJKLMNOPQR¹�����\x5c÷S"
    ++ "TUVWXYZ²�����0123456789³����\u009f"

/-- The characters of the upper half of code page `cp437`. -/
def cp437 : String :=
  half ("Çü$093<9:84>65Ä8;TÆô93@5=Ö=¢89₧ƒáC=>.ÑªG<⌐¬H6¡AG░88^fYa,8+6E%==66_T;W/'`+a+Y821L41'S2838+618O6_M+ak3?;'αßΓπΣWµ"
    ++ "τΦ)HB∞φ&∩a'±≥6bS8÷≈°∙·√ⁿ²■\u00a0")

/-- The characters of all of code page `cp500`. -/
def cp500 : String :=
  mainframe ++ "\u00a0âäàáãåçñ[.<(+!&éêëèíîïìß]$*);^-/ÂÄÀÁÃÅÇÑ¦,%_>?øÉÊËÈÍÎÏÌ`:#@'=\x22Øabcdefghi«»ðýþ±°jklmnopqrªºæ¸Æ¤µ~stu"
    ++ "vwxyz¡¿ÐÝÞ®¢£¥·©§¶¼½¾¬|¯¨´×\x7bABCDEFGHI\u00adôöòóõ\x7dJKLMNOPQR¹ûüùúÿ\x5c÷STUVWXYZ²ÔÖÒÓÕ0123456789³ÛÜÙÚ"
    ++ "\u009f"

/-- The characters of the upper half of code page `cp720`. -/
def cp720 : String :=
  half ("88é0_Aà_Eç:84>6_>!#q08ô¤pcû5oG!#£pI!0«G░88^fYa,8+6E%==66_T;W/'`+a+Y821L41'S2838+618O6_M+ak3?;'\u0636!$>µpT!(≡"
    ++ "\u064b!%≈°∙·√ⁿ²■\u00a0")

/-- The characters of the upper half of code page `cp737`. -/
def cp737 : String :=
  half "Α!09!&?!0969!$░88^fYa,8+6E%==66_T;W/'`+a+Y821L41'S2838+618O6_M+ak3?;'ωά88SίT85:Ά988998±≥6Ϊ8÷≈°∙·√ⁿ²■\u00a0"

/-- The characters of the upper half of code page `cp775`. -/
def cp775 : String :=
  half ("Ć-$OäģåYłēŖ8īŹÄ8;TÆōöĢ¢Ś8Ö=S£Ø6¤ĀĪóŻ85”¦:<5H6Ł«G░88^fYĄ?C5╣%==ĮŠ┐;W/'`+a+Ų/╚1L41'SŽą?C5OšI/J┘+ak3?;'ÓCŌ.õÕµń)8"
    ++ ";8AĒŅ’\u00ad;“¾/(÷„°∙·916■\u00a0")

/-- The characters of the upper half of code page `cp850`. -/
def cp850 : String :=
  half ("Çü$093<9:84>65Ä8;TÆô93@5=Ö=S£Ø6ƒáC=>.ÑªG<&5H6¡AG░88^fYÁ85©╣%==¢:┐;W/'`+a+ãÃ╚1L41'S¤ðÐ184ıÍ88┘+ak3¦Ì▀ÓC,5ZÕµþÞ3"
    ++ "85[Ý¯<0;‗¾/(÷¸//F916■\u00a0")

/-- The characters of the upper half of code page `cp852`. -/
def cp852 : String :=
  half ("Çü$09ůćçłëŐ8îŹÄĆÉĹ8ô9Ľ8S8Ö=Ť8Ł×čáC=>A8Ž8Ę8¬źČş«G░88^fYÁ8ĚŞ╣%==Ż8┐;W/'`+a+Ă8╚1L41'S¤đ65Ëďa'Í8ě┘+ak3ŢC▀ÓC,Ń8;O8*"
    ++ "ÚŕRýÝţ´0˝5#H§÷¸//˙űŘ8■\u00a0")

/-- The characters of the upper half of code page `cp855`. -/
def cp855 : String :=
  half ("ђЂѓЃёЁєЄѕЅіІїЇјЈљЉњЊћЋќЌўЎџЏюЮSЪ=АXБa$ЦEДXЕ`vФFГ«G░88^fYхХJИ╣%==йЙ┐;W/'`+a+кК╚1L41'S¤лЛXМXНXОX┘+ak3Пя▀ЯHРXСXТX"
    ++ "УJЖSВьЬ№\u00adыЫCЗ`xШ`lЭSЩUЧ§■\u00a0")

/-- The characters of the upper half of code page `cp856`. -/
def cp856 : String :=
  half ("op!:�£�×�777777777®5H6�«G░88^fY�77©╣%==¢:┐;W/'`+a+�7╚1L41'S¤�77777777┘+ak3¦�▀�77777µ�777777¯<0;‗¾/(÷¸//F916■"
    ++ "\u00a0")

/-- The characters of the upper half of code page `cp857`. -/
def cp857 : String :=
  half ("Çü$093<9:84>6ıÄ8;TÆô93@5İÖ=S£ØŞ8áC=>.ÑĞ8¿&5H6¡AG░88^fYÁ85©╣%==¢:┐;W/'`+a+ãÃ╚1L41'S¤M'W84�Í88┘+ak3¦Ì▀ÓC,5ZÕµ�×:"
    ++ "85JJ¯<0;�¾/(÷¸//F916■\u00a0")

/-- The characters of the upper half of code page `cp858`. -/
def cp858 : String :=
  half ("Çü$093<9:84>65Ä8;TÆô93@5=Ö=S£Ø6ƒáC=>.ÑªG<&5H6¡AG░88^fYÁ85©╣%==¢:┐;W/'`+a+ãÃ╚1L41'S¤ðÐ184€Í88┘+ak3¦Ì▀ÓC,5ZÕµþÞ3"
    ++ "85[Ý¯<0;‗¾/(÷¸//F916■\u00a0")

/-- The characters of the upper half of code page `cp860`. -/
def cp860 : String :=
  half ("Çü$084Áç:ÊUÍ>OÃ6>.?ô84ÚVÌ@>¢8Ù₧ÓEC=>.ÑªG<J¬H6¡AG░88^fYa,8+6E%==66_T;W/'`+a+Y821L41'S2838+618O6_M+ak3?;'αßΓπΣWµ"
    ++ "τΦ)HB∞φ&∩a'±≥6bS8÷≈°∙·√ⁿ²■\u00a0")

/-- The characters of the upper half of code page `cp861`. -/
def cp861 : String :=
  half ("Çü$093<9:84ÐW%Ä8;TÆô9?4ÝWÖ=S£Ø₧ƒáC=>ÁC=>¿⌐¬H6¡AG░88^fYa,8+6E%==66_T;W/'`+a+Y821L41'S2838+618O6_M+ak3?;'αßΓπΣWµ"
    ++ "τΦ)HB∞φ&∩a'±≥6bS8÷≈°∙·√ⁿ²■\u00a0")

/-- The characters of the upper half of code page `cp862`. -/
def cp862 : String :=
  half ("op!:¢89₧ƒáC=>.ÑªG<⌐¬H6¡AG░88^fYa,8+6E%==66_T;W/'`+a+Y821L41'S2838+618O6_M+ak3?;'αßΓπΣWµτΦ)HB∞φ&∩a'±≥6bS8÷≈°∙·√"
    ++ "ⁿ²■\u00a0")

/-- The characters of the upper half of code page `cp863`. -/
def cp863 : String :=
  half ("Çü$0ÂU¶ç:84>6‗À§Y69ôË;û5¤Ô?¢8Ù9ƒ¦Eó>¨G23V⌐¬H69$G░88^fYa,8+6E%==66_T;W/'`+a+Y821L41'S2838+618O6_M+ak3?;'αßΓπΣWµ"
    ++ "τΦ)HB∞φ&∩a'±≥6bS8÷≈°∙·√ⁿ²■\u00a0")

/-- The characters of all of code page `cp864`. -/
def cp864 : String :=
  "\x00\x01\x02\x03\x04\x05\x06\x07\x08\x09\x0a\x0b\x0c\x0d\x0e\x0f\x10\x11\x12\x13\x14\x15\x16\x17\x18\x19\x1a"
    ++ "\x1b\x1c\x1d\x1e\x1f !\x22#$٪&'()*+,-./0123456789:;<=>?@ABCDEFGHIJKLMNOPQRSTUVWXYZ[\x5c]^_`abcdefghijklmnopq"
    ++ "rstuvwxyz\x7b|\x7d~\x7f°·∙√▒─│┼┤┬├┴┐┌└┘β∞φ±½¼≈«»\ufef7\ufef8��\ufefb\ufefc�\u00a0\u00ad\ufe82£¤\ufe84��"
    ++ "\ufe8e\ufe8f\ufe95\ufe99،\ufe9d\ufea1\ufea5٠١٢٣٤٥٦٧٨٩\ufed1\u061b\ufeb1\ufeb5\ufeb9\u061f¢\ufe80\ufe81\ufe83"
    ++ "\ufe85\ufeca\ufe8b\ufe8d\ufe91\ufe93\ufe97\ufe9b\ufe9f\ufea3\ufea7\ufea9\ufeab\ufead\ufeaf\ufeb3\ufeb7\ufebb"
    ++ "\ufebf\ufec1\ufec5\ufecb\ufecf¦¬÷×\ufec9\u0640\ufed3\ufed7\ufedb\ufedf\ufee3\ufee7\ufeeb\ufeed\ufeef\ufef3"
    ++ "\ufebd\ufecc\ufece\ufecd\ufee1\ufe7d\u0651\ufee5\ufee9\ufeec\ufef0\ufef2\ufed0\ufed5\ufef5\ufef6\ufedd\ufed9"
    ++ "\ufef1■�"

/-- The characters of the upper half of code page `cp865`. -/
def cp865 : String :=
  half ("Çü$093<9:84>65Ä8;TÆô93@5=Ö=S£Ø₧ƒáC=>.ÑªG<⌐¬H6¡A0░88^fYa,8+6E%==66_T;W/'`+a+Y821L41'S2838+618O6_M+ak3?;'αßΓπΣWµ"
    ++ "τΦ)HB∞φ&∩a'±≥6bS8÷≈°∙·√ⁿ²■\u00a0")

/-- The characters of the upper half of code page `cp866`. -/
def cp866 : String :=
  half "А!O░88^fYa,8+6E%==66_T;W/'`+a+Y821L41'S2838+618O6_M+ak3?;'р!/ЁёЄєЇїЎў°∙·√]K¤■\u00a0"

/-- The characters of the upper half of code page `cp869`. -/
def cp869 : String :=
  half ("�77777Ά�·,1‘8Έ―Ή8WΌ�7ΎT©Ώ²8ά£έ88Rΐό8Α!&½Θ8«G░88^fYΚ!#╣%==Ξ8┐;W/'`+a+Π8╚1L41'SΣ!&?88┘+ak3δ8▀ζ!+969΄\u00ad;υ88§ψ"
    ++ "΅°/ω9ΰU■\u00a0")

/-- The characters of the upper half of code page `cp874`. -/
def cp874 : String :=
  half "€�777…�7777777777‘8:8<(8�7777777\u00a0ก!Y�777฿!<�777"

/-- The characters of all of code page `cp875`. -/
def cp875 : String :=
  mainframe ++ "ΑΒΓΔΕΖΗΘΙ[.<(+!&ΚΛΜΝΞΟΠΡΣ]$*);^-/ΤΥΦΧΨΩΪΫ|,%_>?¨ΆΈΉ\u00a0ΊΌΎΏ`:#@'=\x22΅abcdefghiαβγδεζ°jklmnopqrηθικλμ´~stu"
    ++ "vwxyzνξοπρσ£άέήϊίόύϋώςτυφχψ\x7bABCDEFGHI\u00adωΐΰ‘―\x7dJKLMNOPQR±½\x1a\u0387’¦\x5c\x1aSTUVWXYZ²§\x1a\x1a«¬01"
    ++ "23456789³©\x1a\x1a»\u009f"

/-- The characters of the upper half of code page `hp-roman8`. -/
def hpRoman8 : String :=
  half "!AW9=98:8´ˋ2¨˜Ù9₤¯ÝW°NWÑW¡U¤699ƒ¢â?A>á?A>à?A>ä>B=ÅîØ%V?B%ÄìÖ=$ï',$9W$WÍ6>6:WŠ8ÚŸÿÞW·58?—¼8$G(■»-�"

/-- The characters of the upper half of code page `iso8859-10`. -/
def iso885910 : String :=
  half "!AĄEG?5E§ĻĐŠ=N^'ŪŊ°ąEG?5E·ļđš=N―ūŋĀÁ!%ĮČÉĘËĖÍ!#Ņ>Ó!#ŨØŲÚ!%Yá!%įčéęëėí!#ņ>ó!#ũøųú!$ĸ"

/-- The characters of the upper half of code page `iso8859-11`. -/
def iso885911 : String :=
  half "!Aก!Y�777฿!<�777"

/-- The characters of the upper half of code page `iso8859-13`. -/
def iso885913 : String :=
  half "!A”¢88„¦8Ø©Ŗ«!#O°!#“µ88ø¹ŗ»!#æUĮĀ=Ä8Ę11ÉŹĖCK+HŠŃ9ÓŌÕ88ŲŁPGÜŻ9ßąįā=ä8ę11éźėCK+Hšń9óōõ88ųłPGüż9’"

/-- The characters of the upper half of code page `iso8859-14`. -/
def iso885914 : String :=
  half "!AḂ8£Ċ8Ḋ§Ẁ©Ẃ_(c&\u00ad8ŸḞ8Ġ8Ṁ8¶Ṗ`r_u`s`$b*_08`#À!/ŴÑ!%ṪØ!%Ŷß!0ŵñ!%ṫø!%ŷÿ"

/-- The characters of the upper half of code page `iso8859-15`. -/
def iso885915 : String :=
  half "!D€¥Š§š©!*Žµ88ž¹88Œ8Ÿ¿!`"

/-- The characters of the upper half of code page `iso8859-16`. -/
def iso885916 : String :=
  half "!AĄ8Ł€^iŠ§š©Ș«Ź^+ź8°8ČłŽ”¶8žčș»Œ8Ÿ;À88ĂÄĆÆ!)ĐŃÒ88ŐÖŚMÙ!#ĘȚß!#XäZæ!)Yńò88őöśMù!#Tțÿ"

/-- The characters of the upper half of code page `iso8859-2`. -/
def iso88592 : String :=
  half "!AĄ˘Ł¤ĽT§8Š5=L^+Ž5°ą˛ł´ľTˇ¸š5=L˝ž5ŔÁ8ĂÄĹĆÇČÉĘËĚÍ8Ď9Ń;Ó8ŐÖ8ŘMÚŰÜ8Ţßŕá8Xäĺćçčéęëěí8X9ń;ó8őö8řMúűü8ţ˙"

/-- The characters of the upper half of code page `iso8859-3`. -/
def iso88593 : String :=
  half "!AĦ˘£8�Ĥ§8İŞĞM^p�Ż°ħ²!#ĥ·8ışğM½�żÀ88�ÄĊ5Ç!(�Ñ!#ĠÖ8ĜÙ!#Ŭ'ß!#�ä`n5ç!(�ñ!#ġö8ĝù!#ŭ'˙"

/-- The characters of the upper half of code page `iso8859-4`. -/
def iso88594 : String :=
  half "!AĄĸU¤ĨJ§8ŠĒGŦ^>Ž¯8ą˛ŗ´ĩJˇ¸šēGŧŊžŋĀÁ!%ĮČÉĘËĖÍ8ĪĐŅ>ĶÔ!$ŲÚ88Ũ9ßYá!%įčéęëėí8īđņ>ķô!$ųú88ũ9˙"

/-- The characters of the upper half of code page `iso8859-5`. -/
def iso88595 : String :=
  half "!AЁ!+\u00adЎ!a№ё!+§ў8"

/-- The characters of the upper half of code page `iso8859-6`. -/
def iso88596 : String :=
  half "!A�77¤�777777،\u00ad�777777777777\u061b�77\u061f�\u0621!9�7777\u0640!2�777777777777"

/-- The characters of the upper half of code page `iso8859-7`. -/
def iso88597 : String :=
  half "!A‘8£€:¦!#ͺ«88�―°!#΄88·Έ88»Ό½Ύ!3�Σ!K�"

/-- The characters of the upper half of code page `iso8859-8`. -/
def iso88598 : String :=
  half "!A�¢!'×«!.÷»!#�7777777777777777777777777777777‗\u05d0!:�7\u200e8�"

/-- The characters of the upper half of code page `iso8859-9`. -/
def iso88599 : String :=
  half "!pĞÑ!+İŞß!0ğñ!+ışÿ"

/-- The characters of the upper half of code page `koi8-r`. -/
def koi8R : String :=
  half "─9A;;;;????a3;;;;!#⌠g_∙8`uS8\u00a0⌡°9<÷═88ё╓!.Ё╢!*©юа8L%8F&I*!'G(!#*3Q6#H<35:ЮА8L%8F&I*!'G(!#*3Q6#H<35:"

/-- The characters of the upper half of code page `koi8-t`. -/
def koi8T : String :=
  half ("қ/‚Ғ„?18�‰ҳ‹Ҳ<6�Қ‘8:8<(8�™�›�7777ӯ6ё¤ӣ¦8�77«!#�°88Ё�Ӣ¶8�№�»�77©юа8L%8F&I*!'G(!#*3Q6#H<35:ЮА8L%8F&I*!'G(!#*3Q6#"
    ++ "H<35:")

/-- The characters of the upper half of code page `koi8-u`. -/
def koi8U : String :=
  half ("─9A;;;;????a3;;;;!#⌠g_∙8`uS8\u00a0⌡°9<÷═88ё:╔і8╗!$ґ╝!$Ё:╣І8╦!$Ґ╬©юа8L%8F&I*!'G(!#*3Q6#H<35:ЮА8L%8F&I*!'G(!#*3Q"
    ++ "6#H<35:")

/-- The characters of the upper half of code page `kz1048`. -/
def kz1048 : String :=
  half "Ђ8‚ѓ„?18az_#Љ‹ЊҚWЏђ‘8:8<(8�™љ›њқWџ\u00a0Ұ8Ә¤Ө¦8Ё©Ғ«!#Ү°8Ііөµ88ё№ғ»әҢ8CА!_"

/-- The characters of the upper half of code page `mac-arabic`. -/
def macArabic : String :=
  "Ä\u00a0ÇÉÑÖÜáàâä\u06ba«çéèêëí…îïñó»ôö÷úùûü !\x22#$٪&'()*+،-./٠١٢٣٤٥٦٧٨٩:\u061b<=>\u061f❊\u0621\u0622\u0623"
    ++ "\u0624\u0625\u0626\u0627\u0628\u0629\u062a\u062b\u062c\u062d\u062e\u062f\u0630\u0631\u0632\u0633\u0634\u0635"
    ++ "\u0636\u0637\u0638\u0639\u063a[\x5c]^_\u0640\u0641\u0642\u0643\u0644\u0645\u0646\u0647\u0648\u0649\u064a"
    ++ "\u064b\u064c\u064d\u064e\u064f\u0650\u0651\u0652\u067e\u0679\u0686\u06d5\u06a4\u06af\u0688\u0691\x7b|\x7d"
    ++ "\u0698\u06d2"

/-- The characters of the upper half of code page `mac-croatian`. -/
def macCroatian : String :=
  half ("Ä899?<=<69969996989698996996<698†°)8;•¶ß®Š™´+≠ŽØ∞±≤8_@µ∂F5š∫ªGΩžø¿¡B√ƒ≈Ć«Č…\u00a0W:IŒ8Đ—?828÷◊\uf8ff©⁄aW_,8Æ,–"
    ++ "·‚;IÂćÁčÈ<884>8đÒ?85ıˆM¯πË˚¸ISˇ")

/-- The characters of the upper half of code page `mac-cyrillic`. -/
def macCyrillic : String :=
  half "А!?†°Ґ£;•¶І®2™Ђђ≠Ѓѓ∞±≤8іµґЈ3єЇїЉљЊњ5Ѕ¬√ƒ≈_]«G…\u00a0ЋћЌќ0–8?828÷„ЎўЏџ№Ёё5а!>€"

/-- The characters of the upper half of code page `mac-farsi`. -/
def macFarsi : String :=
  "Ä\u00a0ÇÉÑÖÜáàâä\u06ba«çéèêëí…îïñó»ôö÷úùûü !\x22#$٪&'()*+،-./۰۱۲۳۴۵۶۷۸۹:\u061b<=>\u061f❊\u0621\u0622\u0623"
    ++ "\u0624\u0625\u0626\u0627\u0628\u0629\u062a\u062b\u062c\u062d\u062e\u062f\u0630\u0631\u0632\u0633\u0634\u0635"
    ++ "\u0636\u0637\u0638\u0639\u063a[\x5c]^_\u0640\u0641\u0642\u0643\u0644\u0645\u0646\u0647\u0648\u0649\u064a"
    ++ "\u064b\u064c\u064d\u064e\u064f\u0650\u0651\u0652\u067e\u0679\u0686\u06d5\u06a4\u06af\u0688\u0691\x7b|\x7d"
    ++ "\u0698\u06d2"

/-- The characters of the upper half of code page `mac-greek`. -/
def macGreek : String :=
  half ("Ä,0N³Z=΅à99΄¨ç9698£™î8•½‰ô9¦€ù98†Γ8;::9ß®2Σ>§≠°>Α±≤8¥Β:88989A<48:(¬Ο9≈Τ«G…\u00a0Υ9Ά9œ–9>828÷Ή899V88TΏύα8M#8H$;"
    ++ "9<3!#98E*98+H0<5(K8ΐW\u00ad")

/-- The characters of the upper half of code page `mac-iceland`. -/
def macIceland : String :=
  half ("Ä899?<=<69969996989698996996<698Ý°)8;•¶ß®2™´+≠ÆI∞±≤8¥G∂F5π∫ªGΩæI¿¡B√ƒ≈_]«G…\u00a0W:IŒ8–8?828÷◊ÿŸ⁄aWÐW%W6·‚;IÂ?"
    ++ ".A4<884>8\uf8ffÒ?85ıˆM¯˘88¸˝5#")

/-- The characters of the upper half of code page `mac-latin2`. -/
def macLatin2 : String :=
  half ("ÄĀ8ÉĄÖ=<[>äč08éŹ8ĎíY:8:ó[ô96<W8ü†°Ę£;•¶ß®2™ę¨≠ģB82≤8īB∂Fł0!#28B84¬√ń:∆«G…\u00a0ň?Õő2–8?828÷◊ō>8:‹8ř48@‚;š08ÁŤ8"
    ++ "ÍŽ8#Ó8ū:Úů!$ÝWķŻŁżĢˇ")

/-- The characters of the upper half of code page `mac-roman`. -/
def macRoman : String :=
  half ("Ä899?<=<69969996989698996996<698†°)8;•¶ß®2™´+≠ÆI∞±≤8¥G∂F5π∫ªGΩæI¿¡B√ƒ≈_]«G…\u00a0W:IŒ8–8?828÷◊ÿŸ⁄aW_,8ﬁ8‡·‚;IÂ"
    ++ "?.A4<884>8\uf8ffÒ?85ıˆM¯˘88¸˝5#")

/-- The characters of the upper half of code page `mac-romanian`. -/
def macRomanian : String :=
  half ("Ä899?<=<69969996989698996996<698†°)8;•¶ß®2™´+≠ĂȘ∞±≤8¥G∂F5π∫ªGΩăș¿¡B√ƒ≈_]«G…\u00a0W:IŒ8–8?828÷◊ÿŸ⁄aW_,8Ț8‡·‚;IÂ"
    ++ "?.A4<884>8\uf8ffÒ?85ıˆM¯˘88¸˝5#")

/-- The characters of the upper half of code page `mac-turkish`. -/
def macTurkish : String :=
  half ("Ä899?<=<69969996989698996996<698†°)8;•¶ß®2™´+≠ÆI∞±≤8¥G∂F5π∫ªGΩæI¿¡B√ƒ≈_]«G…\u00a0W:IŒ8–8?828÷◊ÿŸĞ8H8Ş8‡·‚;IÂ?."
    ++ "A4<884>8\uf8ffÒ?85\uf8a0ˆM¯˘88¸˝5#")

/-- The characters of the upper half of code page `palmos`. -/
def palmos : String :=
  half "€\u0081‚ƒ„?18ˆ‰Š‹Œ♦492‘8:8<(8˜™š^1œ^A8Ÿ]w!z!%"

/-- The characters of the upper half of code page `ptcp154`. -/
def ptcp154 : String :=
  half "Җ3Ӯғ„?Ҷ/;4(ӢҢ/W5җ‘8:8<(8ҳ;ҡӣң/W5\u00a0ЎўЈӨҘO§Ё©Ә«8ӯ®Ҝ°ұІіҙө¶8ё№ә»јҪ8)А!_"

/-- The characters of the upper half of code page `tis-620`. -/
def tis620 : String :=
  half "!@�ก!Y�777฿!<�777"

end GirDoc.Text.Charset.Table

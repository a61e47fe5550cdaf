import XmlGraft.Text.Charset

/-!
# Code pages — character sets of one byte for each character

The rows of a page are those of a square of sixteen by sixteen bytes, from the first on where the
page is not the same as Latin-1; a row may be written in two halves. A full stop stands for a byte
without a character. -/

namespace XmlGraft.Text.Charset

/-- Latin-2, for Central Europe. -/
def latin2 : Charset := .page 160 [
  "\xA0Ą˘Ł¤ĽŚ§¨ŠŞŤŹ\xADŽŻ",
  "°ą˛ł´ľśˇ¸šşťź˝žż",
  "ŔÁÂĂÄĹĆÇČÉĘËĚÍÎĎ",
  "ĐŃŇÓÔŐÖ×ŘŮÚŰÜÝŢß",
  "ŕáâăäĺćçčéęëěíîď",
  "đńňóôőö÷řůúűüýţ˙"]

/-- Latin-3, for Southern Europe. -/
def latin3 : Charset := .page 160 [
  "\xA0Ħ˘£¤.Ĥ§¨İŞĞĴ\xAD.Ż",
  "°ħ²³´µĥ·¸ışğĵ½.ż",
  "ÀÁÂ.ÄĊĈÇÈÉÊËÌÍÎÏ",
  ".ÑÒÓÔĠÖ×ĜÙÚÛÜŬŜß",
  "àáâ.äċĉçèéêëìíîï",
  ".ñòóôġö÷ĝùúûüŭŝ˙"]

/-- Latin-4, for Northern Europe. -/
def latin4 : Charset := .page 160 [
  "\xA0ĄĸŖ¤ĨĻ§¨ŠĒĢŦ\xADŽ¯",
  "°ą˛ŗ´ĩļˇ¸šēģŧŊžŋ",
  "ĀÁÂÃÄÅÆĮČÉĘËĖÍÎĪ",
  "ĐŅŌĶÔÕÖ×ØŲÚÛÜŨŪß",
  "āáâãäåæįčéęëėíîī",
  "đņōķôõö÷øųúûüũū˙"]

/-- The Cyrillic part of the Latin series. -/
def latinCyrillic : Charset := .page 160 [
  "\xA0ЁЂЃЄЅІЇЈЉЊЋЌ\xADЎЏ",
  "АБВГДЕЖЗИЙКЛМНОП",
  "РСТУФХЦЧШЩЪЫЬЭЮЯ",
  "абвгдежзийклмноп",
  "рстуфхцчшщъыьэюя",
  "№ёђѓєѕіїјљњћќ§ўџ"]

/-- The Arabic part of the Latin series. -/
def latinArabic : Charset := .page 160 [
  "\xA0...¤...",
  "....،\xAD..",
  "........",
  "...\u061B...\u061F",
  ".\u0621\u0622\u0623\u0624\u0625\u0626\u0627",
  "\u0628\u0629\u062A\u062B\u062C\u062D\u062E\u062F",
  "\u0630\u0631\u0632\u0633\u0634\u0635\u0636\u0637",
  "\u0638\u0639\u063A.....",
  "\u0640\u0641\u0642\u0643\u0644\u0645\u0646\u0647",
  "\u0648\u0649\u064A\u064B\u064C\u064D\u064E\u064F",
  "\u0650\u0651\u0652.....",
  "........"]

/-- The Greek part of the Latin series. -/
def latinGreek : Charset := .page 160 [
  "\xA0‘’£€₯¦§¨©ͺ«¬\xAD.―",
  "°±²³΄΅Ά·ΈΉΊ»Ό½ΎΏ",
  "ΐΑΒΓΔΕΖΗΘΙΚΛΜΝΞΟ",
  "ΠΡ.ΣΤΥΦΧΨΩΪΫάέήί",
  "ΰαβγδεζηθικλμνξο",
  "πρςστυφχψωϊϋόύώ."]

/-- The Hebrew part of the Latin series. -/
def latinHebrew : Charset := .page 160 [
  "\xA0.¢£¤¥¦§",
  "¨©×«¬\xAD®¯",
  "°±²³´µ¶·",
  "¸¹÷»¼½¾.",
  "........",
  "........",
  "........",
  ".......‗",
  "\u05D0\u05D1\u05D2\u05D3\u05D4\u05D5\u05D6\u05D7",
  "\u05D8\u05D9\u05DA\u05DB\u05DC\u05DD\u05DE\u05DF",
  "\u05E0\u05E1\u05E2\u05E3\u05E4\u05E5\u05E6\u05E7",
  "\u05E8\u05E9\u05EA..\u200E\u200F."]

/-- Latin-5, for Turkish. -/
def latin5 : Charset := .page 160 [
  "\xA0¡¢£¤¥¦§¨©ª«¬\xAD®¯",
  "°±²³´µ¶·¸¹º»¼½¾¿",
  "ÀÁÂÃÄÅÆÇÈÉÊËÌÍÎÏ",
  "ĞÑÒÓÔÕÖ×ØÙÚÛÜİŞß",
  "àáâãäåæçèéêëìíîï",
  "ğñòóôõö÷øùúûüışÿ"]

/-- Latin-6, for Nordic languages. -/
def latin6 : Charset := .page 160 [
  "\xA0ĄĒĢĪĨĶ§ĻĐŠŦŽ\xADŪŊ",
  "°ąēģīĩķ·ļđšŧž―ūŋ",
  "ĀÁÂÃÄÅÆĮČÉĘËĖÍÎÏ",
  "ÐŅŌÓÔÕÖŨØŲÚÛÜÝÞß",
  "āáâãäåæįčéęëėíîï",
  "ðņōóôõöũøųúûüýþĸ"]

/-- The Thai part of the Latin series. -/
def latinThai : Charset := .page 160 [
  "\xA0กขฃคฅฆงจฉชซฌญฎฏ",
  "ฐฑฒณดตถทธนบปผฝพฟ",
  "ภมยรฤลฦวศษสหฬอฮฯ",
  "ะ\u0E31าำ\u0E34\u0E35\u0E36\u0E37\u0E38\u0E39\u0E3A....฿",
  "เแโใไๅๆ\u0E47\u0E48\u0E49\u0E4A\u0E4B\u0E4C\u0E4D\u0E4E๏",
  "๐๑๒๓๔๕๖๗๘๙๚๛...."]

/-- Latin-7, for Baltic languages. -/
def latin7 : Charset := .page 160 [
  "\xA0”¢£¤„¦§Ø©Ŗ«¬\xAD®Æ",
  "°±²³“µ¶·ø¹ŗ»¼½¾æ",
  "ĄĮĀĆÄÅĘĒČÉŹĖĢĶĪĻ",
  "ŠŃŅÓŌÕÖ×ŲŁŚŪÜŻŽß",
  "ąįāćäåęēčéźėģķīļ",
  "šńņóōõö÷ųłśūüżž’"]

/-- Latin-8, for Celtic languages. -/
def latin8 : Charset := .page 160 [
  "\xA0Ḃḃ£ĊċḊ§Ẁ©ẂḋỲ\xAD®Ÿ",
  "ḞḟĠġṀṁ¶ṖẁṗẃṠỳẄẅṡ",
  "ÀÁÂÃÄÅÆÇÈÉÊËÌÍÎÏ",
  "ŴÑÒÓÔÕÖṪØÙÚÛÜÝŶß",
  "àáâãäåæçèéêëìíîï",
  "ŵñòóôõöṫøùúûüýŷÿ"]

/-- Latin-9: Latin-1 with the euro sign. -/
def latin9 : Charset := .page 160 [
  "\xA0¡¢£€¥Š§š©ª«¬\xAD®¯",
  "°±²³Žµ¶·ž¹º»ŒœŸ¿",
  "ÀÁÂÃÄÅÆÇÈÉÊËÌÍÎÏ",
  "ÐÑÒÓÔÕÖ×ØÙÚÛÜÝÞß",
  "àáâãäåæçèéêëìíîï",
  "ðñòóôõö÷øùúûüýþÿ"]

/-- Latin-10, for South-Eastern Europe. -/
def latin10 : Charset := .page 160 [
  "\xA0ĄąŁ€„Š§š©Ș«Ź\xADźŻ",
  "°±ČłŽ”¶·žčș»ŒœŸż",
  "ÀÁÂĂÄĆÆÇÈÉÊËÌÍÎÏ",
  "ĐŃÒÓÔŐÖŚŰÙÚÛÜĘȚß",
  "àáâăäćæçèéêëìíîï",
  "đńòóôőöśűùúûüęțÿ"]

/-- The Russian set whose letters keep their place in Latin when the high bit is lost. -/
def koi8R : Charset := .page 128 [
  "─│┌┐└┘├┤┬┴┼▀▄█▌▐",
  "░▒▓⌠■∙√≈≤≥\xA0⌡°²·÷",
  "═║╒ё╓╔╕╖╗╘╙╚╛╜╝╞",
  "╟╠╡Ё╢╣╤╥╦╧╨╩╪╫╬©",
  "юабцдефгхийклмно",
  "пярстужвьызшэщчъ",
  "ЮАБЦДЕФГХИЙКЛМНО",
  "ПЯРСТУЖВЬЫЗШЭЩЧЪ"]

/-- The Ukrainian variant of `koi8R`. -/
def koi8U : Charset := .page 128 [
  "─│┌┐└┘├┤┬┴┼▀▄█▌▐",
  "░▒▓⌠■∙√≈≤≥\xA0⌡°²·÷",
  "═║╒ёє╔ії╗╘╙╚╛ґ╝╞",
  "╟╠╡ЁЄ╣ІЇ╦╧╨╩╪Ґ╬©",
  "юабцдефгхийклмно",
  "пярстужвьызшэщчъ",
  "ЮАБЦДЕФГХИЙКЛМНО",
  "ПЯРСТУЖВЬЫЗШЭЩЧЪ"]

/-- The Tajik variant of `koi8R`. -/
def koi8T : Charset := .page 128 [
  "қғ‚Ғ„…†‡.‰ҳ‹ҲҷҶ.",
  "Қ‘’“”•–—.™.›....",
  ".ӯӮё¤ӣ¦§...«¬\xAD®.",
  "°±²Ё.Ӣ¶·.№.»...©",
  "юабцдефгхийклмно",
  "пярстужвьызшэщчъ",
  "ЮАБЦДЕФГХИЙКЛМНО",
  "ПЯРСТУЖВЬЫЗШЭЩЧЪ"]

/-- The Central European page of Windows. -/
def windows1250 : Charset := .page 128 [
  "€.‚.„…†‡.‰Š‹ŚŤŽŹ",
  ".‘’“”•–—.™š›śťžź",
  "\xA0ˇ˘Ł¤Ą¦§¨©Ş«¬\xAD®Ż",
  "°±˛ł´µ¶·¸ąş»Ľ˝ľż",
  "ŔÁÂĂÄĹĆÇČÉĘËĚÍÎĎ",
  "ĐŃŇÓÔŐÖ×ŘŮÚŰÜÝŢß",
  "ŕáâăäĺćçčéęëěíîď",
  "đńňóôőö÷řůúűüýţ˙"]

/-- The Cyrillic page of Windows. -/
def windows1251 : Charset := .page 128 [
  "ЂЃ‚ѓ„…†‡€‰Љ‹ЊЌЋЏ",
  "ђ‘’“”•–—.™љ›њќћџ",
  "\xA0ЎўЈ¤Ґ¦§Ё©Є«¬\xAD®Ї",
  "°±Ііґµ¶·ё№є»јЅѕї",
  "АБВГДЕЖЗИЙКЛМНОП",
  "РСТУФХЦЧШЩЪЫЬЭЮЯ",
  "абвгдежзийклмноп",
  "рстуфхцчшщъыьэюя"]

/-- The Western page of Windows. -/
def windows1252 : Charset := .page 128 [
  "€.‚ƒ„…†‡ˆ‰Š‹Œ.Ž.",
  ".‘’“”•–—˜™š›œ.žŸ",
  "\xA0¡¢£¤¥¦§¨©ª«¬\xAD®¯",
  "°±²³´µ¶·¸¹º»¼½¾¿",
  "ÀÁÂÃÄÅÆÇÈÉÊËÌÍÎÏ",
  "ÐÑÒÓÔÕÖ×ØÙÚÛÜÝÞß",
  "àáâãäåæçèéêëìíîï",
  "ðñòóôõö÷øùúûüýþÿ"]

/-- The Greek page of Windows. -/
def windows1253 : Charset := .page 128 [
  "€.‚ƒ„…†‡.‰.‹....",
  ".‘’“”•–—.™.›....",
  "\xA0΅Ά£¤¥¦§¨©.«¬\xAD®―",
  "°±²³΄µ¶·ΈΉΊ»Ό½ΎΏ",
  "ΐΑΒΓΔΕΖΗΘΙΚΛΜΝΞΟ",
  "ΠΡ.ΣΤΥΦΧΨΩΪΫάέήί",
  "ΰαβγδεζηθικλμνξο",
  "πρςστυφχψωϊϋόύώ."]

/-- The Turkish page of Windows. -/
def windows1254 : Charset := .page 128 [
  "€.‚ƒ„…†‡ˆ‰Š‹Œ...",
  ".‘’“”•–—˜™š›œ..Ÿ",
  "\xA0¡¢£¤¥¦§¨©ª«¬\xAD®¯",
  "°±²³´µ¶·¸¹º»¼½¾¿",
  "ÀÁÂÃÄÅÆÇÈÉÊËÌÍÎÏ",
  "ĞÑÒÓÔÕÖ×ØÙÚÛÜİŞß",
  "àáâãäåæçèéêëìíîï",
  "ğñòóôõö÷øùúûüışÿ"]

/-- The Hebrew page of Windows. -/
def windows1255 : Charset := .page 128 [
  "€.‚ƒ„…†‡",
  "ˆ‰.‹....",
  ".‘’“”•–—",
  "˜™.›....",
  "\xA0¡¢£₪¥¦§",
  "¨©×«¬\xAD®¯",
  "°±²³´µ¶·",
  "¸¹÷»¼½¾¿",
  "\u05B0\u05B1\u05B2\u05B3\u05B4\u05B5\u05B6\u05B7",
  "\u05B8\u05B9.\u05BB\u05BC\u05BD\u05BE\u05BF",
  "\u05C0\u05C1\u05C2\u05C3\u05F0\u05F1\u05F2\u05F3",
  "\u05F4.......",
  "\u05D0\u05D1\u05D2\u05D3\u05D4\u05D5\u05D6\u05D7",
  "\u05D8\u05D9\u05DA\u05DB\u05DC\u05DD\u05DE\u05DF",
  "\u05E0\u05E1\u05E2\u05E3\u05E4\u05E5\u05E6\u05E7",
  "\u05E8\u05E9\u05EA..\u200E\u200F."]

/-- The Arabic page of Windows. -/
def windows1256 : Charset := .page 128 [
  "€\u067E‚ƒ„…†‡",
  "ˆ‰\u0679‹Œ\u0686\u0698\u0688",
  "\u06AF‘’“”•–—",
  "\u06A9™\u0691›œ\u200C\u200D\u06BA",
  "\xA0،¢£¤¥¦§",
  "¨©\u06BE«¬\xAD®¯",
  "°±²³´µ¶·",
  "¸¹\u061B»¼½¾\u061F",
  "\u06C1\u0621\u0622\u0623\u0624\u0625\u0626\u0627",
  "\u0628\u0629\u062A\u062B\u062C\u062D\u062E\u062F",
  "\u0630\u0631\u0632\u0633\u0634\u0635\u0636×",
  "\u0637\u0638\u0639\u063A\u0640\u0641\u0642\u0643",
  "à\u0644â\u0645\u0646\u0647\u0648ç",
  "èéêë\u0649\u064Aîï",
  "\u064B\u064C\u064D\u064Eô\u064F\u0650÷",
  "\u0651ù\u0652ûü\u200E\u200F\u06D2"]

/-- The Baltic page of Windows. -/
def windows1257 : Charset := .page 128 [
  "€.‚.„…†‡.‰.‹.¨ˇ¸",
  ".‘’“”•–—.™.›.¯˛.",
  "\xA0.¢£¤.¦§Ø©Ŗ«¬\xAD®Æ",
  "°±²³´µ¶·ø¹ŗ»¼½¾æ",
  "ĄĮĀĆÄÅĘĒČÉŹĖĢĶĪĻ",
  "ŠŃŅÓŌÕÖ×ŲŁŚŪÜŻŽß",
  "ąįāćäåęēčéźėģķīļ",
  "šńņóōõö÷ųłśūüżž˙"]

/-- The Vietnamese page of Windows. -/
def windows1258 : Charset := .page 128 [
  "€.‚ƒ„…†‡ˆ‰.‹Œ...",
  ".‘’“”•–—˜™.›œ..Ÿ",
  "\xA0¡¢£¤¥¦§¨©ª«¬\xAD®¯",
  "°±²³´µ¶·¸¹º»¼½¾¿",
  "ÀÁÂĂÄÅÆÇÈÉÊË\u0300ÍÎÏ",
  "ĐÑ\u0309ÓÔƠÖ×ØÙÚÛÜƯ\u0303ß",
  "àáâăäåæçèéêë\u0301íîï",
  "đñ\u0323óôơö÷øùúûüư₫ÿ"]

/-- The Thai page of Windows. -/
def windows874 : Charset := .page 128 [
  "€....…..........",
  ".‘’“”•–—........",
  "\xA0กขฃคฅฆงจฉชซฌญฎฏ",
  "ฐฑฒณดตถทธนบปผฝพฟ",
  "ภมยรฤลฦวศษสหฬอฮฯ",
  "ะ\u0E31าำ\u0E34\u0E35\u0E36\u0E37\u0E38\u0E39\u0E3A....฿",
  "เแโใไๅๆ\u0E47\u0E48\u0E49\u0E4A\u0E4B\u0E4C\u0E4D\u0E4E๏",
  "๐๑๒๓๔๕๖๗๘๙๚๛...."]

/-- The Western page of the PC. -/
def pc850 : Charset := .page 128 [
  "ÇüéâäàåçêëèïîìÄÅ",
  "ÉæÆôöòûùÿÖÜø£Ø×ƒ",
  "áíóúñÑªº¿®¬½¼¡«»",
  "░▒▓│┤ÁÂÀ©╣║╗╝¢¥┐",
  "└┴┬├─┼ãÃ╚╔╩╦╠═╬¤",
  "ðÐÊËÈıÍÎÏ┘┌█▄¦Ì▀",
  "ÓßÔÒõÕµþÞÚÛÙýÝ¯´",
  "\xAD±‗¾¶§÷¸°¨·¹³²■\xA0"]

/-- The Hebrew page of the PC. -/
def pc862 : Charset := .page 128 [
  "\u05D0\u05D1\u05D2\u05D3\u05D4\u05D5\u05D6\u05D7",
  "\u05D8\u05D9\u05DA\u05DB\u05DC\u05DD\u05DE\u05DF",
  "\u05E0\u05E1\u05E2\u05E3\u05E4\u05E5\u05E6\u05E7",
  "\u05E8\u05E9\u05EA¢£¥₧ƒ",
  "áíóúñÑªº",
  "¿⌐¬½¼¡«»",
  "░▒▓│┤╡╢╖",
  "╕╣║╗╝╜╛┐",
  "└┴┬├─┼╞╟",
  "╚╔╩╦╠═╬╧",
  "╨╤╥╙╘╒╓╫",
  "╪┘┌█▄▌▐▀",
  "αßΓπΣσµτ",
  "ΦΘΩδ∞φε∩",
  "≡±≥≤⌠⌡÷≈",
  "°∙·√ⁿ²■\xA0"]

/-- The Cyrillic page of the PC. -/
def pc866 : Charset := .page 128 [
  "АБВГДЕЖЗИЙКЛМНОП",
  "РСТУФХЦЧШЩЪЫЬЭЮЯ",
  "абвгдежзийклмноп",
  "░▒▓│┤╡╢╖╕╣║╗╝╜╛┐",
  "└┴┬├─┼╞╟╚╔╩╦╠═╬╧",
  "╨╤╥╙╘╒╓╫╪┘┌█▄▌▐▀",
  "рстуфхцчшщъыьэюя",
  "ЁёЄєЇїЎў°∙·√№¤■\xA0"]

/-- The Western page of the Macintosh. -/
def macintosh : Charset := .page 128 [
  "ÄÅÇÉÑÖÜáàâäãåçéè",
  "êëíìîïñóòôöõúùûü",
  "†°¢£§•¶ß®©™´¨≠ÆØ",
  "∞±≤≥¥µ∂∑∏π∫ªºΩæø",
  "¿¡¬√ƒ≈∆«»…\xA0ÀÃÕŒœ",
  "–—“”‘’÷◊ÿŸ⁄€‹›ﬁﬂ",
  "‡·‚„‰ÂÊÁËÈÍÎÏÌÓÔ",
  ".ÒÚÛÙıˆ˜¯˘˙˚¸˝˛ˇ"]

/-- The Western page of terminals and printers. -/
def hpRoman8 : Charset := .page 128 [
  "\x80\x81\x82\x83\x84\x85\x86\x87\x88\x89\x8A\x8B\x8C\x8D\x8E\x8F",
  "\x90\x91\x92\x93\x94\x95\x96\x97\x98\x99\x9A\x9B\x9C\x9D\x9E\x9F",
  "\xA0ÀÂÈÊËÎÏ´ˋˆ¨˜ÙÛ₤",
  "¯Ýý°ÇçÑñ¡¿¤£¥§ƒ¢",
  "âêôûáéóúàèòùäëöü",
  "ÅîØÆåíøæÄìÖÜÉïßÔ",
  "ÁÃãÐðÍÌÓÒÕõŠšÚŸÿ",
  "Þþ·µ¶¾—¼½ªº«■»±."]

/-- A Cyrillic page for the languages of Central Asia. -/
def cyrillicAsian : Charset := .page 128 [
  "ҖҒӮғ„…ҶҮҲүҠӢҢҚҺҸ",
  "җ‘’“”•–—ҳҷҡӣңқһҹ",
  "\xA0ЎўЈӨҘҰ§Ё©Ә«¬ӯ®Ҝ",
  "°ұІіҙө¶·ё№ә»јҪҫҝ",
  "АБВГДЕЖЗИЙКЛМНОП",
  "РСТУФХЦЧШЩЪЫЬЭЮЯ",
  "абвгдежзийклмноп",
  "рстуфхцчшщъыьэюя"]

/-- A Cyrillic page for Kazakh. -/
def kazakh : Charset := .page 128 [
  "ЂЃ‚ѓ„…†‡€‰Љ‹ЊҚҺЏ",
  "ђ‘’“”•–—.™љ›њқһџ",
  "\xA0ҰұӘ¤Ө¦§Ё©Ғ«¬\xAD®Ү",
  "°±Ііөµ¶·ё№ғ»әҢңү",
  "АБВГДЕЖЗИЙКЛМНОП",
  "РСТУФХЦЧШЩЪЫЬЭЮЯ",
  "абвгдежзийклмноп",
  "рстуфхцчшщъыьэюя"]

/-- The Thai national set. -/
def thai : Charset := .page 128 [
  "................",
  "................",
  ".กขฃคฅฆงจฉชซฌญฎฏ",
  "ฐฑฒณดตถทธนบปผฝพฟ",
  "ภมยรฤลฦวศษสหฬอฮฯ",
  "ะ\u0E31าำ\u0E34\u0E35\u0E36\u0E37\u0E38\u0E39\u0E3A....฿",
  "เแโใไๅๆ\u0E47\u0E48\u0E49\u0E4A\u0E4B\u0E4C\u0E4D\u0E4E๏",
  "๐๑๒๓๔๕๖๗๘๙๚๛...."]

end XmlGraft.Text.Charset

import Sidecar.Unicode.Ranges

/-!
# Character data on compatibility folding

Characters that stand for others: presentation forms, ligatures, circled and full-width characters,
and letters whose folding is not their lowercase.
-/

namespace Sidecar.Unicode

/-- Runs of characters that fold to one character: first, last, stride, and what is added to the
code point. -/
def foldRuns : List (Nat × Nat × Nat × Int) := [
    (0x13A0, 0x13F5, 1, 0), (0x13F8, 0x13FD, 1, -8), (0x1D33, 0x1D3A, 1, -7372),
    (0x2074, 0x2079, 1, -8256), (0x2080, 0x2089, 1, -8272), (0x2460, 0x2468, 1, -9263),
    (0x24B6, 0x24CF, 1, -9301), (0x24D0, 0x24E9, 1, -9327), (0x313A, 0x313F, 1, -8074),
    (0x3145, 0x314E, 1, -8252), (0x314F, 0x3163, 1, -8174), (0x3178, 0x317C, 1, -8269),
    (0x3269, 0x326D, 1, -8539), (0x32E4, 0x32E9, 1, -538), (0x32EE, 0x32F2, 1, -528),
    (0x32F5, 0x32FA, 1, -525), (0xAB70, 0xABBF, 1, -38864), (0xFF01, 0xFF20, 1, -65248),
    (0xFF21, 0xFF3A, 1, -65216), (0xFF3B, 0xFF5E, 1, -65248), (0xFF85, 0xFF8A, 1, -52923),
    (0xFF8F, 0xFF93, 1, -52913), (0xFF96, 0xFF9B, 1, -52910), (0xFFAA, 0xFFAF, 1, -60922),
    (0xFFB5, 0xFFBE, 1, -61100), (0xFFC2, 0xFFC7, 1, -61025), (0xFFCA, 0xFFCF, 1, -61027),
    (0xFFD2, 0xFFD7, 1, -61029), (0x1CCD6, 0x1CCEF, 1, -117877), (0x1CCF0, 0x1CCF9, 1, -117952),
    (0x1D400, 0x1D419, 1, -119711), (0x1D41A, 0x1D433, 1, -119737),
    (0x1D434, 0x1D44D, 1, -119763), (0x1D44E, 0x1D454, 1, -119789),
    (0x1D456, 0x1D467, 1, -119789), (0x1D468, 0x1D481, 1, -119815),
    (0x1D482, 0x1D49B, 1, -119841), (0x1D4AE, 0x1D4B5, 1, -119867),
    (0x1D4BE, 0x1D4C3, 1, -119893), (0x1D4C5, 0x1D4CF, 1, -119893),
    (0x1D4D0, 0x1D4E9, 1, -119919), (0x1D4EA, 0x1D503, 1, -119945),
    (0x1D50D, 0x1D514, 1, -119971), (0x1D516, 0x1D51C, 1, -119971),
    (0x1D51E, 0x1D537, 1, -119997), (0x1D540, 0x1D544, 1, -120023),
    (0x1D54A, 0x1D550, 1, -120023), (0x1D552, 0x1D56B, 1, -120049),
    (0x1D56C, 0x1D585, 1, -120075), (0x1D586, 0x1D59F, 1, -120101),
    (0x1D5A0, 0x1D5B9, 1, -120127), (0x1D5BA, 0x1D5D3, 1, -120153),
    (0x1D5D4, 0x1D5ED, 1, -120179), (0x1D5EE, 0x1D607, 1, -120205),
    (0x1D608, 0x1D621, 1, -120231), (0x1D622, 0x1D63B, 1, -120257),
    (0x1D63C, 0x1D655, 1, -120283), (0x1D656, 0x1D66F, 1, -120309),
    (0x1D670, 0x1D689, 1, -120335), (0x1D68A, 0x1D6A3, 1, -120361),
    (0x1D6A8, 0x1D6B8, 1, -119543), (0x1D6BA, 0x1D6C0, 1, -119543),
    (0x1D6C2, 0x1D6D2, 1, -119569), (0x1D6D4, 0x1D6DA, 1, -119569),
    (0x1D6E2, 0x1D6F2, 1, -119601), (0x1D6F4, 0x1D6FA, 1, -119601),
    (0x1D6FC, 0x1D70C, 1, -119627), (0x1D70E, 0x1D714, 1, -119627),
    (0x1D71C, 0x1D72C, 1, -119659), (0x1D72E, 0x1D734, 1, -119659),
    (0x1D736, 0x1D746, 1, -119685), (0x1D748, 0x1D74E, 1, -119685),
    (0x1D756, 0x1D766, 1, -119717), (0x1D768, 0x1D76E, 1, -119717),
    (0x1D770, 0x1D780, 1, -119743), (0x1D782, 0x1D788, 1, -119743),
    (0x1D790, 0x1D7A0, 1, -119775), (0x1D7A2, 0x1D7A8, 1, -119775),
    (0x1D7AA, 0x1D7BA, 1, -119801), (0x1D7BC, 0x1D7C2, 1, -119801),
    (0x1D7CE, 0x1D7D7, 1, -120734), (0x1D7D8, 0x1D7E1, 1, -120744),
    (0x1D7E2, 0x1D7EB, 1, -120754), (0x1D7EC, 0x1D7F5, 1, -120764),
    (0x1D7F6, 0x1D7FF, 1, -120774), (0x1E030, 0x1E038, 1, -121856),
    (0x1E03C, 0x1E046, 1, -121854), (0x1E051, 0x1E059, 1, -121889),
    (0x1E05F, 0x1E064, 1, -121884), (0x1F130, 0x1F149, 1, -127183), (0x1FBF0, 0x1FBF9, 1, -129984)]

/-- Separates the images of consecutive characters. -/
def imageDelimiter : Char := '¶'

/-- Blocks of characters with their images: first, last, and the images of all of them. -/
def foldBlocks : List (Nat × Nat × String) := [
    (0xA0, 0xA0, " "),
    (0xA8, 0xA8, " \u0308"),
    (0xAA, 0xAA, "a"),
    (0xAF, 0xAF, " \u0304"),
    (0xB2, 0xB5, "2¶3¶ \u0301¶μ"),
    (0xB8, 0xBA, " \u0327¶1¶o"),
    (0xBC, 0xBE, "1⁄4¶1⁄2¶3⁄4"),
    (0x130, 0x130, "i\u0307"),
    (0x132, 0x133, "ij¶ij"),
    (0x13F, 0x140, "l·¶l·"),
    (0x149, 0x149, "ʼn"),
    (0x17F, 0x17F, "s"),
    (0x1C4, 0x1CC, "dž¶dž¶dž¶lj¶lj¶lj¶nj¶nj¶nj"),
    (0x1F1, 0x1F3, "dz¶dz¶dz"),
    (0x2B0, 0x2B8, "h¶ɦ¶j¶r¶ɹ¶ɻ¶ʁ¶w¶y"),
    (0x2D8, 0x2DD, " \u0306¶ \u0307¶ \u030a¶ \u0328¶ \u0303¶ \u030b"),
    (0x2E0, 0x2E4, "ɣ¶l¶s¶x¶ʕ"),
    (0x340, 0x341, "\u0300¶\u0301"),
    (0x343, 0x345, "\u0313¶\u0308\u0301¶ι"),
    (0x374, 0x374, "ʹ"),
    (0x37A, 0x37A, " ι"),
    (0x37E, 0x37E, ";"),
    (0x384, 0x385, " \u0301¶ \u0308\u0301"),
    (0x387, 0x387, "·"),
    (0x3D0, 0x3D6, "β¶θ¶υ¶ύ¶ϋ¶φ¶π"),
    (0x3F0, 0x3F2, "κ¶ρ¶σ"),
    (0x3F5, 0x3F5, "ε"),
    (0x3F9, 0x3F9, "σ"),
    (0x587, 0x587, "եւ"),
    (0x675, 0x678, "\u0627\u0674¶\u0648\u0674¶\u06c7\u0674¶\u064a\u0674"),
    (0x958, 0x95F, "क\u093c¶ख\u093c¶ग\u093c¶ज\u093c¶ड\u093c¶ढ\u093c¶फ\u093c¶य\u093c"),
    (0x9DC, 0x9DD, "ড\u09bc¶ঢ\u09bc"),
    (0x9DF, 0x9DF, "য\u09bc"),
    (0xA33, 0xA33, "ਲ\u0a3c"),
    (0xA36, 0xA36, "ਸ\u0a3c"),
    (0xA59, 0xA5B, "ਖ\u0a3c¶ਗ\u0a3c¶ਜ\u0a3c"),
    (0xA5E, 0xA5E, "ਫ\u0a3c"),
    (0xB5C, 0xB5D, "ଡ\u0b3c¶ଢ\u0b3c"),
    (0xE33, 0xE33, "\u0e4dา"),
    (0xEB3, 0xEB3, "\u0ecdາ"),
    (0xEDC, 0xEDD, "ຫນ¶ຫມ"),
    (0xF0C, 0xF0C, "་"),
    (0xF43, 0xF43, "ག\u0fb7"),
    (0xF4D, 0xF4D, "ཌ\u0fb7"),
    (0xF52, 0xF52, "ད\u0fb7"),
    (0xF57, 0xF57, "བ\u0fb7"),
    (0xF5C, 0xF5C, "ཛ\u0fb7"),
    (0xF69, 0xF69, "ཀ\u0fb5"),
    (0xF73, 0xF73, "\u0f71\u0f72"),
    (0xF75, 0xF78, "\u0f71\u0f74¶\u0fb2\u0f80¶\u0fb2\u0f71\u0f80¶\u0fb3\u0f80"),
    (0xF79, 0xF79, "\u0fb3\u0f71\u0f80"),
    (0xF81, 0xF81, "\u0f71\u0f80"),
    (0xF93, 0xF93, "\u0f92\u0fb7"),
    (0xF9D, 0xF9D, "\u0f9c\u0fb7"),
    (0xFA2, 0xFA2, "\u0fa1\u0fb7"),
    (0xFA7, 0xFA7, "\u0fa6\u0fb7"),
    (0xFAC, 0xFAC, "\u0fab\u0fb7"),
    (0xFB9, 0xFB9, "\u0f90\u0fb5"),
    (0x10FC, 0x10FC, "ნ"),
    (0x1C80, 0x1C88, "в¶д¶о¶с¶т¶т¶ъ¶ѣ¶ꙋ"),
    (0x1D2C, 0x1D2E, "a¶æ¶b"),
    (0x1D30, 0x1D32, "d¶e¶ǝ"),
    (0x1D3C, 0x1D4D, "o¶ȣ¶p¶r¶t¶u¶w¶a¶ɐ¶ɑ¶ᴂ¶b¶d¶e¶ə¶ɛ¶ɜ¶g"),
    (0x1D4F, 0x1D6A, "k¶m¶ŋ¶o¶ɔ¶ᴖ¶ᴗ¶p¶t¶u¶ᴝ¶ɯ¶v¶ᴥ¶β¶γ¶δ¶φ¶χ¶i¶r¶u¶v¶β¶γ¶ρ¶φ¶χ"),
    (0x1D78, 0x1D78, "н"),
    (0x1D9B, 0x1DBF,
      "ɒ¶c¶ɕ¶ð¶ɜ¶f¶ɟ¶ɡ¶ɥ¶ɨ¶ɩ¶ɪ¶ᵻ¶ʝ¶ɭ¶ᶅ¶ʟ¶ɱ¶ɰ¶ɲ¶ɳ¶ɴ¶ɵ¶ɸ¶ʂ¶ʃ¶ƫ¶ʉ¶ʊ¶ᴜ¶ʋ¶ʌ¶z¶ʐ¶ʑ¶ʒ¶θ"),
    (0x1E9A, 0x1E9B, "aʾ¶ṡ"),
    (0x1F71, 0x1F71, "ά"),
    (0x1F73, 0x1F73, "έ"),
    (0x1F75, 0x1F75, "ή"),
    (0x1F77, 0x1F77, "ί"),
    (0x1F79, 0x1F79, "ό"),
    (0x1F7B, 0x1F7B, "ύ"),
    (0x1F7D, 0x1F7D, "ώ"),
    (0x1F80, 0x1F98,
      "ἀι¶ἁι¶ἂι¶ἃι¶ἄι¶ἅι¶ἆι¶ἇι¶ἀι¶ἁι¶ἂι¶ἃι¶ἄι¶ἅι¶ἆι¶ἇι¶ἠι¶ἡι¶ἢι¶ἣι¶ἤι¶ἥι¶ἦι¶ἧι¶ἠι"),
    (0x1F99, 0x1FAF,
      "ἡι¶ἢι¶ἣι¶ἤι¶ἥι¶ἦι¶ἧι¶ὠι¶ὡι¶ὢι¶ὣι¶ὤι¶ὥι¶ὦι¶ὧι¶ὠι¶ὡι¶ὢι¶ὣι¶ὤι¶ὥι¶ὦι¶ὧι"),
    (0x1FB2, 0x1FB4, "ὰι¶αι¶άι"),
    (0x1FB7, 0x1FB7, "ᾶι"),
    (0x1FBB, 0x1FC4, "ά¶αι¶ \u0313¶ι¶ \u0313¶ \u0342¶ \u0308\u0342¶ὴι¶ηι¶ήι"),
    (0x1FC7, 0x1FC7, "ῆι"),
    (0x1FC9, 0x1FC9, "έ"),
    (0x1FCB, 0x1FCF, "ή¶ηι¶ \u0313\u0300¶ \u0313\u0301¶ \u0313\u0342"),
    (0x1FD3, 0x1FD3, "ΐ"),
    (0x1FDB, 0x1FDB, "ί"),
    (0x1FDD, 0x1FDF, " \u0314\u0300¶ \u0314\u0301¶ \u0314\u0342"),
    (0x1FE3, 0x1FE3, "ΰ"),
    (0x1FEB, 0x1FEB, "ύ"),
    (0x1FED, 0x1FEF, " \u0308\u0300¶ \u0308\u0301¶`"),
    (0x1FF2, 0x1FF4, "ὼι¶ωι¶ώι"),
    (0x1FF7, 0x1FF7, "ῶι"),
    (0x1FF9, 0x1FF9, "ό"),
    (0x1FFB, 0x1FFE, "ώ¶ωι¶ \u0301¶ \u0314"),
    (0x2000, 0x200A, " ¶ ¶ ¶ ¶ ¶ ¶ ¶ ¶ ¶ ¶ "),
    (0x2011, 0x2011, "‐"),
    (0x2017, 0x2017, " \u0333"),
    (0x202F, 0x202F, " "),
    (0x2033, 0x2034, "′′¶′′′"),
    (0x2036, 0x2037, "‵‵¶‵‵‵"),
    (0x203C, 0x203C, "!!"),
    (0x203E, 0x203E, " \u0305"),
    (0x2047, 0x2049, "??¶?!¶!?"),
    (0x2057, 0x2057, "′′′′"),
    (0x205F, 0x205F, " "),
    (0x2070, 0x2071, "0¶i"),
    (0x207A, 0x207F, "+¶−¶=¶(¶)¶n"),
    (0x208A, 0x208E, "+¶−¶=¶(¶)"),
    (0x2090, 0x209C, "a¶e¶o¶x¶ə¶h¶k¶l¶m¶n¶p¶s¶t"),
    (0x20A8, 0x20A8, "rs"),
    (0x2100, 0x2103, "a/c¶a/s¶c¶°c"),
    (0x2105, 0x2107, "c/o¶c/u¶ɛ"),
    (0x2109, 0x2113, "°f¶g¶h¶h¶h¶h¶ħ¶i¶i¶l¶l"),
    (0x2115, 0x2116, "n¶no"),
    (0x2119, 0x211D, "p¶q¶r¶r¶r"),
    (0x2120, 0x2122, "sm¶tel¶tm"),
    (0x2124, 0x2124, "z"),
    (0x2128, 0x2128, "z"),
    (0x212C, 0x212D, "b¶c"),
    (0x212F, 0x2131, "e¶e¶f"),
    (0x2133, 0x2139, "m¶o¶\u05d0¶\u05d1¶\u05d2¶\u05d3¶i"),
    (0x213B, 0x2140, "fax¶π¶γ¶γ¶π¶∑"),
    (0x2145, 0x2149, "d¶d¶e¶i¶j"),
    (0x2150, 0x2162,
      "1⁄7¶1⁄9¶1⁄10¶1⁄3¶2⁄3¶1⁄5¶2⁄5¶3⁄5¶4⁄5¶1⁄6¶5⁄6¶1⁄8¶3⁄8¶5⁄8¶7⁄8¶1⁄¶i¶ii¶iii"),
    (0x2163, 0x217B,
      "iv¶v¶vi¶vii¶viii¶ix¶x¶xi¶xii¶l¶c¶d¶m¶i¶ii¶iii¶iv¶v¶vi¶vii¶viii¶ix¶x¶xi¶xii"),
    (0x217C, 0x217F, "l¶c¶d¶m"),
    (0x2189, 0x2189, "0⁄3"),
    (0x222C, 0x222D, "∫∫¶∫∫∫"),
    (0x222F, 0x2230, "∮∮¶∮∮∮"),
    (0x2329, 0x232A, "〈¶〉"),
    (0x2469, 0x247D,
      "10¶11¶12¶13¶14¶15¶16¶17¶18¶19¶20¶(1)¶(2)¶(3)¶(4)¶(5)¶(6)¶(7)¶(8)¶(9)¶(10)"),
    (0x247E, 0x2487, "(11)¶(12)¶(13)¶(14)¶(15)¶(16)¶(17)¶(18)¶(19)¶(20)"),
    (0x249C, 0x24AD,
      "(a)¶(b)¶(c)¶(d)¶(e)¶(f)¶(g)¶(h)¶(i)¶(j)¶(k)¶(l)¶(m)¶(n)¶(o)¶(p)¶(q)¶(r)"),
    (0x24AE, 0x24B5, "(s)¶(t)¶(u)¶(v)¶(w)¶(x)¶(y)¶(z)"),
    (0x24EA, 0x24EA, "0"),
    (0x2A0C, 0x2A0C, "∫∫∫∫"),
    (0x2A74, 0x2A76, "::=¶==¶==="),
    (0x2ADC, 0x2ADC, "⫝\u0338"),
    (0x2C7C, 0x2C7D, "j¶v"),
    (0x2D6F, 0x2D6F, "ⵡ"),
    (0x2E9F, 0x2E9F, "母"),
    (0x2EF3, 0x2EF3, "龟"),
    (0x2F00, 0x2F24,
      "一¶丨¶丶¶丿¶乙¶亅¶二¶亠¶人¶儿¶入¶八¶冂¶冖¶冫¶几¶凵¶刀¶力¶勹¶匕¶匚¶匸¶十¶卜¶卩¶厂¶厶¶又¶口¶囗¶土¶士¶夂¶夊¶夕¶大"),
    (0x2F25, 0x2F49,
      "女¶子¶宀¶寸¶小¶尢¶尸¶屮¶山¶巛¶工¶己¶巾¶干¶幺¶广¶廴¶廾¶弋¶弓¶彐¶彡¶彳¶心¶戈¶戶¶手¶支¶攴¶文¶斗¶斤¶方¶无¶日¶曰¶月"),
    (0x2F4A, 0x2F6E,
      "木¶欠¶止¶歹¶殳¶毋¶比¶毛¶氏¶气¶水¶火¶爪¶父¶爻¶爿¶片¶牙¶牛¶犬¶玄¶玉¶瓜¶瓦¶甘¶生¶用¶田¶疋¶疒¶癶¶白¶皮¶皿¶目¶矛¶矢"),
    (0x2F6F, 0x2F93,
      "石¶示¶禸¶禾¶穴¶立¶竹¶米¶糸¶缶¶网¶羊¶羽¶老¶而¶耒¶耳¶聿¶肉¶臣¶自¶至¶臼¶舌¶舛¶舟¶艮¶色¶艸¶虍¶虫¶血¶行¶衣¶襾¶見¶角"),
    (0x2F94, 0x2FB8,
      "言¶谷¶豆¶豕¶豸¶貝¶赤¶走¶足¶身¶車¶辛¶辰¶辵¶邑¶酉¶釆¶里¶金¶長¶門¶阜¶隶¶隹¶雨¶靑¶非¶面¶革¶韋¶韭¶音¶頁¶風¶飛¶食¶首"),
    (0x2FB9, 0x2FD5, "香¶馬¶骨¶高¶髟¶鬥¶鬯¶鬲¶鬼¶魚¶鳥¶鹵¶鹿¶麥¶麻¶黃¶黍¶黑¶黹¶黽¶鼎¶鼓¶鼠¶鼻¶齊¶齒¶龍¶龜¶龠"),
    (0x3000, 0x3000, " "),
    (0x3002, 0x3002, "."),
    (0x3036, 0x3036, "〒"),
    (0x3038, 0x303A, "十¶卄¶卅"),
    (0x309B, 0x309C, " \u3099¶ \u309a"),
    (0x309F, 0x309F, "より"),
    (0x30FF, 0x30FF, "コト"),
    (0x3131, 0x3139, "ᄀ¶ᄁ¶ᆪ¶ᄂ¶ᆬ¶ᆭ¶ᄃ¶ᄄ¶ᄅ"),
    (0x3140, 0x3144, "ᄚ¶ᄆ¶ᄇ¶ᄈ¶ᄡ"),
    (0x3165, 0x3177, "ᄔ¶ᄕ¶ᇇ¶ᇈ¶ᇌ¶ᇎ¶ᇓ¶ᇗ¶ᇙ¶ᄜ¶ᇝ¶ᇟ¶ᄝ¶ᄞ¶ᄠ¶ᄢ¶ᄣ¶ᄧ¶ᄩ"),
    (0x317D, 0x318E, "ᄲ¶ᄶ¶ᅀ¶ᅇ¶ᅌ¶ᇱ¶ᇲ¶ᅗ¶ᅘ¶ᅙ¶ᆄ¶ᆅ¶ᆈ¶ᆑ¶ᆒ¶ᆔ¶ᆞ¶ᆡ"),
    (0x3192, 0x319F, "一¶二¶三¶四¶上¶中¶下¶甲¶乙¶丙¶丁¶天¶地¶人"),
    (0x3200, 0x3211,
      "(ᄀ)¶(ᄂ)¶(ᄃ)¶(ᄅ)¶(ᄆ)¶(ᄇ)¶(ᄉ)¶(ᄋ)¶(ᄌ)¶(ᄎ)¶(ᄏ)¶(ᄐ)¶(ᄑ)¶(ᄒ)¶(가)¶(나)¶(다)¶(라)"),
    (0x3212, 0x321E, "(마)¶(바)¶(사)¶(아)¶(자)¶(차)¶(카)¶(타)¶(파)¶(하)¶(주)¶(오전)¶(오후)"),
    (0x3220, 0x3231,
      "(一)¶(二)¶(三)¶(四)¶(五)¶(六)¶(七)¶(八)¶(九)¶(十)¶(月)¶(火)¶(水)¶(木)¶(金)¶(土)¶(日)¶(株)"),
    (0x3232, 0x3244,
      "(有)¶(社)¶(名)¶(特)¶(財)¶(祝)¶(労)¶(代)¶(呼)¶(学)¶(監)¶(企)¶(資)¶(協)¶(祭)¶(休)¶(自)¶(至)¶問"),
    (0x3245, 0x3247, "幼¶文¶箏"),
    (0x3250, 0x3268, "pte¶21¶22¶23¶24¶25¶26¶27¶28¶29¶30¶31¶32¶33¶34¶35¶ᄀ¶ᄂ¶ᄃ¶ᄅ¶ᄆ¶ᄇ¶ᄉ¶ᄋ¶ᄌ"),
    (0x326E, 0x327E, "가¶나¶다¶라¶마¶바¶사¶아¶자¶차¶카¶타¶파¶하¶참고¶주의¶우"),
    (0x3280, 0x32A4,
      "一¶二¶三¶四¶五¶六¶七¶八¶九¶十¶月¶火¶水¶木¶金¶土¶日¶株¶有¶社¶名¶特¶財¶祝¶労¶秘¶男¶女¶適¶優¶印¶注¶項¶休¶写¶正¶上"),
    (0x32A5, 0x32C1,
      "中¶下¶左¶右¶医¶宗¶学¶監¶企¶資¶協¶夜¶36¶37¶38¶39¶40¶41¶42¶43¶44¶45¶46¶47¶48¶49¶50¶1月¶2月"),
    (0x32C2, 0x32DD,
      "3月¶4月¶5月¶6月¶7月¶8月¶9月¶10月¶11月¶12月¶hg¶erg¶ev¶ltd¶ア¶イ¶ウ¶エ¶オ¶カ¶キ¶ク¶ケ¶コ¶サ¶シ¶ス¶セ"),
    (0x32DE, 0x32E3, "ソ¶タ¶チ¶ツ¶テ¶ト"),
    (0x32EA, 0x32ED, "ヒ¶フ¶ヘ¶ホ"),
    (0x32F3, 0x32F4, "ヤ¶ユ"),
    (0x32FB, 0x330C,
      "ワ¶ヰ¶ヱ¶ヲ¶令和¶アパート¶アルファ¶アンペア¶アール¶イニング¶インチ¶ウォン¶エスクード¶エーカー¶オンス¶オーム¶カイリ¶カラット"),
    (0x330D, 0x331B,
      "カロリー¶ガロン¶ガンマ¶ギガ¶ギニー¶キュリー¶ギルダー¶キロ¶キログラム¶キロメートル¶キロワット¶グラム¶グラムトン¶クルゼイロ¶クローネ"),
    (0x331C, 0x332D,
      "ケース¶コルナ¶コーポ¶サイクル¶サンチーム¶シリング¶センチ¶セント¶ダース¶デシ¶ドル¶トン¶ナノ¶ノット¶ハイツ¶パーセント¶パーツ¶バーレル"),
    (0x332E, 0x333E,
      "ピアストル¶ピクル¶ピコ¶ビル¶ファラッド¶フィート¶ブッシェル¶フラン¶ヘクタール¶ペソ¶ペニヒ¶ヘルツ¶ペンス¶ページ¶ベータ¶ポイント¶ボルト"),
    (0x333F, 0x334F,
      "ホン¶ポンド¶ホール¶ホーン¶マイクロ¶マイル¶マッハ¶マルク¶マンション¶ミクロン¶ミリ¶ミリバール¶メガ¶メガトン¶メートル¶ヤード¶ヤール"),
    (0x3350, 0x3363,
      "ユアン¶リットル¶リラ¶ルピー¶ルーブル¶レム¶レントゲン¶ワット¶0点¶1点¶2点¶3点¶4点¶5点¶6点¶7点¶8点¶9点¶10点¶11点"),
    (0x3364, 0x3377,
      "12点¶13点¶14点¶15点¶16点¶17点¶18点¶19点¶20点¶21点¶22点¶23点¶24点¶hpa¶da¶au¶bar¶ov¶pc¶dm"),
    (0x3378, 0x338D,
      "dm2¶dm3¶iu¶平成¶昭和¶大正¶明治¶株式会社¶pa¶na¶μa¶ma¶ka¶kb¶mb¶gb¶cal¶kcal¶pf¶nf¶μf¶μg"),
    (0x338E, 0x33A3,
      "mg¶kg¶hz¶khz¶mhz¶ghz¶thz¶μl¶ml¶dl¶kl¶fm¶nm¶μm¶mm¶cm¶km¶mm2¶cm2¶m2¶km2¶mm3"),
    (0x33A4, 0x33B6,
      "cm3¶m3¶km3¶m∕s¶m∕s2¶pa¶kpa¶mpa¶gpa¶rad¶rad∕s¶rad∕s2¶ps¶ns¶μs¶ms¶pv¶nv¶μv"),
    (0x33B7, 0x33C1, "mv¶kv¶mv¶pw¶nw¶μw¶mw¶kw¶mw¶kω¶mω"),
    (0x33C3, 0x33C6, "bq¶cc¶cd¶c∕kg"),
    (0x33C8, 0x33D7, "db¶gy¶ha¶hp¶in¶kk¶km¶kt¶lm¶ln¶log¶lx¶mb¶mil¶mol¶ph"),
    (0x33D9, 0x33EE,
      "ppm¶pr¶sr¶sv¶wb¶v∕m¶a∕m¶1日¶2日¶3日¶4日¶5日¶6日¶7日¶8日¶9日¶10日¶11日¶12日¶13日¶14日¶15日"),
    (0x33EF, 0x33FF,
      "16日¶17日¶18日¶19日¶20日¶21日¶22日¶23日¶24日¶25日¶26日¶27日¶28日¶29日¶30日¶31日¶gal"),
    (0xA69C, 0xA69D, "ъ¶ь"),
    (0xA770, 0xA770, "ꝯ"),
    (0xA7F1, 0xA7F4, "s¶c¶f¶q"),
    (0xA7F8, 0xA7F9, "ħ¶œ"),
    (0xAB5C, 0xAB5F, "ꜧ¶ꬷ¶ɫ¶ꭒ"),
    (0xAB69, 0xAB69, "ʍ"),
    (0xF900, 0xF924,
      "豈¶更¶車¶賈¶滑¶串¶句¶龜¶龜¶契¶金¶喇¶奈¶懶¶癩¶羅¶蘿¶螺¶裸¶邏¶樂¶洛¶烙¶珞¶落¶酪¶駱¶亂¶卵¶欄¶爛¶蘭¶鸞¶嵐¶濫¶藍¶襤"),
    (0xF925, 0xF949,
      "拉¶臘¶蠟¶廊¶朗¶浪¶狼¶郎¶來¶冷¶勞¶擄¶櫓¶爐¶盧¶老¶蘆¶虜¶路¶露¶魯¶鷺¶碌¶祿¶綠¶菉¶錄¶鹿¶論¶壟¶弄¶籠¶聾¶牢¶磊¶賂¶雷"),
    (0xF94A, 0xF96E,
      "壘¶屢¶樓¶淚¶漏¶累¶縷¶陋¶勒¶肋¶凜¶凌¶稜¶綾¶菱¶陵¶讀¶拏¶樂¶諾¶丹¶寧¶怒¶率¶異¶北¶磻¶便¶復¶不¶泌¶數¶索¶參¶塞¶省¶葉"),
    (0xF96F, 0xF993,
      "說¶殺¶辰¶沈¶拾¶若¶掠¶略¶亮¶兩¶凉¶梁¶糧¶良¶諒¶量¶勵¶呂¶女¶廬¶旅¶濾¶礪¶閭¶驪¶麗¶黎¶力¶曆¶歷¶轢¶年¶憐¶戀¶撚¶漣¶煉"),
    (0xF994, 0xF9B8,
      "璉¶秊¶練¶聯¶輦¶蓮¶連¶鍊¶列¶劣¶咽¶烈¶裂¶說¶廉¶念¶捻¶殮¶簾¶獵¶令¶囹¶寧¶嶺¶怜¶玲¶瑩¶羚¶聆¶鈴¶零¶靈¶領¶例¶禮¶醴¶隸"),
    (0xF9B9, 0xF9DD,
      "惡¶了¶僚¶寮¶尿¶料¶樂¶燎¶療¶蓼¶遼¶龍¶暈¶阮¶劉¶杻¶柳¶流¶溜¶琉¶留¶硫¶紐¶類¶六¶戮¶陸¶倫¶崙¶淪¶輪¶律¶慄¶栗¶率¶隆¶利"),
    (0xF9DE, 0xFA02,
      "吏¶履¶易¶李¶梨¶泥¶理¶痢¶罹¶裏¶裡¶里¶離¶匿¶溺¶吝¶燐¶璘¶藺¶隣¶鱗¶麟¶林¶淋¶臨¶立¶笠¶粒¶狀¶炙¶識¶什¶茶¶刺¶切¶度¶拓"),
    (0xFA03, 0xFA0D, "糖¶宅¶洞¶暴¶輻¶行¶降¶見¶廓¶兀¶嗀"),
    (0xFA10, 0xFA10, "塚"),
    (0xFA12, 0xFA12, "晴"),
    (0xFA15, 0xFA1E, "凞¶猪¶益¶礼¶神¶祥¶福¶靖¶精¶羽"),
    (0xFA20, 0xFA20, "蘒"),
    (0xFA22, 0xFA22, "諸"),
    (0xFA25, 0xFA26, "逸¶都"),
    (0xFA2A, 0xFA4E,
      "飯¶飼¶館¶鶴¶郞¶隷¶侮¶僧¶免¶勉¶勤¶卑¶喝¶嘆¶器¶塀¶墨¶層¶屮¶悔¶慨¶憎¶懲¶敏¶既¶暑¶梅¶海¶渚¶漢¶煮¶爫¶琢¶碑¶社¶祉¶祈"),
    (0xFA4F, 0xFA6D, "祐¶祖¶祝¶禍¶禎¶穀¶突¶節¶練¶縉¶繁¶署¶者¶臭¶艹¶艹¶著¶褐¶視¶謁¶謹¶賓¶贈¶辶¶逸¶難¶響¶頻¶恵¶𤋮¶舘"),
    (0xFA70, 0xFA94,
      "並¶况¶全¶侀¶充¶冀¶勇¶勺¶喝¶啕¶喙¶嗢¶塚¶墳¶奄¶奔¶婢¶嬨¶廒¶廙¶彩¶徭¶惘¶慎¶愈¶憎¶慠¶懲¶戴¶揄¶搜¶摒¶敖¶晴¶朗¶望¶杖"),
    (0xFA95, 0xFAB9,
      "歹¶殺¶流¶滛¶滋¶漢¶瀞¶煮¶瞧¶爵¶犯¶猪¶瑱¶甆¶画¶瘝¶瘟¶益¶盛¶直¶睊¶着¶磌¶窱¶節¶类¶絛¶練¶缾¶者¶荒¶華¶蝹¶襁¶覆¶視¶調"),
    (0xFABA, 0xFAD9, "諸¶請¶謁¶諾¶諭¶謹¶變¶贈¶輸¶遲¶醙¶鉶¶陼¶難¶靖¶韛¶響¶頋¶頻¶鬒¶龜¶𢡊¶𢡄¶𣏕¶㮝¶䀘¶䀹¶𥉉¶𥳐¶𧻓¶齃¶龎"),
    (0xFB00, 0xFB06, "ff¶fi¶fl¶ffi¶ffl¶st¶st"),
    (0xFB13, 0xFB17, "մն¶մե¶մի¶վն¶մխ"),
    (0xFB1D, 0xFB1D, "\u05d9\u05b4"),
    (0xFB1F, 0xFB27,
      "\u05f2\u05b7¶\u05e2¶\u05d0¶\u05d3¶\u05d4¶\u05db¶\u05dc¶\u05dd¶\u05e8"),
    (0xFB28, 0xFB2D,
      "\u05ea¶+¶\u05e9\u05c1¶\u05e9\u05c2¶\u05e9\u05bc\u05c1¶\u05e9\u05bc\u05c2"),
    (0xFB2E, 0xFB32, "\u05d0\u05b7¶\u05d0\u05b8¶\u05d0\u05bc¶\u05d1\u05bc¶\u05d2\u05bc"),
    (0xFB33, 0xFB36, "\u05d3\u05bc¶\u05d4\u05bc¶\u05d5\u05bc¶\u05d6\u05bc"),
    (0xFB38, 0xFB3C, "\u05d8\u05bc¶\u05d9\u05bc¶\u05da\u05bc¶\u05db\u05bc¶\u05dc\u05bc"),
    (0xFB3E, 0xFB3E, "\u05de\u05bc"),
    (0xFB40, 0xFB41, "\u05e0\u05bc¶\u05e1\u05bc"),
    (0xFB43, 0xFB44, "\u05e3\u05bc¶\u05e4\u05bc"),
    (0xFB46, 0xFB4A, "\u05e6\u05bc¶\u05e7\u05bc¶\u05e8\u05bc¶\u05e9\u05bc¶\u05ea\u05bc"),
    (0xFB4B, 0xFB50,
      "\u05d5\u05b9¶\u05d1\u05bf¶\u05db\u05bf¶\u05e4\u05bf¶\u05d0\u05dc¶\u0671"),
    (0xFB51, 0xFB5A,
      "\u0671¶\u067b¶\u067b¶\u067b¶\u067b¶\u067e¶\u067e¶\u067e¶\u067e¶\u0680"),
    (0xFB5B, 0xFB64,
      "\u0680¶\u0680¶\u0680¶\u067a¶\u067a¶\u067a¶\u067a¶\u067f¶\u067f¶\u067f"),
    (0xFB65, 0xFB6E,
      "\u067f¶\u0679¶\u0679¶\u0679¶\u0679¶\u06a4¶\u06a4¶\u06a4¶\u06a4¶\u06a6"),
    (0xFB6F, 0xFB78,
      "\u06a6¶\u06a6¶\u06a6¶\u0684¶\u0684¶\u0684¶\u0684¶\u0683¶\u0683¶\u0683"),
    (0xFB79, 0xFB82,
      "\u0683¶\u0686¶\u0686¶\u0686¶\u0686¶\u0687¶\u0687¶\u0687¶\u0687¶\u068d"),
    (0xFB83, 0xFB8C,
      "\u068d¶\u068c¶\u068c¶\u068e¶\u068e¶\u0688¶\u0688¶\u0698¶\u0698¶\u0691"),
    (0xFB8D, 0xFB96,
      "\u0691¶\u06a9¶\u06a9¶\u06a9¶\u06a9¶\u06af¶\u06af¶\u06af¶\u06af¶\u06b3"),
    (0xFB97, 0xFBA0,
      "\u06b3¶\u06b3¶\u06b3¶\u06b1¶\u06b1¶\u06b1¶\u06b1¶\u06ba¶\u06ba¶\u06bb"),
    (0xFBA1, 0xFBAA,
      "\u06bb¶\u06bb¶\u06bb¶\u06c0¶\u06c0¶\u06c1¶\u06c1¶\u06c1¶\u06c1¶\u06be"),
    (0xFBAB, 0xFBB1, "\u06be¶\u06be¶\u06be¶\u06d2¶\u06d2¶\u06d3¶\u06d3"),
    (0xFBD3, 0xFBDC,
      "\u06ad¶\u06ad¶\u06ad¶\u06ad¶\u06c7¶\u06c7¶\u06c6¶\u06c6¶\u06c8¶\u06c8"),
    (0xFBDD, 0xFBE5,
      "\u06c7\u0674¶\u06cb¶\u06cb¶\u06c5¶\u06c5¶\u06c9¶\u06c9¶\u06d0¶\u06d0"),
    (0xFBE6, 0xFBEC, "\u06d0¶\u06d0¶\u0649¶\u0649¶\u0626\u0627¶\u0626\u0627¶\u0626\u06d5"),
    (0xFBED, 0xFBF1, "\u0626\u06d5¶\u0626\u0648¶\u0626\u0648¶\u0626\u06c7¶\u0626\u06c7"),
    (0xFBF2, 0xFBF6, "\u0626\u06c6¶\u0626\u06c6¶\u0626\u06c8¶\u0626\u06c8¶\u0626\u06d0"),
    (0xFBF7, 0xFBFC,
      "\u0626\u06d0¶\u0626\u06d0¶\u0626\u0649¶\u0626\u0649¶\u0626\u0649¶\u06cc"),
    (0xFBFD, 0xFC03,
      "\u06cc¶\u06cc¶\u06cc¶\u0626\u062c¶\u0626\u062d¶\u0626\u0645¶\u0626\u0649"),
    (0xFC04, 0xFC08, "\u0626\u064a¶\u0628\u062c¶\u0628\u062d¶\u0628\u062e¶\u0628\u0645"),
    (0xFC09, 0xFC0D, "\u0628\u0649¶\u0628\u064a¶\u062a\u062c¶\u062a\u062d¶\u062a\u062e"),
    (0xFC0E, 0xFC12, "\u062a\u0645¶\u062a\u0649¶\u062a\u064a¶\u062b\u062c¶\u062b\u0645"),
    (0xFC13, 0xFC17, "\u062b\u0649¶\u062b\u064a¶\u062c\u062d¶\u062c\u0645¶\u062d\u062c"),
    (0xFC18, 0xFC1C, "\u062d\u0645¶\u062e\u062c¶\u062e\u062d¶\u062e\u0645¶\u0633\u062c"),
    (0xFC1D, 0xFC21, "\u0633\u062d¶\u0633\u062e¶\u0633\u0645¶\u0635\u062d¶\u0635\u0645"),
    (0xFC22, 0xFC26, "\u0636\u062c¶\u0636\u062d¶\u0636\u062e¶\u0636\u0645¶\u0637\u062d"),
    (0xFC27, 0xFC2B, "\u0637\u0645¶\u0638\u0645¶\u0639\u062c¶\u0639\u0645¶\u063a\u062c"),
    (0xFC2C, 0xFC30, "\u063a\u0645¶\u0641\u062c¶\u0641\u062d¶\u0641\u062e¶\u0641\u0645"),
    (0xFC31, 0xFC35, "\u0641\u0649¶\u0641\u064a¶\u0642\u062d¶\u0642\u0645¶\u0642\u0649"),
    (0xFC36, 0xFC3A, "\u0642\u064a¶\u0643\u0627¶\u0643\u062c¶\u0643\u062d¶\u0643\u062e"),
    (0xFC3B, 0xFC3F, "\u0643\u0644¶\u0643\u0645¶\u0643\u0649¶\u0643\u064a¶\u0644\u062c"),
    (0xFC40, 0xFC44, "\u0644\u062d¶\u0644\u062e¶\u0644\u0645¶\u0644\u0649¶\u0644\u064a"),
    (0xFC45, 0xFC49, "\u0645\u062c¶\u0645\u062d¶\u0645\u062e¶\u0645\u0645¶\u0645\u0649"),
    (0xFC4A, 0xFC4E, "\u0645\u064a¶\u0646\u062c¶\u0646\u062d¶\u0646\u062e¶\u0646\u0645"),
    (0xFC4F, 0xFC53, "\u0646\u0649¶\u0646\u064a¶\u0647\u062c¶\u0647\u0645¶\u0647\u0649"),
    (0xFC54, 0xFC58, "\u0647\u064a¶\u064a\u062c¶\u064a\u062d¶\u064a\u062e¶\u064a\u0645"),
    (0xFC59, 0xFC5D, "\u064a\u0649¶\u064a\u064a¶\u0630\u0670¶\u0631\u0670¶\u0649\u0670"),
    (0xFC5E, 0xFC62,
      " \u064c\u0651¶ \u064d\u0651¶ \u064e\u0651¶ \u064f\u0651¶ \u0650\u0651"),
    (0xFC63, 0xFC67, " \u0651\u0670¶\u0626\u0631¶\u0626\u0632¶\u0626\u0645¶\u0626\u0646"),
    (0xFC68, 0xFC6C, "\u0626\u0649¶\u0626\u064a¶\u0628\u0631¶\u0628\u0632¶\u0628\u0645"),
    (0xFC6D, 0xFC71, "\u0628\u0646¶\u0628\u0649¶\u0628\u064a¶\u062a\u0631¶\u062a\u0632"),
    (0xFC72, 0xFC76, "\u062a\u0645¶\u062a\u0646¶\u062a\u0649¶\u062a\u064a¶\u062b\u0631"),
    (0xFC77, 0xFC7B, "\u062b\u0632¶\u062b\u0645¶\u062b\u0646¶\u062b\u0649¶\u062b\u064a"),
    (0xFC7C, 0xFC80, "\u0641\u0649¶\u0641\u064a¶\u0642\u0649¶\u0642\u064a¶\u0643\u0627"),
    (0xFC81, 0xFC85, "\u0643\u0644¶\u0643\u0645¶\u0643\u0649¶\u0643\u064a¶\u0644\u0645"),
    (0xFC86, 0xFC8A, "\u0644\u0649¶\u0644\u064a¶\u0645\u0627¶\u0645\u0645¶\u0646\u0631"),
    (0xFC8B, 0xFC8F, "\u0646\u0632¶\u0646\u0645¶\u0646\u0646¶\u0646\u0649¶\u0646\u064a"),
    (0xFC90, 0xFC94, "\u0649\u0670¶\u064a\u0631¶\u064a\u0632¶\u064a\u0645¶\u064a\u0646"),
    (0xFC95, 0xFC99, "\u064a\u0649¶\u064a\u064a¶\u0626\u062c¶\u0626\u062d¶\u0626\u062e"),
    (0xFC9A, 0xFC9E, "\u0626\u0645¶\u0626\u0647¶\u0628\u062c¶\u0628\u062d¶\u0628\u062e"),
    (0xFC9F, 0xFCA3, "\u0628\u0645¶\u0628\u0647¶\u062a\u062c¶\u062a\u062d¶\u062a\u062e"),
    (0xFCA4, 0xFCA8, "\u062a\u0645¶\u062a\u0647¶\u062b\u0645¶\u062c\u062d¶\u062c\u0645"),
    (0xFCA9, 0xFCAD, "\u062d\u062c¶\u062d\u0645¶\u062e\u062c¶\u062e\u0645¶\u0633\u062c"),
    (0xFCAE, 0xFCB2, "\u0633\u062d¶\u0633\u062e¶\u0633\u0645¶\u0635\u062d¶\u0635\u062e"),
    (0xFCB3, 0xFCB7, "\u0635\u0645¶\u0636\u062c¶\u0636\u062d¶\u0636\u062e¶\u0636\u0645"),
    (0xFCB8, 0xFCBC, "\u0637\u062d¶\u0638\u0645¶\u0639\u062c¶\u0639\u0645¶\u063a\u062c"),
    (0xFCBD, 0xFCC1, "\u063a\u0645¶\u0641\u062c¶\u0641\u062d¶\u0641\u062e¶\u0641\u0645"),
    (0xFCC2, 0xFCC6, "\u0642\u062d¶\u0642\u0645¶\u0643\u062c¶\u0643\u062d¶\u0643\u062e"),
    (0xFCC7, 0xFCCB, "\u0643\u0644¶\u0643\u0645¶\u0644\u062c¶\u0644\u062d¶\u0644\u062e"),
    (0xFCCC, 0xFCD0, "\u0644\u0645¶\u0644\u0647¶\u0645\u062c¶\u0645\u062d¶\u0645\u062e"),
    (0xFCD1, 0xFCD5, "\u0645\u0645¶\u0646\u062c¶\u0646\u062d¶\u0646\u062e¶\u0646\u0645"),
    (0xFCD6, 0xFCDA, "\u0646\u0647¶\u0647\u062c¶\u0647\u0645¶\u0647\u0670¶\u064a\u062c"),
    (0xFCDB, 0xFCDF, "\u064a\u062d¶\u064a\u062e¶\u064a\u0645¶\u064a\u0647¶\u0626\u0645"),
    (0xFCE0, 0xFCE4, "\u0626\u0647¶\u0628\u0645¶\u0628\u0647¶\u062a\u0645¶\u062a\u0647"),
    (0xFCE5, 0xFCE9, "\u062b\u0645¶\u062b\u0647¶\u0633\u0645¶\u0633\u0647¶\u0634\u0645"),
    (0xFCEA, 0xFCEE, "\u0634\u0647¶\u0643\u0644¶\u0643\u0645¶\u0644\u0645¶\u0646\u0645"),
    (0xFCEF, 0xFCF2, "\u0646\u0647¶\u064a\u0645¶\u064a\u0647¶\u0640\u064e\u0651"),
    (0xFCF3, 0xFCF6, "\u0640\u064f\u0651¶\u0640\u0650\u0651¶\u0637\u0649¶\u0637\u064a"),
    (0xFCF7, 0xFCFB, "\u0639\u0649¶\u0639\u064a¶\u063a\u0649¶\u063a\u064a¶\u0633\u0649"),
    (0xFCFC, 0xFD00, "\u0633\u064a¶\u0634\u0649¶\u0634\u064a¶\u062d\u0649¶\u062d\u064a"),
    (0xFD01, 0xFD05, "\u062c\u0649¶\u062c\u064a¶\u062e\u0649¶\u062e\u064a¶\u0635\u0649"),
    (0xFD06, 0xFD0A, "\u0635\u064a¶\u0636\u0649¶\u0636\u064a¶\u0634\u062c¶\u0634\u062d"),
    (0xFD0B, 0xFD0F, "\u0634\u062e¶\u0634\u0645¶\u0634\u0631¶\u0633\u0631¶\u0635\u0631"),
    (0xFD10, 0xFD14, "\u0636\u0631¶\u0637\u0649¶\u0637\u064a¶\u0639\u0649¶\u0639\u064a"),
    (0xFD15, 0xFD19, "\u063a\u0649¶\u063a\u064a¶\u0633\u0649¶\u0633\u064a¶\u0634\u0649"),
    (0xFD1A, 0xFD1E, "\u0634\u064a¶\u062d\u0649¶\u062d\u064a¶\u062c\u0649¶\u062c\u064a"),
    (0xFD1F, 0xFD23, "\u062e\u0649¶\u062e\u064a¶\u0635\u0649¶\u0635\u064a¶\u0636\u0649"),
    (0xFD24, 0xFD28, "\u0636\u064a¶\u0634\u062c¶\u0634\u062d¶\u0634\u062e¶\u0634\u0645"),
    (0xFD29, 0xFD2D, "\u0634\u0631¶\u0633\u0631¶\u0635\u0631¶\u0636\u0631¶\u0634\u062c"),
    (0xFD2E, 0xFD32, "\u0634\u062d¶\u0634\u062e¶\u0634\u0645¶\u0633\u0647¶\u0634\u0647"),
    (0xFD33, 0xFD37, "\u0637\u0645¶\u0633\u062c¶\u0633\u062d¶\u0633\u062e¶\u0634\u062c"),
    (0xFD38, 0xFD3C, "\u0634\u062d¶\u0634\u062e¶\u0637\u0645¶\u0638\u0645¶\u0627\u064b"),
    (0xFD3D, 0xFD3D, "\u0627\u064b"),
    (0xFD50, 0xFD52, "\u062a\u062c\u0645¶\u062a\u062d\u062c¶\u062a\u062d\u062c"),
    (0xFD53, 0xFD55, "\u062a\u062d\u0645¶\u062a\u062e\u0645¶\u062a\u0645\u062c"),
    (0xFD56, 0xFD58, "\u062a\u0645\u062d¶\u062a\u0645\u062e¶\u062c\u0645\u062d"),
    (0xFD59, 0xFD5B, "\u062c\u0645\u062d¶\u062d\u0645\u064a¶\u062d\u0645\u0649"),
    (0xFD5C, 0xFD5E, "\u0633\u062d\u062c¶\u0633\u062c\u062d¶\u0633\u062c\u0649"),
    (0xFD5F, 0xFD61, "\u0633\u0645\u062d¶\u0633\u0645\u062d¶\u0633\u0645\u062c"),
    (0xFD62, 0xFD64, "\u0633\u0645\u0645¶\u0633\u0645\u0645¶\u0635\u062d\u062d"),
    (0xFD65, 0xFD67, "\u0635\u062d\u062d¶\u0635\u0645\u0645¶\u0634\u062d\u0645"),
    (0xFD68, 0xFD6A, "\u0634\u062d\u0645¶\u0634\u062c\u064a¶\u0634\u0645\u062e"),
    (0xFD6B, 0xFD6D, "\u0634\u0645\u062e¶\u0634\u0645\u0645¶\u0634\u0645\u0645"),
    (0xFD6E, 0xFD70, "\u0636\u062d\u0649¶\u0636\u062e\u0645¶\u0636\u062e\u0645"),
    (0xFD71, 0xFD73, "\u0637\u0645\u062d¶\u0637\u0645\u062d¶\u0637\u0645\u0645"),
    (0xFD74, 0xFD76, "\u0637\u0645\u064a¶\u0639\u062c\u0645¶\u0639\u0645\u0645"),
    (0xFD77, 0xFD79, "\u0639\u0645\u0645¶\u0639\u0645\u0649¶\u063a\u0645\u0645"),
    (0xFD7A, 0xFD7C, "\u063a\u0645\u064a¶\u063a\u0645\u0649¶\u0641\u062e\u0645"),
    (0xFD7D, 0xFD7F, "\u0641\u062e\u0645¶\u0642\u0645\u062d¶\u0642\u0645\u0645"),
    (0xFD80, 0xFD82, "\u0644\u062d\u0645¶\u0644\u062d\u064a¶\u0644\u062d\u0649"),
    (0xFD83, 0xFD85, "\u0644\u062c\u062c¶\u0644\u062c\u062c¶\u0644\u062e\u0645"),
    (0xFD86, 0xFD88, "\u0644\u062e\u0645¶\u0644\u0645\u062d¶\u0644\u0645\u062d"),
    (0xFD89, 0xFD8B, "\u0645\u062d\u062c¶\u0645\u062d\u0645¶\u0645\u062d\u064a"),
    (0xFD8C, 0xFD8E, "\u0645\u062c\u062d¶\u0645\u062c\u0645¶\u0645\u062e\u062c"),
    (0xFD8F, 0xFD8F, "\u0645\u062e\u0645"),
    (0xFD92, 0xFD94, "\u0645\u062c\u062e¶\u0647\u0645\u062c¶\u0647\u0645\u0645"),
    (0xFD95, 0xFD97, "\u0646\u062d\u0645¶\u0646\u062d\u0649¶\u0646\u062c\u0645"),
    (0xFD98, 0xFD9A, "\u0646\u062c\u0645¶\u0646\u062c\u0649¶\u0646\u0645\u064a"),
    (0xFD9B, 0xFD9D, "\u0646\u0645\u0649¶\u064a\u0645\u0645¶\u064a\u0645\u0645"),
    (0xFD9E, 0xFDA0, "\u0628\u062e\u064a¶\u062a\u062c\u064a¶\u062a\u062c\u0649"),
    (0xFDA1, 0xFDA3, "\u062a\u062e\u064a¶\u062a\u062e\u0649¶\u062a\u0645\u064a"),
    (0xFDA4, 0xFDA6, "\u062a\u0645\u0649¶\u062c\u0645\u064a¶\u062c\u062d\u0649"),
    (0xFDA7, 0xFDA9, "\u062c\u0645\u0649¶\u0633\u062e\u0649¶\u0635\u062d\u064a"),
    (0xFDAA, 0xFDAC, "\u0634\u062d\u064a¶\u0636\u062d\u064a¶\u0644\u062c\u064a"),
    (0xFDAD, 0xFDAF, "\u0644\u0645\u064a¶\u064a\u062d\u064a¶\u064a\u062c\u064a"),
    (0xFDB0, 0xFDB2, "\u064a\u0645\u064a¶\u0645\u0645\u064a¶\u0642\u0645\u064a"),
    (0xFDB3, 0xFDB5, "\u0646\u062d\u064a¶\u0642\u0645\u062d¶\u0644\u062d\u0645"),
    (0xFDB6, 0xFDB8, "\u0639\u0645\u064a¶\u0643\u0645\u064a¶\u0646\u062c\u062d"),
    (0xFDB9, 0xFDBB, "\u0645\u062e\u064a¶\u0644\u062c\u0645¶\u0643\u0645\u0645"),
    (0xFDBC, 0xFDBE, "\u0644\u062c\u0645¶\u0646\u062c\u062d¶\u062c\u062d\u064a"),
    (0xFDBF, 0xFDC1, "\u062d\u062c\u064a¶\u0645\u062c\u064a¶\u0641\u0645\u064a"),
    (0xFDC2, 0xFDC4, "\u0628\u062d\u064a¶\u0643\u0645\u0645¶\u0639\u062c\u0645"),
    (0xFDC5, 0xFDC7, "\u0635\u0645\u0645¶\u0633\u062e\u064a¶\u0646\u062c\u064a"),
    (0xFDF0, 0xFDF2, "\u0635\u0644\u06d2¶\u0642\u0644\u06d2¶\u0627\u0644\u0644\u0647"),
    (0xFDF3, 0xFDF5,
      "\u0627\u0643\u0628\u0631¶\u0645\u062d\u0645\u062f¶\u0635\u0644\u0639\u0645"),
    (0xFDF6, 0xFDF8,
      "\u0631\u0633\u0648\u0644¶\u0639\u0644\u064a\u0647¶\u0648\u0633\u0644\u0645"),
    (0xFDF9, 0xFDF9, "\u0635\u0644\u0649"),
    (0xFDFA, 0xFDFA,
      "\u0635\u0644\u0649 \u0627\u0644\u0644\u0647 \u0639\u0644\u064a\u0647 \u0648\u0633\u0644\u0645"),
    (0xFDFB, 0xFDFC,
      "\u062c\u0644 \u062c\u0644\u0627\u0644\u0647¶\u0631\u06cc\u0627\u0644"),
    (0xFE10, 0xFE11, ",¶、"),
    (0xFE13, 0xFE18, ":¶;¶!¶?¶〖¶〗"),
    (0xFE31, 0xFE44, "—¶–¶_¶_¶(¶)¶\x7b¶\x7d¶〔¶〕¶【¶】¶《¶》¶〈¶〉¶「¶」¶『¶』"),
    (0xFE47, 0xFE51, "[¶]¶ \u0305¶ \u0305¶ \u0305¶ \u0305¶_¶_¶_¶,¶、"),
    (0xFE54, 0xFE66, ";¶:¶?¶!¶—¶(¶)¶\x7b¶\x7d¶〔¶〕¶#¶&¶*¶+¶-¶<¶>¶="),
    (0xFE68, 0xFE6B, "\\¶$¶%¶@"),
    (0xFE70, 0xFE72, " \u064b¶\u0640\u064b¶ \u064c"),
    (0xFE74, 0xFE74, " \u064d"),
    (0xFE76, 0xFE7C,
      " \u064e¶\u0640\u064e¶ \u064f¶\u0640\u064f¶ \u0650¶\u0640\u0650¶ \u0651"),
    (0xFE7D, 0xFE84,
      "\u0640\u0651¶ \u0652¶\u0640\u0652¶\u0621¶\u0622¶\u0622¶\u0623¶\u0623"),
    (0xFE85, 0xFE8E,
      "\u0624¶\u0624¶\u0625¶\u0625¶\u0626¶\u0626¶\u0626¶\u0626¶\u0627¶\u0627"),
    (0xFE8F, 0xFE98,
      "\u0628¶\u0628¶\u0628¶\u0628¶\u0629¶\u0629¶\u062a¶\u062a¶\u062a¶\u062a"),
    (0xFE99, 0xFEA2,
      "\u062b¶\u062b¶\u062b¶\u062b¶\u062c¶\u062c¶\u062c¶\u062c¶\u062d¶\u062d"),
    (0xFEA3, 0xFEAC,
      "\u062d¶\u062d¶\u062e¶\u062e¶\u062e¶\u062e¶\u062f¶\u062f¶\u0630¶\u0630"),
    (0xFEAD, 0xFEB6,
      "\u0631¶\u0631¶\u0632¶\u0632¶\u0633¶\u0633¶\u0633¶\u0633¶\u0634¶\u0634"),
    (0xFEB7, 0xFEC0,
      "\u0634¶\u0634¶\u0635¶\u0635¶\u0635¶\u0635¶\u0636¶\u0636¶\u0636¶\u0636"),
    (0xFEC1, 0xFECA,
      "\u0637¶\u0637¶\u0637¶\u0637¶\u0638¶\u0638¶\u0638¶\u0638¶\u0639¶\u0639"),
    (0xFECB, 0xFED4,
      "\u0639¶\u0639¶\u063a¶\u063a¶\u063a¶\u063a¶\u0641¶\u0641¶\u0641¶\u0641"),
    (0xFED5, 0xFEDE,
      "\u0642¶\u0642¶\u0642¶\u0642¶\u0643¶\u0643¶\u0643¶\u0643¶\u0644¶\u0644"),
    (0xFEDF, 0xFEE8,
      "\u0644¶\u0644¶\u0645¶\u0645¶\u0645¶\u0645¶\u0646¶\u0646¶\u0646¶\u0646"),
    (0xFEE9, 0xFEF2,
      "\u0647¶\u0647¶\u0647¶\u0647¶\u0648¶\u0648¶\u0649¶\u0649¶\u064a¶\u064a"),
    (0xFEF3, 0xFEF8, "\u064a¶\u064a¶\u0644\u0622¶\u0644\u0622¶\u0644\u0623¶\u0644\u0623"),
    (0xFEF9, 0xFEFC, "\u0644\u0625¶\u0644\u0625¶\u0644\u0627¶\u0644\u0627"),
    (0xFF5F, 0xFF83,
      "⦅¶⦆¶.¶「¶」¶、¶・¶ヲ¶ァ¶ィ¶ゥ¶ェ¶ォ¶ャ¶ュ¶ョ¶ッ¶ー¶ア¶イ¶ウ¶エ¶オ¶カ¶キ¶ク¶ケ¶コ¶サ¶シ¶ス¶セ¶ソ¶タ¶チ¶ツ¶テ"),
    (0xFF84, 0xFF84, "ト"),
    (0xFF8B, 0xFF8E, "ヒ¶フ¶ヘ¶ホ"),
    (0xFF94, 0xFF95, "ヤ¶ユ"),
    (0xFF9C, 0xFF9F, "ワ¶ン¶\u3099¶\u309a"),
    (0xFFA1, 0xFFA9, "ᄀ¶ᄁ¶ᆪ¶ᄂ¶ᆬ¶ᆭ¶ᄃ¶ᄄ¶ᄅ"),
    (0xFFB0, 0xFFB4, "ᄚ¶ᄆ¶ᄇ¶ᄈ¶ᄡ"),
    (0xFFDA, 0xFFDC, "ᅳ¶ᅴ¶ᅵ"),
    (0xFFE0, 0xFFE6, "¢¶£¶¬¶ \u0304¶¦¶¥¶₩"),
    (0xFFE8, 0xFFEE, "│¶←¶↑¶→¶↓¶■¶○"),
    (0x10781, 0x10785, "ː¶ˑ¶æ¶ʙ¶ɓ"),
    (0x10787, 0x107AB,
      "ʣ¶ꭦ¶ʥ¶ʤ¶ɖ¶ɗ¶ᶑ¶ɘ¶ɞ¶ʩ¶ɤ¶ɢ¶ɠ¶ʛ¶ħ¶ʜ¶ɧ¶ʄ¶ʪ¶ʫ¶ɬ¶𝼄¶ꞎ¶ɮ¶𝼅¶ʎ¶𝼆¶ø¶ɶ¶ɷ¶q¶ɺ¶𝼈¶ɽ¶ɾ¶ʀ¶ʨ"),
    (0x107AC, 0x107B0, "ʦ¶ꭧ¶ʧ¶ʈ¶ⱱ"),
    (0x107B2, 0x107BA, "ʏ¶ʡ¶ʢ¶ʘ¶ǀ¶ǁ¶ǂ¶𝼊¶𝼞"),
    (0x1D15E, 0x1D164, "𝅗𝅥¶𝅘𝅥¶𝅘𝅥𝅮¶𝅘𝅥𝅯¶𝅘𝅥𝅰¶𝅘𝅥𝅱¶𝅘𝅥𝅲"),
    (0x1D1BB, 0x1D1C0, "𝆹𝅥¶𝆺𝅥¶𝆹𝅥𝅮¶𝆺𝅥𝅮¶𝆹𝅥𝅯¶𝆺𝅥𝅯"),
    (0x1D49C, 0x1D49C, "a"),
    (0x1D49E, 0x1D49F, "c¶d"),
    (0x1D4A2, 0x1D4A2, "g"),
    (0x1D4A5, 0x1D4A6, "j¶k"),
    (0x1D4A9, 0x1D4AC, "n¶o¶p¶q"),
    (0x1D4B6, 0x1D4B9, "a¶b¶c¶d"),
    (0x1D4BB, 0x1D4BB, "f"),
    (0x1D4BD, 0x1D4BD, "h"),
    (0x1D504, 0x1D505, "a¶b"),
    (0x1D507, 0x1D50A, "d¶e¶f¶g"),
    (0x1D538, 0x1D539, "a¶b"),
    (0x1D53B, 0x1D53E, "d¶e¶f¶g"),
    (0x1D546, 0x1D546, "o"),
    (0x1D6A4, 0x1D6A5, "ı¶ȷ"),
    (0x1D6B9, 0x1D6B9, "θ"),
    (0x1D6C1, 0x1D6C1, "∇"),
    (0x1D6D3, 0x1D6D3, "σ"),
    (0x1D6DB, 0x1D6E1, "∂¶ε¶θ¶κ¶φ¶ρ¶π"),
    (0x1D6F3, 0x1D6F3, "θ"),
    (0x1D6FB, 0x1D6FB, "∇"),
    (0x1D70D, 0x1D70D, "σ"),
    (0x1D715, 0x1D71B, "∂¶ε¶θ¶κ¶φ¶ρ¶π"),
    (0x1D72D, 0x1D72D, "θ"),
    (0x1D735, 0x1D735, "∇"),
    (0x1D747, 0x1D747, "σ"),
    (0x1D74F, 0x1D755, "∂¶ε¶θ¶κ¶φ¶ρ¶π"),
    (0x1D767, 0x1D767, "θ"),
    (0x1D76F, 0x1D76F, "∇"),
    (0x1D781, 0x1D781, "σ"),
    (0x1D789, 0x1D78F, "∂¶ε¶θ¶κ¶φ¶ρ¶π"),
    (0x1D7A1, 0x1D7A1, "θ"),
    (0x1D7A9, 0x1D7A9, "∇"),
    (0x1D7BB, 0x1D7BB, "σ"),
    (0x1D7C3, 0x1D7CB, "∂¶ε¶θ¶κ¶φ¶ρ¶π¶ϝ¶ϝ"),
    (0x1E039, 0x1E03B, "к¶л¶м"),
    (0x1E047, 0x1E050, "ы¶э¶ю¶ꚉ¶ә¶і¶ј¶ө¶ү¶ӏ"),
    (0x1E05A, 0x1E05E, "к¶л¶о¶п¶с"),
    (0x1E065, 0x1E06D, "ъ¶ы¶ґ¶і¶ѕ¶џ¶ҫ¶ꙑ¶ұ"),
    (0x1EE00, 0x1EE03, "\u0627¶\u0628¶\u062c¶\u062f"),
    (0x1EE05, 0x1EE0E,
      "\u0648¶\u0632¶\u062d¶\u0637¶\u064a¶\u0643¶\u0644¶\u0645¶\u0646¶\u0633"),
    (0x1EE0F, 0x1EE18,
      "\u0639¶\u0641¶\u0635¶\u0642¶\u0631¶\u0634¶\u062a¶\u062b¶\u062e¶\u0630"),
    (0x1EE19, 0x1EE1F, "\u0636¶\u0638¶\u063a¶\u066e¶\u06ba¶\u06a1¶\u066f"),
    (0x1EE21, 0x1EE22, "\u0628¶\u062c"),
    (0x1EE24, 0x1EE24, "\u0647"),
    (0x1EE27, 0x1EE27, "\u062d"),
    (0x1EE29, 0x1EE32,
      "\u064a¶\u0643¶\u0644¶\u0645¶\u0646¶\u0633¶\u0639¶\u0641¶\u0635¶\u0642"),
    (0x1EE34, 0x1EE37, "\u0634¶\u062a¶\u062b¶\u062e"),
    (0x1EE39, 0x1EE39, "\u0636"),
    (0x1EE3B, 0x1EE3B, "\u063a"),
    (0x1EE42, 0x1EE42, "\u062c"),
    (0x1EE47, 0x1EE47, "\u062d"),
    (0x1EE49, 0x1EE49, "\u064a"),
    (0x1EE4B, 0x1EE4B, "\u0644"),
    (0x1EE4D, 0x1EE4F, "\u0646¶\u0633¶\u0639"),
    (0x1EE51, 0x1EE52, "\u0635¶\u0642"),
    (0x1EE54, 0x1EE54, "\u0634"),
    (0x1EE57, 0x1EE57, "\u062e"),
    (0x1EE59, 0x1EE59, "\u0636"),
    (0x1EE5B, 0x1EE5B, "\u063a"),
    (0x1EE5D, 0x1EE5D, "\u06ba"),
    (0x1EE5F, 0x1EE5F, "\u066f"),
    (0x1EE61, 0x1EE62, "\u0628¶\u062c"),
    (0x1EE64, 0x1EE64, "\u0647"),
    (0x1EE67, 0x1EE6A, "\u062d¶\u0637¶\u064a¶\u0643"),
    (0x1EE6C, 0x1EE72, "\u0645¶\u0646¶\u0633¶\u0639¶\u0641¶\u0635¶\u0642"),
    (0x1EE74, 0x1EE77, "\u0634¶\u062a¶\u062b¶\u062e"),
    (0x1EE79, 0x1EE7C, "\u0636¶\u0638¶\u063a¶\u066e"),
    (0x1EE7E, 0x1EE7E, "\u06a1"),
    (0x1EE80, 0x1EE89,
      "\u0627¶\u0628¶\u062c¶\u062f¶\u0647¶\u0648¶\u0632¶\u062d¶\u0637¶\u064a"),
    (0x1EE8B, 0x1EE94,
      "\u0644¶\u0645¶\u0646¶\u0633¶\u0639¶\u0641¶\u0635¶\u0642¶\u0631¶\u0634"),
    (0x1EE95, 0x1EE9B, "\u062a¶\u062b¶\u062e¶\u0630¶\u0636¶\u0638¶\u063a"),
    (0x1EEA1, 0x1EEA3, "\u0628¶\u062c¶\u062f"),
    (0x1EEA5, 0x1EEA9, "\u0648¶\u0632¶\u062d¶\u0637¶\u064a"),
    (0x1EEAB, 0x1EEB4,
      "\u0644¶\u0645¶\u0646¶\u0633¶\u0639¶\u0641¶\u0635¶\u0642¶\u0631¶\u0634"),
    (0x1EEB5, 0x1EEBB, "\u062a¶\u062b¶\u062e¶\u0630¶\u0636¶\u0638¶\u063a"),
    (0x1F101, 0x1F10A, "0,¶1,¶2,¶3,¶4,¶5,¶6,¶7,¶8,¶9,"),
    (0x1F110, 0x1F121,
      "(a)¶(b)¶(c)¶(d)¶(e)¶(f)¶(g)¶(h)¶(i)¶(j)¶(k)¶(l)¶(m)¶(n)¶(o)¶(p)¶(q)¶(r)"),
    (0x1F122, 0x1F12E, "(s)¶(t)¶(u)¶(v)¶(w)¶(x)¶(y)¶(z)¶〔s〕¶c¶r¶cd¶wz"),
    (0x1F14A, 0x1F14F, "hv¶mv¶sd¶ss¶ppv¶wc"),
    (0x1F16A, 0x1F16C, "mc¶md¶mr"),
    (0x1F190, 0x1F190, "dj"),
    (0x1F200, 0x1F202, "ほか¶ココ¶サ"),
    (0x1F210, 0x1F234,
      "手¶字¶双¶デ¶二¶多¶解¶天¶交¶映¶無¶料¶前¶後¶再¶新¶初¶終¶生¶販¶声¶吹¶演¶投¶捕¶一¶三¶遊¶左¶中¶右¶指¶走¶打¶禁¶空¶合"),
    (0x1F235, 0x1F23B, "満¶有¶月¶申¶割¶営¶配"),
    (0x1F240, 0x1F248, "〔本〕¶〔三〕¶〔二〕¶〔安〕¶〔点〕¶〔打〕¶〔盗〕¶〔勝〕¶〔敗〕"),
    (0x1F250, 0x1F251, "得¶可"),
    (0x2F800, 0x2F824,
      "丽¶丸¶乁¶𠄢¶你¶侮¶侻¶倂¶偺¶備¶僧¶像¶㒞¶𠘺¶免¶兔¶兤¶具¶𠔜¶㒹¶內¶再¶𠕋¶冗¶冤¶仌¶冬¶况¶𩇟¶凵¶刃¶㓟¶刻¶剆¶割¶剷¶㔕"),
    (0x2F825, 0x2F849,
      "勇¶勉¶勤¶勺¶包¶匆¶北¶卉¶卑¶博¶即¶卽¶卿¶卿¶卿¶𠨬¶灰¶及¶叟¶𠭣¶叫¶叱¶吆¶咞¶吸¶呈¶周¶咢¶哶¶唐¶啓¶啣¶善¶善¶喙¶喫¶喳"),
    (0x2F84A, 0x2F86E,
      "嗂¶圖¶嘆¶圗¶噑¶噴¶切¶壮¶城¶埴¶堍¶型¶堲¶報¶墬¶𡓤¶売¶壷¶夆¶多¶夢¶奢¶𡚨¶𡛪¶姬¶娛¶娧¶姘¶婦¶㛮¶㛼¶嬈¶嬾¶嬾¶𡧈¶寃¶寘"),
    (0x2F86F, 0x2F893,
      "寧¶寳¶𡬘¶寿¶将¶当¶尢¶㞁¶屠¶屮¶峀¶岍¶𡷤¶嵃¶𡷦¶嵮¶嵫¶嵼¶巡¶巢¶㠯¶巽¶帨¶帽¶幩¶㡢¶𢆃¶㡼¶庰¶庳¶庶¶廊¶𪎒¶廾¶𢌱¶𢌱¶舁"),
    (0x2F894, 0x2F8B8,
      "弢¶弢¶㣇¶𣊸¶𦇚¶形¶彫¶㣣¶徚¶忍¶志¶忹¶悁¶㤺¶㤜¶悔¶𢛔¶惇¶慈¶慌¶慎¶慌¶慺¶憎¶憲¶憤¶憯¶懞¶懲¶懶¶成¶戛¶扝¶抱¶拔¶捐¶𢬌"),
    (0x2F8B9, 0x2F8DD,
      "挽¶拼¶捨¶掃¶揤¶𢯱¶搢¶揅¶掩¶㨮¶摩¶摾¶撝¶摷¶㩬¶敏¶敬¶𣀊¶旣¶書¶晉¶㬙¶暑¶㬈¶㫤¶冒¶冕¶最¶暜¶肭¶䏙¶朗¶望¶朡¶杞¶杓¶𣏃"),
    (0x2F8DE, 0x2F902,
      "㭉¶柺¶枅¶桒¶梅¶𣑭¶梎¶栟¶椔¶㮝¶楂¶榣¶槪¶檨¶𣚣¶櫛¶㰘¶次¶𣢧¶歔¶㱎¶歲¶殟¶殺¶殻¶𣪍¶𡴋¶𣫺¶汎¶𣲼¶沿¶泍¶汧¶洖¶派¶海¶流"),
    (0x2F903, 0x2F927,
      "浩¶浸¶涅¶𣴞¶洴¶港¶湮¶㴳¶滋¶滇¶𣻑¶淹¶潮¶𣽞¶𣾎¶濆¶瀹¶瀞¶瀛¶㶖¶灊¶災¶灷¶炭¶𠔥¶煅¶𤉣¶熜¶𤎫¶爨¶爵¶牐¶𤘈¶犀¶犕¶𤜵¶𤠔"),
    (0x2F928, 0x2F94C,
      "獺¶王¶㺬¶玥¶㺸¶㺸¶瑇¶瑜¶瑱¶璅¶瓊¶㼛¶甤¶𤰶¶甾¶𤲒¶異¶𢆟¶瘐¶𤾡¶𤾸¶𥁄¶㿼¶䀈¶直¶𥃳¶𥃲¶𥄙¶𥄳¶眞¶真¶真¶睊¶䀹¶瞋¶䁆¶䂖"),
    (0x2F94D, 0x2F971,
      "𥐝¶硎¶碌¶磌¶䃣¶𥘦¶祖¶𥚚¶𥛅¶福¶秫¶䄯¶穀¶穊¶穏¶𥥼¶𥪧¶𥪧¶竮¶䈂¶𥮫¶篆¶築¶䈧¶𥲀¶糒¶䊠¶糨¶糣¶紀¶𥾆¶絣¶䌁¶緇¶縂¶繅¶䌴"),
    (0x2F972, 0x2F996,
      "𦈨¶𦉇¶䍙¶𦋙¶罺¶𦌾¶羕¶翺¶者¶𦓚¶𦔣¶聠¶𦖨¶聰¶𣍟¶䏕¶育¶脃¶䐋¶脾¶媵¶𦞧¶𦞵¶𣎓¶𣎜¶舁¶舄¶辞¶䑫¶芑¶芋¶芝¶劳¶花¶芳¶芽¶苦"),
    (0x2F997, 0x2F9BB,
      "𦬼¶若¶茝¶荣¶莭¶茣¶莽¶菧¶著¶荓¶菊¶菌¶菜¶𦰶¶𦵫¶𦳕¶䔫¶蓱¶蓳¶蔖¶𧏊¶蕤¶𦼬¶䕝¶䕡¶𦾱¶𧃒¶䕫¶虐¶虜¶虧¶虩¶蚩¶蚈¶蜎¶蛢¶蝹"),
    (0x2F9BC, 0x2F9E0,
      "蜨¶蝫¶螆¶䗗¶蟡¶蠁¶䗹¶衠¶衣¶𧙧¶裗¶裞¶䘵¶裺¶㒻¶𧢮¶𧥦¶䚾¶䛇¶誠¶諭¶變¶豕¶𧲨¶貫¶賁¶贛¶起¶𧼯¶𠠄¶跋¶趼¶跰¶𠣞¶軔¶輸¶𨗒"),
    (0x2F9E1, 0x2FA05,
      "𨗭¶邔¶郱¶鄑¶𨜮¶鄛¶鈸¶鋗¶鋘¶鉼¶鏹¶鐕¶𨯺¶開¶䦕¶閷¶𨵷¶䧦¶雃¶嶲¶霣¶𩅅¶𩈚¶䩮¶䩶¶韠¶𩐊¶䪲¶𩒖¶頋¶頋¶頩¶𩖶¶飢¶䬳¶餩¶馧"),
    (0x2FA06, 0x2FA1D, "駂¶駾¶䯎¶𩬰¶鬒¶鱀¶鳽¶䳎¶䳭¶鵧¶𪃎¶䳸¶𪄅¶𪈎¶𪊑¶麻¶䵖¶黹¶黾¶鼅¶鼏¶鼖¶鼻¶𪘀")]

/-- Characters that fold to nothing. -/
def ignoredRanges : Ranges := [
    (0xAD, 0xAD), (0x34F, 0x34F), (0x115F, 0x1160), (0x17B4, 0x17B5), (0x180B, 0x180F),
    (0x200B, 0x200B), (0x2060, 0x2064), (0x206A, 0x206F), (0x3164, 0x3164), (0xFE00, 0xFE0F),
    (0xFEFF, 0xFEFF), (0xFFA0, 0xFFA0), (0x1BCA0, 0x1BCA3), (0x1D173, 0x1D17A), (0xE0100, 0xE01EF)]

/-- Characters that have no place in folded text. -/
def refusedRanges : Ranges := [
    (0x61C, 0x61C), (0x200E, 0x200F), (0x2024, 0x2026), (0x202A, 0x202E), (0x2065, 0x2069),
    (0x2488, 0x249B), (0x2FF0, 0x2FFF), (0x31EF, 0x31EF), (0x33C2, 0x33C2), (0x33C7, 0x33C7),
    (0x33D8, 0x33D8), (0xFE12, 0xFE12), (0xFE19, 0xFE19), (0xFE30, 0xFE30), (0xFE52, 0xFE52),
    (0xFFF0, 0xFFF8), (0xFFFC, 0xFFFD), (0x1F100, 0x1F100), (0xE0000, 0xE00FF), (0xE01F0, 0xE0FFF)]

end Sidecar.Unicode

import MemoStore.Text.Category

/-!
# Replacements in host names

What a character of a host name is replaced by before anything else is looked at. Letters
of another case, width or style become plain ones, signs that are made of several
characters are taken apart, and the stops of other scripts become stops. Replacements
by characters that are told apart nowhere here are left out, and listed as changed.
-/

namespace MemoStore.Host

open MemoStore.Text

/-- Ranges whose characters are replaced by as many characters in a row, with the first of
these. -/
def runs : List (Nat × Nat × Char) :=
  [(0x1D33, 0x1D3A, 'g'), (0x2074, 0x2079, '4'), (0x2080, 0x2089, '0'), (0x2096, 0x2099, 'k'),
   (0x2135, 0x2138, 'א'), (0x2460, 0x2468, '1'), (0x24B6, 0x24CF, 'a'), (0x24D0, 0x24E9, 'a'),
   (0xFF01, 0xFF20, '!'), (0xFF21, 0xFF3A, 'a'), (0xFF3B, 0xFF5E, '['), (0x1CCD6, 0x1CCEF, 'a'),
   (0x1CCF0, 0x1CCF9, '0'), (0x1D400, 0x1D419, 'a'), (0x1D41A, 0x1D433, 'a'),
   (0x1D434, 0x1D44D, 'a'), (0x1D44E, 0x1D454, 'a'), (0x1D456, 0x1D467, 'i'),
   (0x1D468, 0x1D481, 'a'), (0x1D482, 0x1D49B, 'a'), (0x1D4A9, 0x1D4AC, 'n'),
   (0x1D4AE, 0x1D4B5, 's'), (0x1D4B6, 0x1D4B9, 'a'), (0x1D4BD, 0x1D4C3, 'h'),
   (0x1D4C5, 0x1D4CF, 'p'), (0x1D4D0, 0x1D4E9, 'a'), (0x1D4EA, 0x1D503, 'a'),
   (0x1D507, 0x1D50A, 'd'), (0x1D50D, 0x1D514, 'j'), (0x1D516, 0x1D51C, 's'),
   (0x1D51E, 0x1D537, 'a'), (0x1D53B, 0x1D53E, 'd'), (0x1D540, 0x1D544, 'i'),
   (0x1D54A, 0x1D550, 's'), (0x1D552, 0x1D56B, 'a'), (0x1D56C, 0x1D585, 'a'),
   (0x1D586, 0x1D59F, 'a'), (0x1D5A0, 0x1D5B9, 'a'), (0x1D5BA, 0x1D5D3, 'a'),
   (0x1D5D4, 0x1D5ED, 'a'), (0x1D5EE, 0x1D607, 'a'), (0x1D608, 0x1D621, 'a'),
   (0x1D622, 0x1D63B, 'a'), (0x1D63C, 0x1D655, 'a'), (0x1D656, 0x1D66F, 'a'),
   (0x1D670, 0x1D689, 'a'), (0x1D68A, 0x1D6A3, 'a'), (0x1D7CE, 0x1D7D7, '0'),
   (0x1D7D8, 0x1D7E1, '0'), (0x1D7E2, 0x1D7EB, '0'), (0x1D7EC, 0x1D7F5, '0'),
   (0x1D7F6, 0x1D7FF, '0'), (0x1F130, 0x1F149, 'a'), (0x1FBF0, 0x1FBF9, '0')]

/-- Texts, with the other characters that are replaced by them. -/
def texts : List (String × List Nat) :=
  [(" ", [0xA0, 0x2000, 0x2001, 0x2002, 0x2003, 0x2004, 0x2005, 0x2006, 0x2007, 0x2008, 0x2009,
   0x200A, 0x202F, 0x205F, 0x3000]), (" \u0308", [0xA8]), ("a", [0xAA, 0x1D2C, 0x1D43, 0x2090,
   0x1D49C, 0x1D504, 0x1D538]), (" \u0304", [0xAF, 0xFFE3]), ("2", [0xB2]), ("3", [0xB3]),
   (" \u0301", [0xB4, 0x384, 0x1FFD]), (" \u0327", [0xB8]), ("1", [0xB9]), ("o", [0xBA, 0x1D3C,
   0x1D52, 0x2092, 0x2134, 0x1D546]), ("1⁄4", [0xBC]), ("1⁄2", [0xBD]), ("3⁄4", [0xBE]),
   ("i\u0307", [0x130]), ("ij", [0x132, 0x133]), ("l·", [0x13F, 0x140]), ("ʼn", [0x149]), ("s",
   [0x17F, 0x2E2, 0x209B, 0xA7F1]), ("dž", [0x1C4, 0x1C5, 0x1C6]), ("lj", [0x1C7, 0x1C8, 0x1C9]),
   ("nj", [0x1CA, 0x1CB, 0x1CC]), ("dz", [0x1F1, 0x1F2, 0x1F3]), ("h", [0x2B0, 0x2095, 0x210B,
   0x210C, 0x210D, 0x210E]), ("j", [0x2B2, 0x2149, 0x2C7C, 0x1D4A5]), ("r", [0x2B3, 0x1D3F,
   0x1D63, 0x211B, 0x211C, 0x211D, 0x1F12C]), ("w", [0x2B7, 0x1D42]), ("y", [0x2B8]), (" \u0306",
   [0x2D8]), (" \u0307", [0x2D9]), (" \u030a", [0x2DA]), (" \u0328", [0x2DB]), (" \u0303",
   [0x2DC]), (" \u030b", [0x2DD]), ("l", [0x2E1, 0x2112, 0x2113, 0x216C, 0x217C]), ("x", [0x2E3,
   0x2093, 0x2169, 0x2179]), ("ι", [0x345]), (" ι", [0x37A]), (";", [0x37E, 0xFE14, 0xFE54]),
   (" \u0308\u0301", [0x385, 0x1FEE]), ("\u0e4dา", [0xE33]), ("\u0ecdາ", [0xEB3]), ("b", [0x1D2E,
   0x1D47, 0x212C, 0x1D505, 0x1D539]), ("d", [0x1D30, 0x1D48, 0x2145, 0x2146, 0x216E, 0x217E,
   0x1D49F]), ("e", [0x1D31, 0x1D49, 0x2091, 0x212F, 0x2130, 0x2147]), ("p", [0x1D3E, 0x1D56,
   0x209A, 0x2119]), ("t", [0x1D40, 0x1D57, 0x209C]), ("u", [0x1D41, 0x1D58, 0x1D64]), ("g",
   [0x1D4D, 0x210A, 0x1D4A2]), ("k", [0x1D4F, 0x212A, 0x1D4A6]), ("m", [0x1D50, 0x2133, 0x216F,
   0x217F]), ("v", [0x1D5B, 0x1D65, 0x2164, 0x2174, 0x2C7D]), ("i", [0x1D62, 0x2071, 0x2110,
   0x2111, 0x2139, 0x2148, 0x2160, 0x2170]), ("c", [0x1D9C, 0x2102, 0x212D, 0x216D, 0x217D,
   0xA7F2, 0x1D49E, 0x1F12B]), ("f", [0x1DA0, 0x2131, 0xA7F3, 0x1D4BB]), ("z", [0x1DBB, 0x2124,
   0x2128]), ("aʾ", [0x1E9A]), (" \u0313", [0x1FBD, 0x1FBF]), (" \u0342", [0x1FC0]),
   (" \u0308\u0342", [0x1FC1]), (" \u0313\u0300", [0x1FCD]), (" \u0313\u0301", [0x1FCE]),
   (" \u0313\u0342", [0x1FCF]), (" \u0314\u0300", [0x1FDD]), (" \u0314\u0301", [0x1FDE]),
   (" \u0314\u0342", [0x1FDF]), (" \u0308\u0300", [0x1FED]), ("`", [0x1FEF]), (" \u0314",
   [0x1FFE]), (" \u0333", [0x2017]), ("!!", [0x203C]), (" \u0305", [0x203E, 0xFE49, 0xFE4A,
   0xFE4B, 0xFE4C]), ("??", [0x2047]), ("?!", [0x2048]), ("!?", [0x2049]), ("0", [0x2070,
   0x24EA]), ("+", [0x207A, 0x208A, 0xFB29, 0xFE62]), ("=", [0x207C, 0x208C, 0xFE66]), ("(",
   [0x207D, 0x208D, 0xFE35, 0xFE59]), (")", [0x207E, 0x208E, 0xFE36, 0xFE5A]), ("n", [0x207F,
   0x2115]), ("rs", [0x20A8]), ("a/c", [0x2100]), ("a/s", [0x2101]), ("°c", [0x2103]), ("c/o",
   [0x2105]), ("c/u", [0x2106]), ("°f", [0x2109]), ("no", [0x2116]), ("q", [0x211A, 0xA7F4,
   0x107A5]), ("sm", [0x2120]), ("tel", [0x2121]), ("tm", [0x2122]), ("fax", [0x213B]), ("1⁄7",
   [0x2150]), ("1⁄9", [0x2151]), ("1⁄10", [0x2152]), ("1⁄3", [0x2153]), ("2⁄3", [0x2154]), ("1⁄5",
   [0x2155]), ("2⁄5", [0x2156]), ("3⁄5", [0x2157]), ("4⁄5", [0x2158]), ("1⁄6", [0x2159]), ("5⁄6",
   [0x215A]), ("1⁄8", [0x215B]), ("3⁄8", [0x215C]), ("5⁄8", [0x215D]), ("7⁄8", [0x215E]), ("1⁄",
   [0x215F]), ("ii", [0x2161, 0x2171]), ("iii", [0x2162, 0x2172]), ("iv", [0x2163, 0x2173]),
   ("vi", [0x2165, 0x2175]), ("vii", [0x2166, 0x2176]), ("viii", [0x2167, 0x2177]), ("ix",
   [0x2168, 0x2178]), ("xi", [0x216A, 0x217A]), ("xii", [0x216B, 0x217B]), ("0⁄3", [0x2189]),
   ("10", [0x2469]), ("11", [0x246A]), ("12", [0x246B]), ("13", [0x246C]), ("14", [0x246D]),
   ("15", [0x246E]), ("16", [0x246F]), ("17", [0x2470]), ("18", [0x2471]), ("19", [0x2472]),
   ("20", [0x2473]), ("(1)", [0x2474]), ("(2)", [0x2475]), ("(3)", [0x2476]), ("(4)", [0x2477]),
   ("(5)", [0x2478]), ("(6)", [0x2479]), ("(7)", [0x247A]), ("(8)", [0x247B]), ("(9)", [0x247C]),
   ("(10)", [0x247D]), ("(11)", [0x247E]), ("(12)", [0x247F]), ("(13)", [0x2480]), ("(14)",
   [0x2481]), ("(15)", [0x2482]), ("(16)", [0x2483]), ("(17)", [0x2484]), ("(18)", [0x2485]),
   ("(19)", [0x2486]), ("(20)", [0x2487]), ("(a)", [0x249C, 0x1F110]), ("(b)", [0x249D, 0x1F111]),
   ("(c)", [0x249E, 0x1F112]), ("(d)", [0x249F, 0x1F113]), ("(e)", [0x24A0, 0x1F114]), ("(f)",
   [0x24A1, 0x1F115]), ("(g)", [0x24A2, 0x1F116]), ("(h)", [0x24A3, 0x1F117]), ("(i)", [0x24A4,
   0x1F118]), ("(j)", [0x24A5, 0x1F119]), ("(k)", [0x24A6, 0x1F11A]), ("(l)", [0x24A7, 0x1F11B]),
   ("(m)", [0x24A8, 0x1F11C]), ("(n)", [0x24A9, 0x1F11D]), ("(o)", [0x24AA, 0x1F11E]), ("(p)",
   [0x24AB, 0x1F11F]), ("(q)", [0x24AC, 0x1F120]), ("(r)", [0x24AD, 0x1F121]), ("(s)", [0x24AE,
   0x1F122]), ("(t)", [0x24AF, 0x1F123]), ("(u)", [0x24B0, 0x1F124]), ("(v)", [0x24B1, 0x1F125]),
   ("(w)", [0x24B2, 0x1F126]), ("(x)", [0x24B3, 0x1F127]), ("(y)", [0x24B4, 0x1F128]), ("(z)",
   [0x24B5, 0x1F129]), ("::=", [0x2A74]), ("==", [0x2A75]), ("===", [0x2A76]), (".", [0x3002,
   0xFF61]), (" \u3099", [0x309B]), (" \u309a", [0x309C]), ("(ᄀ)", [0x3200]), ("(ᄂ)", [0x3201]),
   ("(ᄃ)", [0x3202]), ("(ᄅ)", [0x3203]), ("(ᄆ)", [0x3204]), ("(ᄇ)", [0x3205]), ("(ᄉ)", [0x3206]),
   ("(ᄋ)", [0x3207]), ("(ᄌ)", [0x3208]), ("(ᄎ)", [0x3209]), ("(ᄏ)", [0x320A]), ("(ᄐ)", [0x320B]),
   ("(ᄑ)", [0x320C]), ("(ᄒ)", [0x320D]), ("(가)", [0x320E]), ("(나)", [0x320F]), ("(다)", [0x3210]),
   ("(라)", [0x3211]), ("(마)", [0x3212]), ("(바)", [0x3213]), ("(사)", [0x3214]), ("(아)", [0x3215]),
   ("(자)", [0x3216]), ("(차)", [0x3217]), ("(카)", [0x3218]), ("(타)", [0x3219]), ("(파)", [0x321A]),
   ("(하)", [0x321B]), ("(주)", [0x321C]), ("(오전)", [0x321D]), ("(오후)", [0x321E]), ("(一)",
   [0x3220]), ("(二)", [0x3221]), ("(三)", [0x3222]), ("(四)", [0x3223]), ("(五)", [0x3224]), ("(六)",
   [0x3225]), ("(七)", [0x3226]), ("(八)", [0x3227]), ("(九)", [0x3228]), ("(十)", [0x3229]), ("(月)",
   [0x322A]), ("(火)", [0x322B]), ("(水)", [0x322C]), ("(木)", [0x322D]), ("(金)", [0x322E]), ("(土)",
   [0x322F]), ("(日)", [0x3230]), ("(株)", [0x3231]), ("(有)", [0x3232]), ("(社)", [0x3233]), ("(名)",
   [0x3234]), ("(特)", [0x3235]), ("(財)", [0x3236]), ("(祝)", [0x3237]), ("(労)", [0x3238]), ("(代)",
   [0x3239]), ("(呼)", [0x323A]), ("(学)", [0x323B]), ("(監)", [0x323C]), ("(企)", [0x323D]), ("(資)",
   [0x323E]), ("(協)", [0x323F]), ("(祭)", [0x3240]), ("(休)", [0x3241]), ("(自)", [0x3242]), ("(至)",
   [0x3243]), ("pte", [0x3250]), ("21", [0x3251]), ("22", [0x3252]), ("23", [0x3253]), ("24",
   [0x3254]), ("25", [0x3255]), ("26", [0x3256]), ("27", [0x3257]), ("28", [0x3258]), ("29",
   [0x3259]), ("30", [0x325A]), ("31", [0x325B]), ("32", [0x325C]), ("33", [0x325D]), ("34",
   [0x325E]), ("35", [0x325F]), ("36", [0x32B1]), ("37", [0x32B2]), ("38", [0x32B3]), ("39",
   [0x32B4]), ("40", [0x32B5]), ("41", [0x32B6]), ("42", [0x32B7]), ("43", [0x32B8]), ("44",
   [0x32B9]), ("45", [0x32BA]), ("46", [0x32BB]), ("47", [0x32BC]), ("48", [0x32BD]), ("49",
   [0x32BE]), ("50", [0x32BF]), ("1月", [0x32C0]), ("2月", [0x32C1]), ("3月", [0x32C2]), ("4月",
   [0x32C3]), ("5月", [0x32C4]), ("6月", [0x32C5]), ("7月", [0x32C6]), ("8月", [0x32C7]), ("9月",
   [0x32C8]), ("10月", [0x32C9]), ("11月", [0x32CA]), ("12月", [0x32CB]), ("hg", [0x32CC]), ("erg",
   [0x32CD]), ("ev", [0x32CE]), ("ltd", [0x32CF]), ("0点", [0x3358]), ("1点", [0x3359]), ("2点",
   [0x335A]), ("3点", [0x335B]), ("4点", [0x335C]), ("5点", [0x335D]), ("6点", [0x335E]), ("7点",
   [0x335F]), ("8点", [0x3360]), ("9点", [0x3361]), ("10点", [0x3362]), ("11点", [0x3363]), ("12点",
   [0x3364]), ("13点", [0x3365]), ("14点", [0x3366]), ("15点", [0x3367]), ("16点", [0x3368]), ("17点",
   [0x3369]), ("18点", [0x336A]), ("19点", [0x336B]), ("20点", [0x336C]), ("21点", [0x336D]), ("22点",
   [0x336E]), ("23点", [0x336F]), ("24点", [0x3370]), ("hpa", [0x3371]), ("da", [0x3372]), ("au",
   [0x3373]), ("bar", [0x3374]), ("ov", [0x3375]), ("pc", [0x3376]), ("dm", [0x3377]), ("dm2",
   [0x3378]), ("dm3", [0x3379]), ("iu", [0x337A]), ("pa", [0x3380, 0x33A9]), ("na", [0x3381]),
   ("μa", [0x3382]), ("ma", [0x3383]), ("ka", [0x3384]), ("kb", [0x3385]), ("mb", [0x3386,
   0x33D4]), ("gb", [0x3387]), ("cal", [0x3388]), ("kcal", [0x3389]), ("pf", [0x338A]), ("nf",
   [0x338B]), ("μf", [0x338C]), ("μg", [0x338D]), ("mg", [0x338E]), ("kg", [0x338F]), ("hz",
   [0x3390]), ("khz", [0x3391]), ("mhz", [0x3392]), ("ghz", [0x3393]), ("thz", [0x3394]), ("μl",
   [0x3395]), ("ml", [0x3396]), ("dl", [0x3397]), ("kl", [0x3398]), ("fm", [0x3399]), ("nm",
   [0x339A]), ("μm", [0x339B]), ("mm", [0x339C]), ("cm", [0x339D]), ("km", [0x339E, 0x33CE]),
   ("mm2", [0x339F]), ("cm2", [0x33A0]), ("m2", [0x33A1]), ("km2", [0x33A2]), ("mm3", [0x33A3]),
   ("cm3", [0x33A4]), ("m3", [0x33A5]), ("km3", [0x33A6]), ("m∕s", [0x33A7]), ("m∕s2", [0x33A8]),
   ("kpa", [0x33AA]), ("mpa", [0x33AB]), ("gpa", [0x33AC]), ("rad", [0x33AD]), ("rad∕s",
   [0x33AE]), ("rad∕s2", [0x33AF]), ("ps", [0x33B0]), ("ns", [0x33B1]), ("μs", [0x33B2]), ("ms",
   [0x33B3]), ("pv", [0x33B4]), ("nv", [0x33B5]), ("μv", [0x33B6]), ("mv", [0x33B7, 0x33B9,
   0x1F14B]), ("kv", [0x33B8]), ("pw", [0x33BA]), ("nw", [0x33BB]), ("μw", [0x33BC]), ("mw",
   [0x33BD, 0x33BF]), ("kw", [0x33BE]), ("kω", [0x33C0]), ("mω", [0x33C1]), ("bq", [0x33C3]),
   ("cc", [0x33C4]), ("cd", [0x33C5, 0x1F12D]), ("c∕kg", [0x33C6]), ("db", [0x33C8]), ("gy",
   [0x33C9]), ("ha", [0x33CA]), ("hp", [0x33CB]), ("in", [0x33CC]), ("kk", [0x33CD]), ("kt",
   [0x33CF]), ("lm", [0x33D0]), ("ln", [0x33D1]), ("log", [0x33D2]), ("lx", [0x33D3]), ("mil",
   [0x33D5]), ("mol", [0x33D6]), ("ph", [0x33D7]), ("ppm", [0x33D9]), ("pr", [0x33DA]), ("sr",
   [0x33DB]), ("sv", [0x33DC]), ("wb", [0x33DD]), ("v∕m", [0x33DE]), ("a∕m", [0x33DF]), ("1日",
   [0x33E0]), ("2日", [0x33E1]), ("3日", [0x33E2]), ("4日", [0x33E3]), ("5日", [0x33E4]), ("6日",
   [0x33E5]), ("7日", [0x33E6]), ("8日", [0x33E7]), ("9日", [0x33E8]), ("10日", [0x33E9]), ("11日",
   [0x33EA]), ("12日", [0x33EB]), ("13日", [0x33EC]), ("14日", [0x33ED]), ("15日", [0x33EE]), ("16日",
   [0x33EF]), ("17日", [0x33F0]), ("18日", [0x33F1]), ("19日", [0x33F2]), ("20日", [0x33F3]), ("21日",
   [0x33F4]), ("22日", [0x33F5]), ("23日", [0x33F6]), ("24日", [0x33F7]), ("25日", [0x33F8]), ("26日",
   [0x33F9]), ("27日", [0x33FA]), ("28日", [0x33FB]), ("29日", [0x33FC]), ("30日", [0x33FD]), ("31日",
   [0x33FE]), ("gal", [0x33FF]), ("ff", [0xFB00]), ("fi", [0xFB01]), ("fl", [0xFB02]), ("ffi",
   [0xFB03]), ("ffl", [0xFB04]), ("st", [0xFB05, 0xFB06]), (" \u064c\u0651", [0xFC5E]),
   (" \u064d\u0651", [0xFC5F]), (" \u064e\u0651", [0xFC60]), (" \u064f\u0651", [0xFC61]),
   (" \u0650\u0651", [0xFC62]), (" \u0651\u0670", [0xFC63]),
   ("\u0635\u0644\u0649 \u0627\u0644\u0644\u0647 \u0639\u0644\u064a\u0647 \u0648\u0633\u0644\u0645",
   [0xFDFA]), ("\u062c\u0644 \u062c\u0644\u0627\u0644\u0647", [0xFDFB]), (",", [0xFE10, 0xFE50]),
   (":", [0xFE13, 0xFE55]), ("!", [0xFE15, 0xFE57]), ("?", [0xFE16, 0xFE56]), ("_", [0xFE33,
   0xFE34, 0xFE4D, 0xFE4E, 0xFE4F]), ("\x7b", [0xFE37, 0xFE5B]), ("\x7d", [0xFE38, 0xFE5C]), ("[",
   [0xFE47]), ("]", [0xFE48]), ("#", [0xFE5F]), ("&", [0xFE60]), ("*", [0xFE61]), ("-", [0xFE63]),
   ("<", [0xFE64]), (">", [0xFE65]), ("\\", [0xFE68]), ("$", [0xFE69]), ("%", [0xFE6A]), ("@",
   [0xFE6B]), (" \u064b", [0xFE70]), (" \u064c", [0xFE72]), (" \u064d", [0xFE74]), (" \u064e",
   [0xFE76]), (" \u064f", [0xFE78]), (" \u0650", [0xFE7A]), (" \u0651", [0xFE7C]), (" \u0652",
   [0xFE7E]), ("\u3099", [0xFF9E]), ("\u309a", [0xFF9F]), ("0,", [0x1F101]), ("1,", [0x1F102]),
   ("2,", [0x1F103]), ("3,", [0x1F104]), ("4,", [0x1F105]), ("5,", [0x1F106]), ("6,", [0x1F107]),
   ("7,", [0x1F108]), ("8,", [0x1F109]), ("9,", [0x1F10A]), ("〔s〕", [0x1F12A]), ("wz", [0x1F12E]),
   ("hv", [0x1F14A]), ("sd", [0x1F14C]), ("ss", [0x1F14D]), ("ppv", [0x1F14E]), ("wc", [0x1F14F]),
   ("mc", [0x1F16A]), ("md", [0x1F16B]), ("mr", [0x1F16C]), ("dj", [0x1F190])]

/-- The characters that are changed in ways that do not matter here, letters of a case that
is not the lower one apart. -/
def changedRanges : List (Nat × Nat) :=
  [(0xB5, 0xB5), (0x2B1, 0x2B6), (0x2E0, 0x2E4), (0x340, 0x341), (0x343, 0x344), (0x374, 0x374),
   (0x387, 0x387), (0x3D0, 0x3D6), (0x3F0, 0x3F2), (0x3F5, 0x3F5), (0x587, 0x587), (0x675, 0x678),
   (0x958, 0x95F), (0x9DC, 0x9DF), (0xA33, 0xA33), (0xA36, 0xA36), (0xA59, 0xA5B), (0xA5E, 0xA5E),
   (0xB5C, 0xB5D), (0xEDC, 0xEDD), (0xF0C, 0xF0C), (0xF43, 0xF43), (0xF4D, 0xF4D), (0xF52, 0xF52),
   (0xF57, 0xF57), (0xF5C, 0xF5C), (0xF69, 0xF69), (0xF73, 0xF73), (0xF75, 0xF79), (0xF81, 0xF81),
   (0xF93, 0xF93), (0xF9D, 0xF9D), (0xFA2, 0xFA2), (0xFA7, 0xFA7), (0xFAC, 0xFAC), (0xFB9, 0xFB9),
   (0x10FC, 0x10FC), (0x13F8, 0x13FD), (0x1C80, 0x1C88), (0x1D2D, 0x1D2D), (0x1D32, 0x1D32),
   (0x1D3D, 0x1D4C), (0x1D51, 0x1D6A), (0x1D78, 0x1D78), (0x1D9B, 0x1DBF), (0x1E9B, 0x1E9B),
   (0x1F71, 0x1F71), (0x1F73, 0x1F73), (0x1F75, 0x1F75), (0x1F77, 0x1F77), (0x1F79, 0x1F79),
   (0x1F7B, 0x1F7B), (0x1F7D, 0x1FA7), (0x1FB2, 0x1FB4), (0x1FB7, 0x1FC4), (0x1FC7, 0x1FC7),
   (0x1FD3, 0x1FD3), (0x1FE3, 0x1FE3), (0x1FF2, 0x1FF4), (0x1FF7, 0x1FF7), (0x2011, 0x2011),
   (0x2033, 0x2034), (0x2036, 0x2037), (0x2057, 0x2057), (0x207B, 0x2094), (0x210F, 0x210F),
   (0x213C, 0x2140), (0x222C, 0x222D), (0x222F, 0x2230), (0x2329, 0x232A), (0x2A0C, 0x2A0C),
   (0x2ADC, 0x2ADC), (0x2D6F, 0x2D6F), (0x2E9F, 0x2E9F), (0x2EF3, 0x2FD5), (0x3036, 0x3036),
   (0x3038, 0x303A), (0x309F, 0x309F), (0x30FF, 0x30FF), (0x3131, 0x318E), (0x3192, 0x319F),
   (0x3244, 0x3247), (0x3260, 0x327E), (0x3280, 0x337F), (0xA69C, 0xA69D), (0xA770, 0xA770),
   (0xA7F8, 0xA7F9), (0xAB5C, 0xAB5F), (0xAB69, 0xAB69), (0xAB70, 0xABBF), (0xF900, 0xFA0D),
   (0xFA10, 0xFA10), (0xFA12, 0xFA12), (0xFA15, 0xFA1E), (0xFA20, 0xFA20), (0xFA22, 0xFA22),
   (0xFA25, 0xFA26), (0xFA2A, 0xFB1D), (0xFB1F, 0xFBB1), (0xFBD3, 0xFD3D), (0xFD50, 0xFD8F),
   (0xFD92, 0xFDC7), (0xFDF0, 0xFDFC), (0xFE11, 0xFE18), (0xFE31, 0xFE44), (0xFE51, 0xFE71),
   (0xFE77, 0xFFEE), (0x10781, 0x107BA), (0x1D15E, 0x1D164), (0x1D1BB, 0x1D1C0),
   (0x1D6A4, 0x1D7CB), (0x1E030, 0x1E06D), (0x1EE00, 0x1EEBB), (0x1F200, 0x1F251),
   (0x2F800, 0x2FA1D)]

/-- What a character is replaced by, if it is replaced. -/
def replacement? (c : Char) : Option (List Char) :=
  match runs.find? fun run => run.1 ≤ c.toNat && c.toNat ≤ run.2.1 with
  | some (first, _, target) => some [Char.ofNat (target.toNat + (c.toNat - first))]
  | none => (texts.find? fun entry => entry.2.contains c.toNat).map fun entry => entry.1.toList

/-- The capital letters of a script whose capitals are the usual ones. -/
def isUsualCapital (c : Char) : Bool :=
  0x13A0 ≤ c.toNat && c.toNat ≤ 0x13F5

/-- Whether a character never stays as it is. -/
def isChanged (c : Char) : Bool :=
  (replacement? c).isSome || inRanges changedRanges c.toNat ||
    match category c with
    | .lu | .lt => !isUsualCapital c
    | _ => false

end MemoStore.Host

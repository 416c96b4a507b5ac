import MemoStore.Text.Category

/-!
# Scripts

The script that a character is written in, by its four-letter code. The tables give the
code points from which a script goes on, in ascending order; a code point without a
character has no script. They are those of Unicode 16.
-/

namespace MemoStore.Text.Script

/-- The scripts, each by its code and its other names. -/
def names : List (List String) :=
  [["adlm", "adlam"], ["aghb", "caucasianalbanian"], ["ahom"], ["arab", "arabic"],
   ["armi", "imperialaramaic"], ["armn", "armenian"], ["avst", "avestan"], ["bali", "balinese"],
   ["bamu", "bamum"], ["bass", "bassavah"], ["batk", "batak"], ["beng", "bengali"],
   ["bhks", "bhaiksuki"], ["bopo", "bopomofo"], ["brah", "brahmi"], ["brai", "braille"],
   ["bugi", "buginese"], ["buhd", "buhid"], ["cakm", "chakma"], ["cans", "canadianaboriginal"],
   ["cari", "carian"], ["cham"], ["cher", "cherokee"], ["chrs", "chorasmian"],
   ["copt", "coptic", "qaac"], ["cpmn", "cyprominoan"], ["cprt", "cypriot"], ["cyrl", "cyrillic"],
   ["deva", "devanagari"], ["diak", "divesakuru"], ["dogr", "dogra"], ["dsrt", "deseret"],
   ["dupl", "duployan"], ["egyp", "egyptianhieroglyphs"], ["elba", "elbasan"], ["elym", "elymaic"],
   ["ethi", "ethiopic"], ["gara", "garay"], ["geor", "georgian"], ["glag", "glagolitic"],
   ["gong", "gunjalagondi"], ["gonm", "masaramgondi"], ["goth", "gothic"], ["gran", "grantha"],
   ["grek", "greek"], ["gujr", "gujarati"], ["gukh", "gurungkhema"], ["guru", "gurmukhi"],
   ["hang", "hangul"], ["hani", "han"], ["hano", "hanunoo"], ["hatr", "hatran"],
   ["hebr", "hebrew"], ["hira", "hiragana"], ["hluw", "anatolianhieroglyphs"],
   ["hmng", "pahawhhmong"], ["hmnp", "nyiakengpuachuehmong"], ["hung", "oldhungarian"],
   ["ital", "olditalic"], ["java", "javanese"], ["kali", "kayahli"], ["kana", "katakana"],
   ["kawi"], ["khar", "kharoshthi"], ["khmr", "khmer"], ["khoj", "khojki"],
   ["kits", "khitansmallscript"], ["knda", "kannada"], ["krai", "kiratrai"], ["kthi", "kaithi"],
   ["lana", "taitham"], ["laoo", "lao"], ["latn", "latin"], ["lepc", "lepcha"], ["limb", "limbu"],
   ["lina", "lineara"], ["linb", "linearb"], ["lisu"], ["lyci", "lycian"], ["lydi", "lydian"],
   ["mahj", "mahajani"], ["maka", "makasar"], ["mand", "mandaic"], ["mani", "manichaean"],
   ["marc", "marchen"], ["medf", "medefaidrin"], ["mend", "mendekikakui"],
   ["merc", "meroiticcursive"], ["mero", "meroitichieroglyphs"], ["mlym", "malayalam"], ["modi"],
   ["mong", "mongolian"], ["mroo", "mro"], ["mtei", "meeteimayek"], ["mult", "multani"],
   ["mymr", "myanmar"], ["nagm", "nagmundari"], ["nand", "nandinagari"],
   ["narb", "oldnortharabian"], ["nbat", "nabataean"], ["newa"], ["nkoo", "nko"],
   ["nshu", "nushu"], ["ogam", "ogham"], ["olck", "olchiki"], ["onao", "olonal"],
   ["orkh", "oldturkic"], ["orya", "oriya"], ["osge", "osage"], ["osma", "osmanya"],
   ["ougr", "olduyghur"], ["palm", "palmyrene"], ["pauc", "paucinhau"], ["perm", "oldpermic"],
   ["phag", "phagspa"], ["phli", "inscriptionalpahlavi"], ["phlp", "psalterpahlavi"],
   ["phnx", "phoenician"], ["plrd", "miao"], ["prti", "inscriptionalparthian"], ["rjng", "rejang"],
   ["rohg", "hanifirohingya"], ["runr", "runic"], ["samr", "samaritan"],
   ["sarb", "oldsoutharabian"], ["saur", "saurashtra"], ["sgnw", "signwriting"],
   ["shaw", "shavian"], ["shrd", "sharada"], ["sidd", "siddham"], ["sind", "khudawadi"],
   ["sinh", "sinhala"], ["sogd", "sogdian"], ["sogo", "oldsogdian"], ["sora", "sorasompeng"],
   ["soyo", "soyombo"], ["sund", "sundanese"], ["sunu", "sunuwar"], ["sylo", "sylotinagri"],
   ["syrc", "syriac"], ["tagb", "tagbanwa"], ["takr", "takri"], ["tale", "taile"],
   ["talu", "newtailue"], ["taml", "tamil"], ["tang", "tangut"], ["tavt", "taiviet"],
   ["telu", "telugu"], ["tfng", "tifinagh"], ["tglg", "tagalog"], ["thaa", "thaana"], ["thai"],
   ["tibt", "tibetan"], ["tirh", "tirhuta"], ["tnsa", "tangsa"], ["todr", "todhri"], ["toto"],
   ["tutg", "tulutigalari"], ["ugar", "ugaritic"], ["vaii", "vai"], ["vith", "vithkuqi"],
   ["wara", "warangciti"], ["wcho", "wancho"], ["xpeo", "oldpersian"], ["xsux", "cuneiform"],
   ["yezi", "yezidi"], ["yiii", "yi"], ["zanb", "zanabazarsquare"], ["zinh", "inherited", "qaai"],
   ["zyyy", "common"]]

/-- The scripts from 0x0 on up to 0x200B. -/
def firstScripts : List (Nat × String) :=
  [(0x0, "zyyy"), (0x41, "latn"), (0x5B, "zyyy"), (0x61, "latn"), (0x7B, "zyyy"), (0xAA, "latn"),
   (0xAB, "zyyy"), (0xBA, "latn"), (0xBB, "zyyy"), (0xC0, "latn"), (0xD7, "zyyy"), (0xD8, "latn"),
   (0xF7, "zyyy"), (0xF8, "latn"), (0x2B9, "zyyy"), (0x2E0, "latn"), (0x2E5, "zyyy"),
   (0x2EA, "bopo"), (0x2EC, "zyyy"), (0x300, "zinh"), (0x370, "grek"), (0x374, "zyyy"),
   (0x375, "grek"), (0x37E, "zyyy"), (0x37F, "grek"), (0x385, "zyyy"), (0x386, "grek"),
   (0x387, "zyyy"), (0x388, "grek"), (0x3E2, "copt"), (0x3F0, "grek"), (0x400, "cyrl"),
   (0x485, "zinh"), (0x487, "cyrl"), (0x531, "armn"), (0x591, "hebr"), (0x600, "arab"),
   (0x605, "zyyy"), (0x606, "arab"), (0x60C, "zyyy"), (0x60D, "arab"), (0x61B, "zyyy"),
   (0x61C, "arab"), (0x61F, "zyyy"), (0x620, "arab"), (0x640, "zyyy"), (0x641, "arab"),
   (0x64B, "zinh"), (0x656, "arab"), (0x670, "zinh"), (0x671, "arab"), (0x6DD, "zyyy"),
   (0x6DE, "arab"), (0x700, "syrc"), (0x750, "arab"), (0x780, "thaa"), (0x7C0, "nkoo"),
   (0x800, "samr"), (0x840, "mand"), (0x860, "syrc"), (0x870, "arab"), (0x8E2, "zyyy"),
   (0x8E3, "arab"), (0x900, "deva"), (0x951, "zinh"), (0x955, "deva"), (0x964, "zyyy"),
   (0x966, "deva"), (0x980, "beng"), (0xA01, "guru"), (0xA81, "gujr"), (0xB01, "orya"),
   (0xB82, "taml"), (0xC00, "telu"), (0xC80, "knda"), (0xD00, "mlym"), (0xD81, "sinh"),
   (0xE01, "thai"), (0xE3F, "zyyy"), (0xE40, "thai"), (0xE81, "laoo"), (0xF00, "tibt"),
   (0xFD5, "zyyy"), (0xFD9, "tibt"), (0x1000, "mymr"), (0x10A0, "geor"), (0x10FB, "zyyy"),
   (0x10FC, "geor"), (0x1100, "hang"), (0x1200, "ethi"), (0x13A0, "cher"), (0x1400, "cans"),
   (0x1680, "ogam"), (0x16A0, "runr"), (0x16EB, "zyyy"), (0x16EE, "runr"), (0x1700, "tglg"),
   (0x1720, "hano"), (0x1735, "zyyy"), (0x1740, "buhd"), (0x1760, "tagb"), (0x1780, "khmr"),
   (0x1800, "mong"), (0x1802, "zyyy"), (0x1804, "mong"), (0x1805, "zyyy"), (0x1806, "mong"),
   (0x18B0, "cans"), (0x1900, "limb"), (0x1950, "tale"), (0x1980, "talu"), (0x19E0, "khmr"),
   (0x1A00, "bugi"), (0x1A20, "lana"), (0x1AB0, "zinh"), (0x1B00, "bali"), (0x1B80, "sund"),
   (0x1BC0, "batk"), (0x1C00, "lepc"), (0x1C50, "olck"), (0x1C80, "cyrl"), (0x1C90, "geor"),
   (0x1CC0, "sund"), (0x1CD0, "zinh"), (0x1CD3, "zyyy"), (0x1CD4, "zinh"), (0x1CE1, "zyyy"),
   (0x1CE2, "zinh"), (0x1CE9, "zyyy"), (0x1CED, "zinh"), (0x1CEE, "zyyy"), (0x1CF4, "zinh"),
   (0x1CF5, "zyyy"), (0x1CF8, "zinh"), (0x1CFA, "zyyy"), (0x1D00, "latn"), (0x1D26, "grek"),
   (0x1D2B, "cyrl"), (0x1D2C, "latn"), (0x1D5D, "grek"), (0x1D62, "latn"), (0x1D66, "grek"),
   (0x1D6B, "latn"), (0x1D78, "cyrl"), (0x1D79, "latn"), (0x1DBF, "grek"), (0x1DC0, "zinh"),
   (0x1E00, "latn"), (0x1F00, "grek"), (0x2000, "zyyy")]

/-- The scripts from 0x200C on up to 0x1056F. -/
def secondScripts : List (Nat × String) :=
  [(0x200C, "zinh"), (0x200E, "zyyy"), (0x2071, "latn"), (0x2074, "zyyy"), (0x207F, "latn"),
   (0x2080, "zyyy"), (0x2090, "latn"), (0x20A0, "zyyy"), (0x20D0, "zinh"), (0x2100, "zyyy"),
   (0x2126, "grek"), (0x2127, "zyyy"), (0x212A, "latn"), (0x212C, "zyyy"), (0x2132, "latn"),
   (0x2133, "zyyy"), (0x214E, "latn"), (0x214F, "zyyy"), (0x2160, "latn"), (0x2189, "zyyy"),
   (0x2800, "brai"), (0x2900, "zyyy"), (0x2C00, "glag"), (0x2C60, "latn"), (0x2C80, "copt"),
   (0x2D00, "geor"), (0x2D30, "tfng"), (0x2D80, "ethi"), (0x2DE0, "cyrl"), (0x2E00, "zyyy"),
   (0x2E80, "hani"), (0x2FF0, "zyyy"), (0x3005, "hani"), (0x3006, "zyyy"), (0x3007, "hani"),
   (0x3008, "zyyy"), (0x3021, "hani"), (0x302A, "zinh"), (0x302E, "hang"), (0x3030, "zyyy"),
   (0x3038, "hani"), (0x303C, "zyyy"), (0x3041, "hira"), (0x3099, "zinh"), (0x309B, "zyyy"),
   (0x309D, "hira"), (0x30A0, "zyyy"), (0x30A1, "kana"), (0x30FB, "zyyy"), (0x30FD, "kana"),
   (0x3105, "bopo"), (0x3131, "hang"), (0x3190, "zyyy"), (0x31A0, "bopo"), (0x31C0, "zyyy"),
   (0x31F0, "kana"), (0x3200, "hang"), (0x3220, "zyyy"), (0x3260, "hang"), (0x327F, "zyyy"),
   (0x32D0, "kana"), (0x32FF, "zyyy"), (0x3300, "kana"), (0x3358, "zyyy"), (0x3400, "hani"),
   (0x4DC0, "zyyy"), (0x4E00, "hani"), (0xA000, "yiii"), (0xA4D0, "lisu"), (0xA500, "vaii"),
   (0xA640, "cyrl"), (0xA6A0, "bamu"), (0xA700, "zyyy"), (0xA722, "latn"), (0xA788, "zyyy"),
   (0xA78B, "latn"), (0xA800, "sylo"), (0xA830, "zyyy"), (0xA840, "phag"), (0xA880, "saur"),
   (0xA8E0, "deva"), (0xA900, "kali"), (0xA92E, "zyyy"), (0xA92F, "kali"), (0xA930, "rjng"),
   (0xA960, "hang"), (0xA980, "java"), (0xA9CF, "zyyy"), (0xA9D0, "java"), (0xA9E0, "mymr"),
   (0xAA00, "cham"), (0xAA60, "mymr"), (0xAA80, "tavt"), (0xAAE0, "mtei"), (0xAB01, "ethi"),
   (0xAB30, "latn"), (0xAB5B, "zyyy"), (0xAB5C, "latn"), (0xAB65, "grek"), (0xAB66, "latn"),
   (0xAB6A, "zyyy"), (0xAB70, "cher"), (0xABC0, "mtei"), (0xAC00, "hang"), (0xF900, "hani"),
   (0xFB00, "latn"), (0xFB13, "armn"), (0xFB1D, "hebr"), (0xFB50, "arab"), (0xFD3E, "zyyy"),
   (0xFD40, "arab"), (0xFE00, "zinh"), (0xFE10, "zyyy"), (0xFE20, "zinh"), (0xFE2E, "cyrl"),
   (0xFE30, "zyyy"), (0xFE70, "arab"), (0xFEFF, "zyyy"), (0xFF21, "latn"), (0xFF3B, "zyyy"),
   (0xFF41, "latn"), (0xFF5B, "zyyy"), (0xFF66, "kana"), (0xFF70, "zyyy"), (0xFF71, "kana"),
   (0xFF9E, "zyyy"), (0xFFA0, "hang"), (0xFFE0, "zyyy"), (0x10000, "linb"), (0x10100, "zyyy"),
   (0x10140, "grek"), (0x10190, "zyyy"), (0x101A0, "grek"), (0x101D0, "zyyy"), (0x101FD, "zinh"),
   (0x10280, "lyci"), (0x102A0, "cari"), (0x102E0, "zinh"), (0x102E1, "zyyy"), (0x10300, "ital"),
   (0x10330, "goth"), (0x10350, "perm"), (0x10380, "ugar"), (0x103A0, "xpeo"), (0x10400, "dsrt"),
   (0x10450, "shaw"), (0x10480, "osma"), (0x104B0, "osge"), (0x10500, "elba"), (0x10530, "aghb")]

/-- The scripts from 0x10570 on. -/
def thirdScripts : List (Nat × String) :=
  [(0x10570, "vith"), (0x105C0, "todr"), (0x10600, "lina"), (0x10780, "latn"), (0x10800, "cprt"),
   (0x10840, "armi"), (0x10860, "palm"), (0x10880, "nbat"), (0x108E0, "hatr"), (0x10900, "phnx"),
   (0x10920, "lydi"), (0x10980, "mero"), (0x109A0, "merc"), (0x10A00, "khar"), (0x10A60, "sarb"),
   (0x10A80, "narb"), (0x10AC0, "mani"), (0x10B00, "avst"), (0x10B40, "prti"), (0x10B60, "phli"),
   (0x10B80, "phlp"), (0x10C00, "orkh"), (0x10C80, "hung"), (0x10D00, "rohg"), (0x10D40, "gara"),
   (0x10E60, "arab"), (0x10E80, "yezi"), (0x10EC2, "arab"), (0x10F00, "sogo"), (0x10F30, "sogd"),
   (0x10F70, "ougr"), (0x10FB0, "chrs"), (0x10FE0, "elym"), (0x11000, "brah"), (0x11080, "kthi"),
   (0x110D0, "sora"), (0x11100, "cakm"), (0x11150, "mahj"), (0x11180, "shrd"), (0x111E1, "sinh"),
   (0x11200, "khoj"), (0x11280, "mult"), (0x112B0, "sind"), (0x11300, "gran"), (0x1133B, "zinh"),
   (0x1133C, "gran"), (0x11380, "tutg"), (0x11400, "newa"), (0x11480, "tirh"), (0x11580, "sidd"),
   (0x11600, "modi"), (0x11660, "mong"), (0x11680, "takr"), (0x116D0, "mymr"), (0x11700, "ahom"),
   (0x11800, "dogr"), (0x118A0, "wara"), (0x11900, "diak"), (0x119A0, "nand"), (0x11A00, "zanb"),
   (0x11A50, "soyo"), (0x11AB0, "cans"), (0x11AC0, "pauc"), (0x11B00, "deva"), (0x11BC0, "sunu"),
   (0x11C00, "bhks"), (0x11C70, "marc"), (0x11D00, "gonm"), (0x11D60, "gong"), (0x11EE0, "maka"),
   (0x11F00, "kawi"), (0x11FB0, "lisu"), (0x11FC0, "taml"), (0x12000, "xsux"), (0x12F90, "cpmn"),
   (0x13000, "egyp"), (0x14400, "hluw"), (0x16100, "gukh"), (0x16800, "bamu"), (0x16A40, "mroo"),
   (0x16A70, "tnsa"), (0x16AD0, "bass"), (0x16B00, "hmng"), (0x16D40, "krai"), (0x16E40, "medf"),
   (0x16F00, "plrd"), (0x16FE0, "tang"), (0x16FE1, "nshu"), (0x16FE2, "hani"), (0x16FE4, "kits"),
   (0x16FF0, "hani"), (0x17000, "tang"), (0x18B00, "kits"), (0x18D00, "tang"), (0x1AFF0, "kana"),
   (0x1B001, "hira"), (0x1B120, "kana"), (0x1B132, "hira"), (0x1B155, "kana"), (0x1B170, "nshu"),
   (0x1BC00, "dupl"), (0x1BCA0, "zyyy"), (0x1CF00, "zinh"), (0x1CF50, "zyyy"), (0x1D167, "zinh"),
   (0x1D16A, "zyyy"), (0x1D17B, "zinh"), (0x1D183, "zyyy"), (0x1D185, "zinh"), (0x1D18C, "zyyy"),
   (0x1D1AA, "zinh"), (0x1D1AE, "zyyy"), (0x1D200, "grek"), (0x1D2C0, "zyyy"), (0x1D800, "sgnw"),
   (0x1DF00, "latn"), (0x1E000, "glag"), (0x1E030, "cyrl"), (0x1E100, "hmnp"), (0x1E290, "toto"),
   (0x1E2C0, "wcho"), (0x1E4D0, "nagm"), (0x1E5D0, "onao"), (0x1E7E0, "ethi"), (0x1E800, "mend"),
   (0x1E900, "adlm"), (0x1EC71, "zyyy"), (0x1EE00, "arab"), (0x1F000, "zyyy"), (0x1F200, "hira"),
   (0x1F201, "zyyy"), (0x20000, "hani"), (0xE0001, "zyyy"), (0xE0100, "zinh")]

/-- The script that stands last in a table before a code point or at it. -/
def after (found : Option String) (code : Nat) : List (Nat × String) → Option String
  | [] => found
  | (start, script) :: rest => if code < start then found else after (some script) code rest

/-- The table for a code point. -/
def scriptsFor (code : Nat) : List (Nat × String) :=
  if code < 0x200C then firstScripts
  else if code < 0x10570 then secondScripts
  else thirdScripts

/-- The script of a character. -/
def of (c : Char) : Option String :=
  if formerCategory c = .cn then none else after none c.toNat (scriptsFor c.toNat)

/-- The code of the script that has a name. -/
def find? (name : String) : Option String :=
  (names.find? (·.contains name)).bind List.head?

end MemoStore.Text.Script

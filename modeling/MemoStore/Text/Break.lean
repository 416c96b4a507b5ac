import MemoStore.Text.Property

/-!
# Breaks in text

The classes of characters that decide where a text can be parted into what is seen as one
character, into words and into sentences. Classes that no short list of ranges describes
follow the categories, and all syllables count as closed ones.
-/

namespace MemoStore.Text.Break

/-- The classes that part a text into characters as they are seen. -/
def clusters : List Property :=
  [⟨["control", "cn"],
     [(0x0, 0x9), (0xB, 0xC), (0xE, 0x1F), (0x7F, 0x9F), (0xAD, 0xAD), (0x61C, 0x61C),
      (0x180E, 0x180E), (0x200B, 0x200B), (0x200E, 0x200F), (0x2028, 0x202E), (0x2060, 0x206F),
      (0xFEFF, 0xFEFF), (0xFFF0, 0xFFFB), (0x13430, 0x1343F), (0x1BCA0, 0x1BCA3),
      (0x1D173, 0x1D17A), (0xE0000, 0xE001F), (0xE0080, 0xE00FF), (0xE01F0, 0xE0FFF)],
     []⟩,
   ⟨["cr"], [(0xD, 0xD)], []⟩,
   ⟨["extend", "ex"], [], [.mn, .me, .cf]⟩,
   ⟨["l"], [(0x1100, 0x115F), (0xA960, 0xA97C)], []⟩,
   ⟨["lf"], [(0xA, 0xA)], []⟩,
   ⟨["lv"], [], []⟩,
   ⟨["lvt"], [(0xAC00, 0xD7A3)], []⟩,
   ⟨["prepend", "pp"],
     [(0x600, 0x605), (0x6DD, 0x6DD), (0x70F, 0x70F), (0x890, 0x891), (0x8E2, 0x8E2),
      (0xD4E, 0xD4E), (0x110BD, 0x110BD), (0x110CD, 0x110CD), (0x111C2, 0x111C3),
      (0x1193F, 0x1193F), (0x11941, 0x11941), (0x11A3A, 0x11A3A), (0x11A84, 0x11A89),
      (0x11D46, 0x11D46), (0x11F02, 0x11F02)],
     []⟩,
   ⟨["regionalindicator", "ri"], [(0x1F1E6, 0x1F1FF)], []⟩,
   ⟨["spacingmark", "sm"], [], [.mc]⟩,
   ⟨["t"], [(0x11A8, 0x11FF), (0xD7CB, 0xD7FB)], []⟩,
   ⟨["v"], [(0x1160, 0x11A7), (0xD7B0, 0xD7C6)], []⟩,
   ⟨["zwj"], [(0x200D, 0x200D)], []⟩]

/-- The classes that part a text into words. -/
def words : List Property :=
  [⟨["cr"], [(0xD, 0xD)], []⟩,
   ⟨["doublequote", "dq"], [(0x22, 0x22)], []⟩,
   ⟨["extendnumlet", "ex"],
     [(0x5F, 0x5F), (0x202F, 0x202F), (0x203F, 0x2040), (0x2054, 0x2054), (0xFE33, 0xFE34),
      (0xFE4D, 0xFE4F), (0xFF3F, 0xFF3F)],
     []⟩,
   ⟨["extend"], [], [.mn, .mc, .me, .cf]⟩,
   ⟨["format", "fo"],
     [(0xAD, 0xAD), (0x600, 0x605), (0x61C, 0x61C), (0x6DD, 0x6DD), (0x70F, 0x70F), (0x890, 0x891),
      (0x8E2, 0x8E2), (0x180E, 0x180E), (0x200E, 0x200F), (0x202A, 0x202E), (0x2060, 0x2064),
      (0x2066, 0x206F), (0xFEFF, 0xFEFF), (0xFFF9, 0xFFFB), (0x110BD, 0x110BD), (0x110CD, 0x110CD),
      (0x13430, 0x1343F), (0x1BCA0, 0x1BCA3), (0x1D173, 0x1D17A), (0xE0001, 0xE0001)],
     []⟩,
   ⟨["hebrewletter", "hl"],
     [(0x5D0, 0x5EA), (0x5EF, 0x5F2), (0xFB1D, 0xFB1D), (0xFB1F, 0xFB28), (0xFB2A, 0xFB36),
      (0xFB38, 0xFB3C), (0xFB3E, 0xFB3E), (0xFB40, 0xFB41), (0xFB43, 0xFB44), (0xFB46, 0xFB4F)],
     []⟩,
   ⟨["katakana", "ka"],
     [(0x3031, 0x3035), (0x309B, 0x309C), (0x30A0, 0x30FA), (0x30FC, 0x30FF), (0x31F0, 0x31FF),
      (0x32D0, 0x32FE), (0x3300, 0x3357), (0xFF66, 0xFF9D), (0x1AFF0, 0x1AFF3), (0x1AFF5, 0x1AFFB),
      (0x1AFFD, 0x1AFFE), (0x1B000, 0x1B000), (0x1B120, 0x1B122), (0x1B155, 0x1B155),
      (0x1B164, 0x1B167)],
     []⟩,
   ⟨["aletter", "le"], [(0xAA, 0xAA), (0xBA, 0xBA)], [.lu, .ll, .lt, .lm, .nl]⟩,
   ⟨["lf"], [(0xA, 0xA)], []⟩,
   ⟨["midnumlet", "mb"],
     [(0x2E, 0x2E), (0x2018, 0x2019), (0x2024, 0x2024), (0xFE52, 0xFE52), (0xFF07, 0xFF07),
      (0xFF0E, 0xFF0E)],
     []⟩,
   ⟨["midletter", "ml"],
     [(0x3A, 0x3A), (0xB7, 0xB7), (0x387, 0x387), (0x55F, 0x55F), (0x5F4, 0x5F4), (0x2027, 0x2027),
      (0xFE13, 0xFE13), (0xFE55, 0xFE55), (0xFF1A, 0xFF1A)],
     []⟩,
   ⟨["midnum", "mn"],
     [(0x2C, 0x2C), (0x3B, 0x3B), (0x37E, 0x37E), (0x589, 0x589), (0x60C, 0x60D), (0x66C, 0x66C),
      (0x7F8, 0x7F8), (0x2044, 0x2044), (0xFE10, 0xFE10), (0xFE14, 0xFE14), (0xFE50, 0xFE50),
      (0xFE54, 0xFE54), (0xFF0C, 0xFF0C), (0xFF1B, 0xFF1B)],
     []⟩,
   ⟨["newline", "nl"], [(0xB, 0xC), (0x85, 0x85), (0x2028, 0x2029)], []⟩,
   ⟨["numeric", "nu"], [], [.nd]⟩,
   ⟨["regionalindicator", "ri"], [(0x1F1E6, 0x1F1FF)], []⟩,
   ⟨["singlequote", "sq"], [(0x27, 0x27)], []⟩,
   ⟨["wsegspace"],
     [(0x20, 0x20), (0x1680, 0x1680), (0x2000, 0x2006), (0x2008, 0x200A), (0x205F, 0x205F),
      (0x3000, 0x3000)],
     []⟩,
   ⟨["zwj"], [(0x200D, 0x200D)], []⟩]

/-- The classes that part a text into sentences. -/
def sentences : List Property :=
  [⟨["aterm", "at"], [(0x2E, 0x2E), (0x2024, 0x2024), (0xFE52, 0xFE52), (0xFF0E, 0xFF0E)], []⟩,
   ⟨["close", "cl"],
     [(0x22, 0x22), (0x27, 0x29), (0x5B, 0x5B), (0x5D, 0x5D), (0x7B, 0x7B), (0x7D, 0x7D),
      (0xAB, 0xAB), (0xBB, 0xBB), (0xF3A, 0xF3D), (0x169B, 0x169C), (0x2018, 0x201F),
      (0x2039, 0x203A), (0x2045, 0x2046), (0x207D, 0x207E), (0x208D, 0x208E), (0x2308, 0x230B),
      (0x2329, 0x232A), (0x275B, 0x2760), (0x2768, 0x2775), (0x27C5, 0x27C6), (0x27E6, 0x27EF),
      (0x2983, 0x2998), (0x29D8, 0x29DB), (0x29FC, 0x29FD), (0x2E00, 0x2E0D), (0x2E1C, 0x2E1D),
      (0x2E20, 0x2E29), (0x2E42, 0x2E42), (0x2E55, 0x2E5C), (0x3008, 0x3011), (0x3014, 0x301B),
      (0x301D, 0x301F), (0xFD3E, 0xFD3F), (0xFE17, 0xFE18), (0xFE35, 0xFE44), (0xFE47, 0xFE48),
      (0xFE59, 0xFE5E), (0xFF08, 0xFF09), (0xFF3B, 0xFF3B), (0xFF3D, 0xFF3D), (0xFF5B, 0xFF5B),
      (0xFF5D, 0xFF5D), (0xFF5F, 0xFF60), (0xFF62, 0xFF63), (0x1F676, 0x1F678)],
     []⟩,
   ⟨["cr"], [(0xD, 0xD)], []⟩,
   ⟨["extend", "ex"], [], [.mn, .mc, .me, .cf]⟩,
   ⟨["format", "fo"],
     [(0xAD, 0xAD), (0x600, 0x605), (0x61C, 0x61C), (0x6DD, 0x6DD), (0x70F, 0x70F), (0x890, 0x891),
      (0x8E2, 0x8E2), (0x180E, 0x180E), (0x200B, 0x200B), (0x200E, 0x200F), (0x202A, 0x202E),
      (0x2060, 0x2064), (0x2066, 0x206F), (0xFEFF, 0xFEFF), (0xFFF9, 0xFFFB), (0x110BD, 0x110BD),
      (0x110CD, 0x110CD), (0x13430, 0x1343F), (0x1BCA0, 0x1BCA3), (0x1D173, 0x1D17A),
      (0xE0001, 0xE0001)],
     []⟩,
   ⟨["oletter", "le"], [], [.lo, .nl]⟩,
   ⟨["lf"], [(0xA, 0xA)], []⟩,
   ⟨["lower", "lo"], [(0xAA, 0xAA), (0xBA, 0xBA)], [.ll, .lm]⟩,
   ⟨["numeric", "nu"], [], [.nd]⟩,
   ⟨["scontinue", "sc"],
     [(0x2C, 0x2D), (0x3A, 0x3A), (0x55D, 0x55D), (0x60C, 0x60D), (0x7F8, 0x7F8), (0x1802, 0x1802),
      (0x1808, 0x1808), (0x2013, 0x2014), (0x3001, 0x3001), (0xFE10, 0xFE11), (0xFE13, 0xFE13),
      (0xFE31, 0xFE32), (0xFE50, 0xFE51), (0xFE55, 0xFE55), (0xFE58, 0xFE58), (0xFE63, 0xFE63),
      (0xFF0C, 0xFF0D), (0xFF1A, 0xFF1A), (0xFF64, 0xFF64)],
     []⟩,
   ⟨["sep", "se"], [(0x85, 0x85), (0x2028, 0x2029)], []⟩,
   ⟨["sp"],
     [(0x9, 0x9), (0xB, 0xC), (0x20, 0x20), (0xA0, 0xA0), (0x1680, 0x1680), (0x2000, 0x200A),
      (0x202F, 0x202F), (0x205F, 0x205F), (0x3000, 0x3000)],
     []⟩,
   ⟨["sterm", "st"], [(0x21, 0x21), (0x3F, 0x3F)], []⟩,
   ⟨["upper", "up"], [], [.lu, .lt]⟩]

end MemoStore.Text.Break

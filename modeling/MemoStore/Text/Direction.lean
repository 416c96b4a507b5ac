import MemoStore.Text.Category

/-!
# Directions of writing

The way in which the characters of a host name follow each other in writing. Most letters
run to the right, those of some scripts to the left, and signs and blanks run with what
is around them. The class follows from the category but for the ranges that are listed;
characters that no host name can have are classed at will.
-/

namespace MemoStore.Text

/-- The ways in which a character is written. -/
inductive Direction where
  /-- to the right -/
  | right
  /-- to the left -/
  | left
  /-- digits that run to the right everywhere -/
  | digit
  /-- digits of scripts that run to the left -/
  | leftDigit
  /-- with what is around it -/
  | neutral
  /-- on the character before it -/
  | mark
  deriving DecidableEq, Repr

namespace Direction

/-- The blocks of scripts that run to the left. -/
def leftBlocks : List (Nat × Nat) :=
  [(0x590, 0x8FF), (0xFB1D, 0xFDFF), (0xFE70, 0xFEFF), (0x10800, 0x10FFF), (0x1E800, 0x1EFFF)]

/-- Signs that run to the right like letters. -/
def rightRanges : List (Nat × Nat) :=
  [(0x482, 0x482), (0x55A, 0x55F), (0x589, 0x589), (0x964, 0x965), (0x970, 0x970), (0x9FA, 0x9FA),
   (0x9FD, 0x9FD), (0xA76, 0xA76), (0xAF0, 0xAF0), (0xB70, 0xB70), (0xC77, 0xC77), (0xC7F, 0xC7F),
   (0xC84, 0xC84), (0xCBF, 0xCBF), (0xCC6, 0xCC6), (0xD4F, 0xD4F), (0xD79, 0xD79), (0xDF4, 0xDF4),
   (0xE4F, 0xE4F), (0xE5A, 0xE5B), (0xF01, 0xF17), (0xF1A, 0xF1F), (0xF34, 0xF34), (0xF36, 0xF36),
   (0xF38, 0xF38), (0xF85, 0xF85), (0xFBE, 0xFC5), (0xFC7, 0xFDA), (0x104A, 0x104F),
   (0x109E, 0x109F), (0x10FB, 0x10FB), (0x1360, 0x1368), (0x166D, 0x166E), (0x16EB, 0x16ED),
   (0x1735, 0x1736), (0x17D4, 0x17D6), (0x17D8, 0x17DA), (0x1A1E, 0x1A1F), (0x1AA0, 0x1AA6),
   (0x1AA8, 0x1AAD), (0x1B4E, 0x1B4F), (0x1B5A, 0x1B6A), (0x1B74, 0x1B7F), (0x1BFC, 0x1BFF),
   (0x1C3B, 0x1C3F), (0x1C7E, 0x1C7F), (0x1CC0, 0x1CC7), (0x1CD3, 0x1CD3), (0x214F, 0x214F),
   (0x2336, 0x237A), (0x2395, 0x2395), (0x26AC, 0x26AC), (0x2800, 0x28FF), (0x2D70, 0x2D70),
   (0x2E9F, 0x2E9F), (0x2EF3, 0x2FD5), (0x3190, 0x3191), (0x3196, 0x319F), (0x3244, 0x3247),
   (0x3260, 0x327F), (0x328A, 0x337F), (0xA4FE, 0xA4FF), (0xA6F2, 0xA6F7), (0xA789, 0xA78A),
   (0xA836, 0xA837), (0xA8CE, 0xA8CF), (0xA8F8, 0xA8FA), (0xA8FC, 0xA8FC), (0xA92E, 0xA92F),
   (0xA95F, 0xA95F), (0xA9C1, 0xA9CD), (0xA9DE, 0xA9DF), (0xAA5C, 0xAA5F), (0xAA77, 0xAA79),
   (0xAADE, 0xAADF), (0xAAF0, 0xAAF1), (0xAB5B, 0xAB5B), (0xABEB, 0xABEB), (0x10100, 0x10100),
   (0x10102, 0x10102), (0x10137, 0x1013F), (0x1018D, 0x1018E), (0x101D0, 0x101FC),
   (0x1039F, 0x1039F), (0x103D0, 0x103D0), (0x1056F, 0x1056F), (0x11047, 0x1104D),
   (0x110BB, 0x110C1), (0x11140, 0x11143), (0x11174, 0x11175), (0x111C5, 0x111C8),
   (0x111CD, 0x111CD), (0x111DB, 0x111DB), (0x111DD, 0x111DF), (0x11238, 0x1123D),
   (0x112A9, 0x112A9), (0x113D4, 0x113D8), (0x1144B, 0x1144F), (0x1145A, 0x1145D),
   (0x114C6, 0x114C6), (0x115C1, 0x115D7), (0x11641, 0x11643), (0x116B9, 0x116B9),
   (0x1173C, 0x1173F), (0x1183B, 0x1183B), (0x11944, 0x11946), (0x119E2, 0x119E2),
   (0x11A07, 0x11A08), (0x11A3F, 0x11A46), (0x11A9A, 0x11A9C), (0x11A9E, 0x11AA2),
   (0x11B00, 0x11B09), (0x11BE1, 0x11BE1), (0x11C3F, 0x11C3F), (0x11C41, 0x11C45),
   (0x11C70, 0x11C71), (0x11EF7, 0x11EF8), (0x11F43, 0x11F4F), (0x11FFF, 0x11FFF),
   (0x12470, 0x12474), (0x12FF1, 0x12FF2), (0x16A6E, 0x16A6F), (0x16AF5, 0x16AF5),
   (0x16B37, 0x16B3F), (0x16B44, 0x16B45), (0x16D6D, 0x16D6F), (0x16E97, 0x16E9A),
   (0x1BC9C, 0x1BC9C), (0x1BC9F, 0x1BC9F), (0x1CF50, 0x1D164), (0x1D16A, 0x1D16C),
   (0x1D183, 0x1D184), (0x1D18C, 0x1D1A9), (0x1D1AE, 0x1D1E8), (0x1D800, 0x1D9FF),
   (0x1DA37, 0x1DA3A), (0x1DA6D, 0x1DA74), (0x1DA76, 0x1DA83), (0x1DA85, 0x1DA8B),
   (0x1E14F, 0x1E14F), (0x1E5FF, 0x1E5FF), (0x1F150, 0x1F169), (0x1F170, 0x1F1AC),
   (0x1F1E6, 0x1F23B), (0x1F250, 0x1F251)]

/-- The digits of scripts that run to the left. -/
def leftDigitRanges : List (Nat × Nat) :=
  [(0x660, 0x669), (0x66B, 0x66C), (0x10D30, 0x10D49), (0x10E60, 0x10E7E)]

/-- The digits that run to the right everywhere. -/
def digitRanges : List (Nat × Nat) :=
  [(0x6F0, 0x6F9), (0x102E1, 0x102FB)]

/-- Letters and signs that run with what is around them. -/
def neutralRanges : List (Nat × Nat) :=
  [(0x2B9, 0x2BA), (0x2C6, 0x2CF), (0x2EC, 0x2EC), (0x374, 0x374), (0x606, 0x607), (0x609, 0x60A),
   (0x60C, 0x60C), (0x60E, 0x60F), (0x66A, 0x66A), (0x6DE, 0x6DE), (0x6E9, 0x6E9), (0x7F6, 0x7F9),
   (0xC78, 0xC7E), (0x17F0, 0x17F9), (0x200C, 0x200D), (0x24EB, 0x24FF), (0x2776, 0x2793),
   (0x2CFD, 0x2CFD), (0x2E2F, 0x2E2F), (0xA67F, 0xA67F), (0xA717, 0xA71F), (0xA788, 0xA788),
   (0xFBC3, 0xFBD2), (0xFD3E, 0xFD4F), (0xFD90, 0xFD91), (0xFDC8, 0xFDCF), (0xFDFD, 0xFDFF),
   (0x10140, 0x10178), (0x1018A, 0x1018B), (0x1091F, 0x1091F), (0x10B39, 0x10B3F),
   (0x10D6E, 0x10D6E), (0x10D8E, 0x10D8F), (0x10ED1, 0x10ED8), (0x11052, 0x11065),
   (0x1EEF0, 0x1EEF1), (0x1F10B, 0x1F10C)]

/-- Letters that are written on the character before them. -/
def markRanges : List (Nat × Nat) :=
  [(0x1171E, 0x1171E)]

/-- The class of an ASCII character. -/
def ofAscii (c : Char) : Direction :=
  if c.isAlpha then .right else if c.isDigit then .digit else .neutral

/-- The class of a character by its category. -/
def ofCategory (c : Char) : Direction :=
  match category c with
  | .mn | .me => .mark
  | .pc | .pd | .ps | .pe | .pi | .pf | .po | .sm | .sc | .sk | .so =>
    if inRanges leftBlocks c.toNat then .left else .neutral
  | _ => if inRanges leftBlocks c.toNat then .left else .right

/-- The class of a character. -/
def of (c : Char) : Direction :=
  let code := c.toNat
  if code < 128 then ofAscii c
  else if inRanges rightRanges code then .right
  else if inRanges leftDigitRanges code then .leftDigit
  else if inRanges digitRanges code then .digit
  else if inRanges neutralRanges code then .neutral
  else if inRanges markRanges code then .mark
  else ofCategory c

end Direction

end MemoStore.Text

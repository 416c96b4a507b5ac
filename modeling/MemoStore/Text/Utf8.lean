/-!
# Reading UTF-8

Bytes are taken apart into characters and faults. A fault is the longest beginning of
a character that does not go on as it should, or else a single byte that begins no
character; reading starts again right behind it. A character that the end of the bytes
cuts off is a fault of its own kind.
-/

namespace MemoStore.Text.Utf8

/-- What a piece of the bytes stands for. -/
inductive Piece where
  | char (c : Char)
  /-- bytes of this number that are no character -/
  | invalid (size : Nat)
  /-- bytes of this number at the end that are only the beginning of a character -/
  | incomplete (size : Nat)
  deriving DecidableEq, Repr

/-- A character that was begun: the bits so far, the number of its bytes so far, and
the ranges that the remaining bytes must come from. -/
structure Begun where
  bits : Nat
  size : Nat
  next : Nat × Nat
  later : List (Nat × Nat)

/-- The range of a byte that continues a character. -/
def continuation : Nat × Nat := (0x80, 0xBF)

/-- What a byte begins. The second byte is bound more narrowly where a character
would otherwise be overlong, a surrogate, or above the last code point. -/
def begins? (byte : Nat) : Option Begun :=
  if 0xC2 ≤ byte && byte ≤ 0xDF then some ⟨byte - 0xC0, 1, continuation, []⟩
  else if byte = 0xE0 then some ⟨0, 1, (0xA0, 0xBF), [continuation]⟩
  else if byte = 0xED then some ⟨0xD, 1, (0x80, 0x9F), [continuation]⟩
  else if 0xE1 ≤ byte && byte ≤ 0xEF then some ⟨byte - 0xE0, 1, continuation, [continuation]⟩
  else if byte = 0xF0 then some ⟨0, 1, (0x90, 0xBF), [continuation, continuation]⟩
  else if 0xF1 ≤ byte && byte ≤ 0xF3 then
    some ⟨byte - 0xF0, 1, continuation, [continuation, continuation]⟩
  else if byte = 0xF4 then some ⟨4, 1, (0x80, 0x8F), [continuation, continuation]⟩
  else none

/-- Reads a byte where a character may begin. -/
def start (byte : Nat) : Piece ⊕ Begun :=
  if byte < 0x80 then .inl (.char (Char.ofNat byte))
  else
    match begins? byte with
    | some begun => .inr begun
    | none => .inl (.invalid 1)

/-- Reads the pieces of bytes, after a character that was begun or not. -/
def piecesFrom : Option Begun → List UInt8 → List Piece
  | none, [] => []
  | some begun, [] => [.incomplete begun.size]
  | none, byte :: rest =>
    match start byte.toNat with
    | .inl piece => piece :: piecesFrom none rest
    | .inr begun => piecesFrom (some begun) rest
  | some begun, byte :: rest =>
    let bits := begun.bits * 64 + (byte.toNat - 0x80)
    if begun.next.1 ≤ byte.toNat && byte.toNat ≤ begun.next.2 then
      match begun.later with
      | [] => .char (Char.ofNat bits) :: piecesFrom none rest
      | next :: later => piecesFrom (some ⟨bits, begun.size + 1, next, later⟩) rest
    else
      .invalid begun.size ::
        match start byte.toNat with
        | .inl piece => piece :: piecesFrom none rest
        | .inr begun => piecesFrom (some begun) rest

/-- Reads the pieces of bytes. -/
def pieces (bytes : List UInt8) : List Piece :=
  piecesFrom none bytes

/-- The text of bytes, with a replacement character for each fault. -/
def readLossy (bytes : List UInt8) : String :=
  String.ofList ((pieces bytes).map fun
    | .char c => c
    | _ => '\uFFFD')

/-- The characters of pieces without a fault, or the first fault and the number of
bytes before it. -/
def charsFrom (offset : Nat) : List Piece → Except (Nat × Piece) (List Char)
  | [] => .ok []
  | .char c :: rest => (charsFrom (offset + c.utf8Size) rest).map (c :: ·)
  | fault :: _ => .error (offset, fault)

/-- The report of a fault behind a number of bytes. -/
def faultText (offset : Nat) : Piece → String
  | .invalid size =>
    "invalid utf-8 sequence of " ++ toString size ++ " bytes from index " ++ toString offset
  | _ => "incomplete utf-8 byte sequence from index " ++ toString offset

/-- The text of bytes, or the report of the first fault. -/
def read (bytes : List UInt8) : Except String String :=
  match charsFrom 0 (pieces bytes) with
  | .ok chars => .ok (String.ofList chars)
  | .error (offset, fault) => .error (faultText offset fault)

end MemoStore.Text.Utf8

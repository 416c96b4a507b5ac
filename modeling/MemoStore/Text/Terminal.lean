import MemoStore.Text.Utf8

/-!
# Control sequences

A text that goes to a terminal may hold control sequences: an escape character with what
belongs to it. Where there is no terminal they are taken out, together with the control
characters that are no blanks. The bytes of a text are gone through in two ways: while
nothing is shown, every byte moves the state on and is dropped; a byte that is to be
shown begins a stretch that is kept up to the next byte that is not. Inside a stretch
bytes are judged as if no sequence were open, and the state stays what it was.
-/

namespace MemoStore.Text.Terminal

/-- How far a control sequence has been read. -/
inductive State where
  | ground
  | escape
  | escapeIntermediate
  | csiEntry
  | csiParam
  | csiIntermediate
  | csiIgnore
  | dcsEntry
  | dcsParam
  | dcsIntermediate
  | dcsIgnore
  | dcsPassthrough
  | osc
  /-- a string that means nothing -/
  | otherString
  deriving DecidableEq, Repr

namespace State

/-- The state behind a byte from the space on, in the sequences of one kind that begin
with an intermediate byte, a digit, or a private sign, and end in `done`. -/
def afterEntry (byte : Nat) (stay intermediate param done : State) : State :=
  if byte < 0x20 then stay
  else if byte ≤ 0x2F then intermediate
  else if byte ≤ 0x3F then param
  else if byte ≤ 0x7E then done
  else stay

/-- The state behind a byte, in the sequences of one kind whose parameters have begun. -/
def afterParam (byte : Nat) (stay intermediate ignore done : State) : State :=
  if byte < 0x20 then stay
  else if byte ≤ 0x2F then intermediate
  else if byte ≤ 0x3B then stay
  else if byte ≤ 0x3F then ignore
  else if byte ≤ 0x7E then done
  else stay

/-- The state behind a byte, in the sequences of one kind that have an intermediate
byte. -/
def afterIntermediate (byte : Nat) (stay ignore done : State) : State :=
  if byte < 0x30 then stay
  else if byte ≤ 0x3F then ignore
  else if byte ≤ 0x7E then done
  else stay

/-- The state behind the byte after an escape character. -/
def afterEscape (byte : Nat) : State :=
  if byte = 0x50 then .dcsEntry
  else if byte = 0x58 || byte = 0x5E || byte = 0x5F then .otherString
  else if byte = 0x5B then .csiEntry
  else if byte = 0x5D then .osc
  else if 0x20 ≤ byte && byte ≤ 0x2F then .escapeIntermediate
  else if 0x30 ≤ byte && byte ≤ 0x7E then .ground
  else .escape

/-- The state behind a byte. -/
def next (state : State) (byte : Nat) : State :=
  if byte = 0x18 || byte = 0x1A then .ground
  else if byte = 0x1B then .escape
  else
    match state with
    | .ground => .ground
    | .escape => afterEscape byte
    | .escapeIntermediate =>
      if 0x30 ≤ byte && byte ≤ 0x7E then .ground else .escapeIntermediate
    | .csiEntry => afterEntry byte .csiEntry .csiIntermediate .csiParam .ground
    | .csiParam => afterParam byte .csiParam .csiIntermediate .csiIgnore .ground
    | .csiIntermediate => afterIntermediate byte .csiIntermediate .csiIgnore .ground
    | .csiIgnore => if 0x40 ≤ byte && byte ≤ 0x7E then .ground else .csiIgnore
    | .dcsEntry => afterEntry byte .dcsEntry .dcsIntermediate .dcsParam .dcsPassthrough
    | .dcsParam => afterParam byte .dcsParam .dcsIntermediate .dcsIgnore .dcsPassthrough
    | .dcsIntermediate => afterIntermediate byte .dcsIntermediate .dcsIgnore .dcsPassthrough
    | .dcsIgnore | .dcsPassthrough | .otherString => if byte = 0x9C then .ground else state
    | .osc => if byte = 0x07 then .ground else .osc

/-- Whether control characters take effect in a state, as they do outside of strings. -/
def obeysControls : State → Bool
  | .dcsEntry | .dcsParam | .dcsIntermediate | .dcsIgnore | .dcsPassthrough | .osc
  | .otherString => false
  | _ => true

end State

/-- Whether a byte is a control character that is a blank. -/
def isBlankControl (byte : Nat) : Bool :=
  byte = 0x09 || byte = 0x0A || byte = 0x0C || byte = 0x0D

/-- Whether a byte that is met in a state is to be shown. -/
def isShown (state : State) (byte : Nat) : Bool :=
  (state == .ground && ((0x20 ≤ byte && byte ≤ 0x7E) || 0xC2 ≤ byte)) ||
    (state.obeysControls && isBlankControl byte)

/-- The bytes that are shown, from a state on; `showing` says whether a stretch is being
kept. -/
def strip (showing : Bool) (state : State) : List UInt8 → List UInt8
  | [] => []
  | byte :: rest =>
    let code := byte.toNat
    if showing then
      if 0x80 ≤ code then byte :: strip true .ground rest
      else if isShown .ground code then byte :: strip true state rest
      else
        let state := if code = 0x18 || code = 0x1A || code = 0x1B then state.next code else state
        strip false (state.next code) rest
    else if isShown state code then
      byte :: strip true (if 0x80 ≤ code then .ground else state.next code) rest
    else strip false (state.next code) rest

/-- A text without control sequences. -/
def plain (text : List Char) : List Char :=
  (Utf8.readLossy (strip false .ground (text.flatMap String.utf8EncodeChar))).toList

end MemoStore.Text.Terminal

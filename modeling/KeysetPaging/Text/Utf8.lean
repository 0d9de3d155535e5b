/-!
# UTF-8

Percent-coded text stands for bytes, and the bytes for UTF-8 text.  A query
value is read in one of two ways: strictly, so that any ill-formed byte refuses
the whole, or leniently, so that each ill-formed sequence becomes one U+FFFD.
Both are readings of the same decoder, which emits a character or a fault for
each maximal piece of the input; a fault covers the longest run of bytes that
could still have begun a character.
-/

namespace KeysetPaging.Text

def utf8Bytes (c : Char) : List UInt8 :=
  let code := c.toNat
  if code < 0x80 then [UInt8.ofNat code]
  else if code < 0x800 then
    [UInt8.ofNat (0xC0 + code / 64), UInt8.ofNat (0x80 + code % 64)]
  else if code < 0x10000 then
    [UInt8.ofNat (0xE0 + code / 4096),
      UInt8.ofNat (0x80 + code / 64 % 64),
      UInt8.ofNat (0x80 + code % 64)]
  else
    [UInt8.ofNat (0xF0 + code / 262144),
      UInt8.ofNat (0x80 + code / 4096 % 64),
      UInt8.ofNat (0x80 + code / 64 % 64),
      UInt8.ofNat (0x80 + code % 64)]

def encodeUtf8 (text : List Char) : List UInt8 :=
  text.flatMap utf8Bytes

/-- What the decoder has read of the current character: how many continuation
bytes are owed, the range the next one must lie in, and the bits so far. -/
structure PendingCharacter where
  owed : Nat
  low : Nat
  high : Nat
  code : Nat

/-- What a byte means at the start of a character: a character of its own, the
lead of a longer one, or a fault. -/
def leadByte (byte : UInt8) : List (Option Char) × Option PendingCharacter :=
  let b := byte.toNat
  if b < 0x80 then ([some (Char.ofNat b)], none)
  else if b < 0xC2 then ([none], none)
  else if b < 0xE0 then ([], some ⟨1, 0x80, 0xBF, b - 0xC0⟩)
  else if b < 0xF0 then
    let low := if b = 0xE0 then 0xA0 else 0x80
    let high := if b = 0xED then 0x9F else 0xBF
    ([], some ⟨2, low, high, b - 0xE0⟩)
  else if b < 0xF5 then
    let low := if b = 0xF0 then 0x90 else 0x80
    let high := if b = 0xF4 then 0x8F else 0xBF
    ([], some ⟨3, low, high, b - 0xF0⟩)
  else ([none], none)

/-- One byte of input: the characters and faults it completes, and what is
pending after it.  A byte that cannot continue the pending character closes it
as a fault and is then read as the start of another. -/
def readByte : Option PendingCharacter → UInt8 →
    List (Option Char) × Option PendingCharacter
  | none, byte => leadByte byte
  | some pending, byte =>
      let b := byte.toNat
      if pending.low ≤ b ∧ b ≤ pending.high then
        let code := pending.code * 64 + (b - 0x80)
        if pending.owed ≤ 1 then ([some (Char.ofNat code)], none)
        else ([], some ⟨pending.owed - 1, 0x80, 0xBF, code⟩)
      else
        let restarted := leadByte byte
        (none :: restarted.1, restarted.2)

/-- The characters and faults of a byte sequence. -/
def decodePieces : Option PendingCharacter → List UInt8 → List (Option Char)
  | none, [] => []
  | some _, [] => [none]
  | pending, byte :: rest =>
      let step := readByte pending byte
      step.1 ++ decodePieces step.2 rest

/-- The text of a well-formed byte sequence. -/
def decodeUtf8? (bytes : List UInt8) : Option (List Char) :=
  (decodePieces none bytes).mapM id

/-- The text of any byte sequence, with U+FFFD for each ill-formed piece. -/
def decodeUtf8Lossy (bytes : List UInt8) : List Char :=
  (decodePieces none bytes).map (·.getD '\uFFFD')

end KeysetPaging.Text

import KeysetPaging.Text.Utf8
import Mathlib.Tactic.SplitIfs

/-!
# UTF-8 read back

The decoder reads the bytes of a character as that character and goes on behind
them.  It holds the first continuation byte to a narrower range after some
leads; the characters that the range leaves out would be surrogates, too large,
or spelled with fewer bytes.
-/

namespace KeysetPaging.Text

theorem toNat_ofNat_byte {n : Nat} (small : n < 256) :
    (UInt8.ofNat n).toNat = n := by
  simp [Nat.mod_eq_of_lt small]

/-- A continuation byte in range adds six bits. -/
theorem decodePieces_continuation {owed low high code bits : Nat}
    (notBelow : low ≤ 0x80 + bits) (notAbove : 0x80 + bits ≤ high)
    (small : bits < 64) (rest : List UInt8) :
    decodePieces (some ⟨owed, low, high, code⟩)
        (UInt8.ofNat (0x80 + bits) :: rest) =
      if owed ≤ 1 then
        some (Char.ofNat (code * 64 + bits)) :: decodePieces none rest
      else
        decodePieces (some ⟨owed - 1, 0x80, 0xBF, code * 64 + bits⟩) rest := by
  have byte : (UInt8.ofNat (0x80 + bits)).toNat = 0x80 + bits :=
    toNat_ofNat_byte (by omega)
  have fits : low ≤ 0x80 + bits ∧ 0x80 + bits ≤ high := ⟨notBelow, notAbove⟩
  rw [decodePieces]
  simp only [readByte, byte, fits, and_self, if_true, Nat.add_sub_cancel_left]
  split <;> rfl

theorem decodePieces_last {code bits : Nat} (small : bits < 64)
    (rest : List UInt8) :
    decodePieces (some ⟨1, 0x80, 0xBF, code⟩)
        (UInt8.ofNat (0x80 + bits) :: rest) =
      some (Char.ofNat (code * 64 + bits)) :: decodePieces none rest := by
  rw [decodePieces_continuation (by omega) (by omega) small, if_pos (by decide)]

theorem decodePieces_secondToLast {code bits : Nat} (small : bits < 64)
    (rest : List UInt8) :
    decodePieces (some ⟨2, 0x80, 0xBF, code⟩)
        (UInt8.ofNat (0x80 + bits) :: rest) =
      decodePieces (some ⟨1, 0x80, 0xBF, code * 64 + bits⟩) rest := by
  rw [decodePieces_continuation (by omega) (by omega) small, if_neg (by decide)]

theorem decodePieces_leadOfTwo {high : Nat} (notBelow : 2 ≤ high)
    (below : high < 32) (rest : List UInt8) :
    decodePieces none (UInt8.ofNat (0xC0 + high) :: rest) =
      decodePieces (some ⟨1, 0x80, 0xBF, high⟩) rest := by
  have byte : (UInt8.ofNat (0xC0 + high)).toNat = 0xC0 + high :=
    toNat_ofNat_byte (by omega)
  have notAscii : ¬ 0xC0 + high < 0x80 := by omega
  have notStray : ¬ 0xC0 + high < 0xC2 := by omega
  have isLead : 0xC0 + high < 0xE0 := by omega
  rw [decodePieces]
  simp only [readByte, leadByte, byte, notAscii, notStray, isLead, if_false,
    if_true, List.nil_append, Nat.add_sub_cancel_left]

theorem decodePieces_leadOfThree {high bits : Nat} (below : high < 16)
    (small : bits < 64) (shortest : high = 0 → 32 ≤ bits)
    (noSurrogate : high = 13 → bits < 32) (rest : List UInt8) :
    decodePieces none
        (UInt8.ofNat (0xE0 + high) :: UInt8.ofNat (0x80 + bits) :: rest) =
      decodePieces (some ⟨1, 0x80, 0xBF, high * 64 + bits⟩) rest := by
  have byte : (UInt8.ofNat (0xE0 + high)).toNat = 0xE0 + high :=
    toNat_ofNat_byte (by omega)
  have notAscii : ¬ 0xE0 + high < 0x80 := by omega
  have notStray : ¬ 0xE0 + high < 0xC2 := by omega
  have notTwo : ¬ 0xE0 + high < 0xE0 := by omega
  have isLead : 0xE0 + high < 0xF0 := by omega
  rw [decodePieces]
  simp only [readByte, leadByte, byte, notAscii, notStray, notTwo, isLead,
    if_false, if_true, List.nil_append, Nat.add_sub_cancel_left]
  rw [decodePieces_continuation (by split <;> omega) (by split <;> omega) small,
    if_neg (by decide)]

theorem decodePieces_leadOfFour {high bits : Nat} (below : high < 5)
    (small : bits < 64) (shortest : high = 0 → 16 ≤ bits)
    (inRange : high = 4 → bits < 16) (rest : List UInt8) :
    decodePieces none
        (UInt8.ofNat (0xF0 + high) :: UInt8.ofNat (0x80 + bits) :: rest) =
      decodePieces (some ⟨2, 0x80, 0xBF, high * 64 + bits⟩) rest := by
  have byte : (UInt8.ofNat (0xF0 + high)).toNat = 0xF0 + high :=
    toNat_ofNat_byte (by omega)
  have notAscii : ¬ 0xF0 + high < 0x80 := by omega
  have notStray : ¬ 0xF0 + high < 0xC2 := by omega
  have notTwo : ¬ 0xF0 + high < 0xE0 := by omega
  have notThree : ¬ 0xF0 + high < 0xF0 := by omega
  have isLead : 0xF0 + high < 0xF5 := by omega
  rw [decodePieces]
  simp only [readByte, leadByte, byte, notAscii, notStray, notTwo, notThree,
    isLead, if_false, if_true, List.nil_append, Nat.add_sub_cancel_left]
  rw [decodePieces_continuation (by split <;> omega) (by split <;> omega) small,
    if_neg (by decide)]

theorem decodePieces_ascii {code : Nat} (ascii : code < 0x80)
    (rest : List UInt8) :
    decodePieces none (UInt8.ofNat code :: rest) =
      some (Char.ofNat code) :: decodePieces none rest := by
  have byte : (UInt8.ofNat code).toNat = code := toNat_ofNat_byte (by omega)
  rw [decodePieces]
  simp only [readByte, leadByte, byte, ascii, if_true, List.cons_append,
    List.nil_append]

theorem decodePieces_utf8Bytes (c : Char) (rest : List UInt8) :
    decodePieces none (utf8Bytes c ++ rest) =
      some c :: decodePieces none rest := by
  have valid : c.toNat < 0xD800 ∨ (0xDFFF < c.toNat ∧ c.toNat < 0x110000) :=
    c.valid
  have whole : Char.ofNat c.toNat = c := Char.ofNat_toNat c
  simp only [utf8Bytes]
  split_ifs with one two three
  · rw [List.singleton_append, decodePieces_ascii one, whole]
  · have code : c.toNat / 64 * 64 + c.toNat % 64 = c.toNat := by omega
    rw [List.cons_append, List.singleton_append,
      decodePieces_leadOfTwo (by omega) (by omega),
      decodePieces_last (by omega), code, whole]
  · have code : (c.toNat / 4096 * 64 + c.toNat / 64 % 64) * 64 + c.toNat % 64 =
        c.toNat := by omega
    rw [List.cons_append, List.cons_append, List.singleton_append,
      decodePieces_leadOfThree (by omega) (by omega) (by omega) (by omega),
      decodePieces_last (by omega), code, whole]
  · have code : ((c.toNat / 262144 * 64 + c.toNat / 4096 % 64) * 64 +
        c.toNat / 64 % 64) * 64 + c.toNat % 64 = c.toNat := by omega
    rw [List.cons_append, List.cons_append, List.cons_append,
      List.singleton_append,
      decodePieces_leadOfFour (by omega) (by omega) (by omega) (by omega),
      decodePieces_secondToLast (by omega), decodePieces_last (by omega), code,
      whole]

theorem decodePieces_encodeUtf8 (text : List Char) :
    decodePieces none (encodeUtf8 text) = text.map some := by
  induction text with
  | nil => rfl
  | cons c text induction =>
      rw [encodeUtf8, List.flatMap_cons, decodePieces_utf8Bytes,
        ← encodeUtf8, induction, List.map_cons]

theorem decodeUtf8Lossy_encodeUtf8 (text : List Char) :
    decodeUtf8Lossy (encodeUtf8 text) = text := by
  rw [decodeUtf8Lossy, decodePieces_encodeUtf8, List.map_map]
  exact List.map_id text

theorem decodeUtf8?_encodeUtf8 (text : List Char) :
    decodeUtf8? (encodeUtf8 text) = some text := by
  rw [decodeUtf8?, decodePieces_encodeUtf8]
  induction text with
  | nil => rfl
  | cons c text induction =>
      rw [List.map_cons, List.mapM_cons, induction]
      rfl

end KeysetPaging.Text

import KeysetPaging.Text.Cut
import KeysetPaging.Text.Hexadecimal
import KeysetPaging.Text.Utf8

/-!
# Percent coding

A character that may not stand in a URI is written as the bytes of its UTF-8
form, each as a percent sign and two upper-case digits.  Which characters those
are depends on the place, so `encodeExcept` takes them as a predicate; a token
is written with `encode`, which keeps nothing but the unreserved characters.

Reading turns every percent sign before two digits into a byte and leaves all
else alone.  `decode?` then refuses bytes that are not UTF-8, and `decodeForm`
replaces them.  Only the latter reads a plus sign as a space.
-/

namespace KeysetPaging.Uri

def encodeByte (byte : UInt8) : List Char :=
  ['%', Text.upperHexDigit (byte.toNat / 16),
    Text.upperHexDigit (byte.toNat % 16)]

/-- A text with every character in percent coding save those kept. -/
def encodeExcept (kept : Char → Bool) (text : List Char) : List Char :=
  text.flatMap fun c =>
    if kept c then [c] else (Text.utf8Bytes c).flatMap encodeByte

theorem mem_encodeExcept {kept : Char → Bool} {P : Char → Prop}
    (holdsKept : ∀ c, kept c = true → P c) (holdsMark : P '%')
    (holdsDigit : ∀ n, n < 16 → P (Text.upperHexDigit n))
    {text : List Char} {c : Char} (member : c ∈ encodeExcept kept text) :
    P c := by
  obtain ⟨d, _, piece⟩ := List.mem_flatMap.mp member
  split at piece
  · rename_i isKept
    rw [List.mem_singleton.mp piece]
    exact holdsKept d isKept
  · obtain ⟨byte, _, coded⟩ := List.mem_flatMap.mp piece
    have small : byte.toNat < 256 := byte.toNat_lt
    rcases List.mem_cons.mp coded with mark | coded
    · exact mark ▸ holdsMark
    · rcases List.mem_cons.mp coded with high | coded
      · exact high ▸ holdsDigit _ (by omega)
      · rw [List.mem_singleton.mp coded]
        exact holdsDigit _ (by omega)

theorem encodeExcept_of_kept {kept : Char → Bool} {text : List Char}
    (allKept : ∀ c ∈ text, kept c = true) : encodeExcept kept text = text := by
  induction text with
  | nil => rfl
  | cons c text ih =>
      have first : kept c = true := allKept c (by simp)
      have others := ih fun d member => allKept d (by simp [member])
      simp only [encodeExcept, List.flatMap_cons, first, if_true] at others ⊢
      rw [others]
      rfl

/-- The characters that never need percent coding. -/
def isUnreserved (c : Char) : Bool :=
  c.isAlphanum || c == '-' || c == '_' || c == '.' || c == '~'

/-- A text in percent coding, fit for any place of a URI. -/
def encode (text : List Char) : List Char :=
  encodeExcept isUnreserved text

/-- The bytes that a text in percent coding stands for.  A percent sign without
two digits after it stands for itself. -/
def decodeBytes : List Char → List UInt8
  | [] => []
  | '%' :: high :: low :: rest =>
      match Text.hexValue? high, Text.hexValue? low with
      | some highValue, some lowValue =>
          UInt8.ofNat (highValue * 16 + lowValue) :: decodeBytes rest
      | _, _ => Text.utf8Bytes '%' ++ decodeBytes (high :: low :: rest)
  | c :: rest => Text.utf8Bytes c ++ decodeBytes rest

/-- The text that a text in percent coding stands for, if its bytes are
UTF-8. -/
def decode? (text : List Char) : Option (List Char) :=
  Text.decodeUtf8? (decodeBytes text)

/-- The text that a name or a value of a form stands for: plus signs are spaces,
and bytes that are not UTF-8 are replaced. -/
def decodeForm (text : List Char) : List Char :=
  Text.decodeUtf8Lossy
    (decodeBytes (text.map fun c => if c = '+' then ' ' else c))

/-- A text cut at its first equals sign.  Without one it is all name. -/
def cutValue (text : List Char) : List Char × List Char :=
  let (name, value?) := Text.cutAt '=' text
  (name, value?.getD [])

/-- The nonempty pieces of a query between ampersands. -/
def querySegments (query : List Char) : List (List Char) :=
  (query.splitOn '&').filter (fun segment => !segment.isEmpty)

/-- The named values of a query, read as a form. -/
def queryPairs (query : List Char) : List (List Char × List Char) :=
  (querySegments query).map fun segment =>
    let (name, value) := cutValue segment
    (decodeForm name, decodeForm value)

end KeysetPaging.Uri

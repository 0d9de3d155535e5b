import KeysetPaging.Text.Hexadecimal

/-!
# Globally unique identifiers

A guid is a 128-bit number.  It is written as 32 lower-case hexadecimal digits
in five groups, and read in either letter case.  Four spellings are read: the
bare digits, the grouped digits, the grouped digits in braces, and the grouped
digits as a `urn:uuid:` name.
-/

namespace KeysetPaging

/-- A 128-bit identifier, ordered as a number. -/
structure Guid where
  bits : BitVec 128
deriving DecidableEq

namespace Guid

instance : Ord Guid := ⟨fun left right => compare left.bits right.bits⟩

/-- The 32 hexadecimal digits of a guid, most significant first. -/
def hexDigits (guid : Guid) : List Char :=
  (Text.hexDigits guid.bits.toNat).leftpad 32 '0'

/-- The digits cut into groups by hyphens, each group of a given width. -/
def hyphenate : List Nat → List Char → List Char
  | [], digits => digits
  | width :: widths, digits =>
      digits.take width ++ '-' :: hyphenate widths (digits.drop width)

/-- The grouped spelling, 36 characters long. -/
def spelling (guid : Guid) : List Char :=
  hyphenate [8, 4, 4, 4] guid.hexDigits

/-- The number that hexadecimal digits denote, after the digits already read. -/
def hexNumber? : Nat → List Char → Option Nat
  | read, [] => some read
  | read, c :: rest =>
      (Text.hexValue? c).bind fun digit => hexNumber? (read * 16 + digit) rest

def ofHexDigits? (digits : List Char) : Option Guid :=
  if digits.length = 32 then
    (hexNumber? 0 digits).map fun n => ⟨BitVec.ofNat 128 n⟩
  else none

/-- The digits of a grouped spelling, when each hyphen stands in its place. -/
def unhyphenate? : List Nat → List Char → Option (List Char)
  | [], text => some text
  | width :: widths, text =>
      match text.drop width with
      | '-' :: rest => (unhyphenate? widths rest).map (text.take width ++ ·)
      | _ => none

def ofGrouped? (text : List Char) : Option Guid :=
  if text.length = 36 then (unhyphenate? [8, 4, 4, 4] text).bind ofHexDigits?
  else none

/-- A guid from any of its four spellings. -/
def ofText? (text : List Char) : Option Guid :=
  match text.length with
  | 32 => ofHexDigits? text
  | 36 => ofGrouped? text
  | 38 =>
      if text.head? = some '\x7b' ∧ text.getLast? = some '\x7d' then
        ofGrouped? (text.drop 1).dropLast
      else none
  | 45 =>
      if (text.take 9).map Char.toLower = "urn:uuid:".toList then
        ofGrouped? (text.drop 9)
      else none
  | _ => none

end Guid

end KeysetPaging

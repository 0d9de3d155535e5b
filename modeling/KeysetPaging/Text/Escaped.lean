import KeysetPaging.Text.Hexadecimal
import KeysetPaging.Text.Standalone

/-!
# Escaped text

For inspection a text stands between marks and shows each of its characters:
some by a short escape, some by their code point, and all others as they are.
The closing mark and the backslash are always escaped, so the text ends where it
seems to end.
-/

namespace KeysetPaging.Text

/-- The characters that have a short escape, with the letter of it. -/
def shortEscapes : List (Char × Char) :=
  [('\x00', '0'), ('\t', 't'), ('\x0d', 'r'), ('\n', 'n'), ('\\', '\\')]

/-- A character as it shows between marks. -/
def escapeChar (mark c : Char) : List Char :=
  match shortEscapes.lookup c with
  | some letter => ['\\', letter]
  | none =>
      if c = mark then ['\\', c]
      else if isStandalone c then [c]
      else ['\\', 'u', '\x7b'] ++ hexDigits c.toNat ++ ['\x7d']

/-- A text between two marks. -/
def escaped (mark : Char) (text : List Char) : List Char :=
  mark :: (text.flatMap (escapeChar mark) ++ [mark])

def escapedText (text : List Char) : List Char :=
  escaped '"' text

def escapedChar (c : Char) : List Char :=
  escaped '\'' [c]

end KeysetPaging.Text

/-!
# White space

Query options are cut into words, and token fields are tested for blankness,
at the characters of Unicode's `White_Space` property.  Lean's own
`Char.isWhitespace` knows four of them, so the full class is written out here.
-/

namespace KeysetPaging.Text

/-- The characters of Unicode's `White_Space` property. -/
def isBlank (c : Char) : Bool :=
  let code := c.toNat
  (0x09 ≤ code && code ≤ 0x0D) || code == 0x20 || code == 0x85 ||
    code == 0xA0 || code == 0x1680 || (0x2000 ≤ code && code ≤ 0x200A) ||
    code == 0x2028 || code == 0x2029 || code == 0x202F || code == 0x205F ||
    code == 0x3000

theorem not_all_isBlank {text : List Char} {c : Char} (member : c ∈ text)
    (visible : isBlank c = false) : text.all isBlank = false := by
  rw [Bool.eq_false_iff]
  intro blank
  rw [List.all_eq_true.mp blank c member] at visible
  cases visible

def trimStart (text : List Char) : List Char :=
  text.dropWhile isBlank

def trim (text : List Char) : List Char :=
  (trimStart (trimStart text).reverse).reverse

/-- The maximal runs of characters that are not white space, in order. -/
def words (text : List Char) : List (List Char) :=
  (text.splitOnP isBlank).filter (fun word => !word.isEmpty)

end KeysetPaging.Text

/-!
# Quoted text

A string literal stands between two quotes, and a quote inside it is written
twice.  `quote` writes that form and `unquote?` accepts nothing else, so a text
has one quoted spelling only.
-/

namespace KeysetPaging.Text

def doubleQuotes : List Char → List Char
  | [] => []
  | c :: rest =>
      if c = '\'' then '\'' :: '\'' :: doubleQuotes rest
      else c :: doubleQuotes rest

def quote (text : List Char) : List Char :=
  '\'' :: (doubleQuotes text ++ ['\''])

/-- What follows an opening quote, up to a closing quote that must be the last
character.  A quote that is neither doubled nor last is refused. -/
def closeQuoted? : List Char → Option (List Char)
  | [] => none
  | ['\''] => some []
  | '\'' :: '\'' :: rest => (closeQuoted? rest).map ('\'' :: ·)
  | c :: rest =>
      if c = '\'' then none else (closeQuoted? rest).map (c :: ·)

def unquote? : List Char → Option (List Char)
  | '\'' :: rest => closeQuoted? rest
  | _ => none

theorem closeQuoted?_doubleQuotes (text : List Char) :
    closeQuoted? (doubleQuotes text ++ ['\'']) = some text := by
  induction text with
  | nil => rfl
  | cons c rest ih =>
      by_cases isQuote : c = '\''
      · simp [doubleQuotes, isQuote, closeQuoted?, ih]
      · have nonempty : doubleQuotes rest ++ ['\''] ≠ [] := by simp
        simp [doubleQuotes, isQuote, closeQuoted?, ih]

theorem unquote?_quote (text : List Char) : unquote? (quote text) = some text := by
  simp [quote, unquote?, closeQuoted?_doubleQuotes]

end KeysetPaging.Text

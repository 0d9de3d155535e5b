import KeysetPaging.Text.Quoted
import Mathlib.Data.List.Basic

/-!
# Quoted text read back

Unquoting accepts what quoting writes and nothing else, so a text has one quoted
spelling.  A quoted text holds the characters of the text and quotes, and how it
begins tells how the text begins: a word without quotes and a closing quote are
its beginning only if the word is the text, or stands before a quote in it.
-/

namespace KeysetPaging.Text

theorem mem_doubleQuotes {text : List Char} {c : Char}
    (member : c ∈ doubleQuotes text) : c ∈ text := by
  induction text with
  | nil => cases member
  | cons first text induction =>
      by_cases isQuote : first = '\''
      · simp only [doubleQuotes, isQuote, if_true, List.mem_cons] at member
        rcases member with same | same | rest
        · simp [same, isQuote]
        · simp [same, isQuote]
        · exact List.mem_cons_of_mem _ (induction rest)
      · simp only [doubleQuotes, isQuote, if_false, List.mem_cons] at member
        rcases member with same | rest
        · simp [same]
        · exact List.mem_cons_of_mem _ (induction rest)

theorem mem_quote {text : List Char} {c : Char} (member : c ∈ quote text) :
    c = '\'' ∨ c ∈ text := by
  rcases List.mem_cons.mp member with quote | rest
  · exact .inl quote
  · rcases List.mem_append.mp rest with inside | last
    · exact .inr (mem_doubleQuotes inside)
    · exact .inl (List.mem_singleton.mp last)

theorem mem_doubleQuotes_of_mem {text : List Char} {c : Char}
    (member : c ∈ text) : c ∈ doubleQuotes text := by
  induction text with
  | nil => cases member
  | cons first text induction =>
      by_cases isQuote : first = '\''
      · rcases List.mem_cons.mp member with same | rest
        · simp [doubleQuotes, isQuote, same]
        · simp [doubleQuotes, isQuote, induction rest]
      · rcases List.mem_cons.mp member with same | rest
        · simp [doubleQuotes, isQuote, same]
        · simp [doubleQuotes, isQuote, induction rest]

theorem mem_quote_of_mem {text : List Char} {c : Char} (member : c ∈ text) :
    c ∈ quote text :=
  List.mem_cons_of_mem _
    (List.mem_append_left _ (mem_doubleQuotes_of_mem member))

theorem eq_of_closeQuoted? {text inner : List Char}
    (closed : closeQuoted? text = some inner) :
    text = doubleQuotes inner ++ ['\''] := by
  induction text using closeQuoted?.induct generalizing inner with
  | case1 => cases closed
  | case2 =>
      cases closed
      rfl
  | case3 rest induction =>
      obtain ⟨tail, closedRest, rfl⟩ := Option.map_eq_some_iff.mp closed
      simp [doubleQuotes, ← induction closedRest]
  | case4 rest notLast notDoubled =>
      rw [closeQuoted?.eq_4 _ _ notLast notDoubled, if_pos rfl] at closed
      cases closed
  | case5 c rest notLast notDoubled notQuote induction =>
      rw [closeQuoted?.eq_4 _ _ notLast notDoubled, if_neg notQuote] at closed
      obtain ⟨tail, closedRest, rfl⟩ := Option.map_eq_some_iff.mp closed
      simp [doubleQuotes, notQuote, ← induction closedRest]

theorem unquote?_eq_some_iff {text inner : List Char} :
    unquote? text = some inner ↔ text = quote inner := by
  constructor
  · intro unquoted
    unfold unquote? at unquoted
    split at unquoted
    · rw [quote, ← eq_of_closeQuoted? unquoted]
    · cases unquoted
  · rintro rfl
    exact unquote?_quote inner

theorem doubleQuotes_append (front back : List Char) :
    doubleQuotes (front ++ back) = doubleQuotes front ++ doubleQuotes back := by
  induction front with
  | nil => rfl
  | cons c front induction =>
      by_cases isQuote : c = '\''
      · simp [doubleQuotes, isQuote, induction]
      · simp [doubleQuotes, isQuote, induction]

theorem doubleQuotes_of_not_mem {text : List Char} (unquoted : '\'' ∉ text) :
    doubleQuotes text = text := by
  induction text with
  | nil => rfl
  | cons c text induction =>
      have notQuote : c ≠ '\'' := fun same => unquoted (by simp [same])
      have rest : '\'' ∉ text := fun inside => unquoted (by simp [inside])
      rw [doubleQuotes, if_neg notQuote, induction rest]

theorem eq_or_prefix_of_prefix_doubleQuotes {word text : List Char}
    (unquoted : '\'' ∉ word)
    (begins : word ++ ['\''] <+: doubleQuotes text ++ ['\'']) :
    text = word ∨ word ++ ['\''] <+: text := by
  induction word generalizing text with
  | nil =>
      cases text with
      | nil => exact .inl rfl
      | cons c text =>
          by_cases isQuote : c = '\''
          · exact .inr (by simp [isQuote])
          · simp only [doubleQuotes, isQuote, if_false, List.nil_append,
              List.cons_append, List.cons_prefix_cons] at begins
            exact absurd begins.1.symm isQuote
  | cons first word induction =>
      have notQuote : first ≠ '\'' := fun same => unquoted (by simp [same])
      have rest : '\'' ∉ word := fun inside => unquoted (by simp [inside])
      cases text with
      | nil =>
          simp only [doubleQuotes, List.nil_append, List.cons_append,
            List.cons_prefix_cons] at begins
          exact absurd begins.1 notQuote
      | cons c text =>
          by_cases isQuote : c = '\''
          · simp only [doubleQuotes, isQuote, if_true, List.cons_append,
              List.cons_prefix_cons] at begins
            exact absurd begins.1 notQuote
          · simp only [doubleQuotes, isQuote, if_false, List.cons_append,
              List.cons_prefix_cons] at begins
            obtain ⟨same, begins⟩ := begins
            rcases induction rest begins with equal | inside
            · exact .inl (by rw [same, equal])
            · exact .inr (by simpa [same] using inside)

theorem isPrefixOf?_eq_none_iff {front text : List Char} :
    front.isPrefixOf? text = none ↔ ¬ front <+: text := by
  rw [← Option.not_isSome_iff_eq_none, List.isSome_isPrefixOf?_eq_isPrefixOf,
    List.isPrefixOf_iff_prefix]

/-- An unquoted word and a quote begin a quoted text exactly when the text is
the word, or begins with the word and a quote itself. -/
theorem prefix_quote_iff {word text : List Char} (unquoted : '\'' ∉ word) :
    '\'' :: (word ++ ['\'']) <+: quote text ↔
      text = word ∨ word ++ ['\''] <+: text := by
  rw [quote, List.cons_prefix_cons]
  constructor
  · rintro ⟨_, begins⟩
    exact eq_or_prefix_of_prefix_doubleQuotes unquoted begins
  · rintro (rfl | ⟨rest, rfl⟩)
    · rw [doubleQuotes_of_not_mem unquoted]
      exact ⟨rfl, List.prefix_refl _⟩
    · refine ⟨rfl, '\'' :: (doubleQuotes rest ++ ['\'']), ?_⟩
      simp [doubleQuotes_append, doubleQuotes_of_not_mem unquoted, doubleQuotes]

end KeysetPaging.Text

import KeysetPaging.Proofs.Literal.Acceptance
import Mathlib.Algebra.Group.Even
import Mathlib.Algebra.Group.Nat.Even
import Mathlib.Data.Set.Function

/-!
# Literals of strings

A string has one literal.  Reading it in one pass comes to two stages: taking off
the quotes at both ends, then joining the pairs of quotes that stand between them.
The second stage succeeds exactly when the quotes stand in runs of even length, for
an odd run leaves a quote without a partner, wherever the run is: at the beginning,
next to the closing quote, or in between.
-/

namespace KeysetPaging

namespace Text

/-! ## Runs of quotes -/

/-- Texts in which every longest run of quotes has even length. -/
def EvenRuns (text : List Char) : Prop :=
  ∀ (front : List Char) (count : Nat) (back : List Char),
    text = front ++ List.replicate count '\'' ++ back →
    front.getLast? ≠ some '\'' → back.head? ≠ some '\'' → Even count

theorem evenRuns_nil : EvenRuns [] := by
  intro front count back whole _ _
  cases count with
  | zero => exact Even.zero
  | succ count => simp [List.replicate_succ] at whole

variable {c : Char} {rest : List Char}

/-- A run does not begin with another character, so one more of them in front
changes no run. -/
theorem evenRuns_cons_iff (notQuote : c ≠ '\'') :
    EvenRuns (c :: rest) ↔ EvenRuns rest := by
  constructor
  · intro even front count back whole before after
    apply even (c :: front) count back (by simp [whole]) _ after
    cases front with
    | nil => simpa using notQuote
    | cons first front => simpa using before
  · intro even front count back whole before after
    cases front with
    | nil =>
        cases count with
        | zero => exact Even.zero
        | succ count =>
            rw [List.replicate_succ] at whole
            exact absurd (List.cons.inj whole).1 notQuote
    | cons first front =>
        refine even front count back (List.cons.inj whole).2 ?_ after
        cases front with
        | nil => simp
        | cons second front => simpa using before

/-- Two quotes in front lengthen the run at the front by two, or are one. -/
theorem evenRuns_pair_iff :
    EvenRuns ('\'' :: '\'' :: rest) ↔ EvenRuns rest := by
  constructor
  · intro even front count back whole before after
    cases front with
    | nil =>
        have longer : Even (count + 2) :=
          even [] (count + 2) back (by simp [whole, List.replicate_succ])
            before after
        exact (Nat.even_add.mp longer).mpr even_two
    | cons first front =>
        apply even ('\'' :: '\'' :: first :: front) count back (by simp [whole])
          _ after
        simpa using before
  · intro even front count back whole before after
    match front, count with
    | [], 0 => exact Even.zero
    | [], 1 =>
        simp only [List.nil_append, List.replicate_one, List.singleton_append,
          List.cons.injEq, true_and] at whole
        rw [← whole] at after
        exact absurd rfl after
    | [], count + 2 =>
        simp only [List.nil_append, List.replicate_succ, List.cons_append,
          List.cons.injEq, true_and] at whole
        exact (even [] count back (by simpa using whole) before after).add
          even_two
    | [first], count =>
        rw [← (List.cons.inj whole).1] at before
        exact absurd rfl before
    | first :: second :: front, count =>
        simp only [List.cons_append, List.cons.injEq] at whole
        refine even front count back whole.2.2 ?_ after
        cases front with
        | nil => simp
        | cons third front => simpa using before

theorem not_evenRuns_of_single (alone : rest.head? ≠ some '\'') :
    ¬ EvenRuns ('\'' :: rest) := by
  intro even
  have odd : Even 1 := even [] 1 rest rfl (by simp) alone
  exact Nat.not_even_one odd

/-! ## Reading in two stages -/

/-- What stands between a first and a last quote that are two characters. -/
def betweenQuotes? (text : List Char) : Option (List Char) :=
  (['\''].isPrefixOf? text).bind fun opened => ['\''].isSuffixOf? opened

/-- Each pair of quotes joined to one quote.  A quote without a partner is
refused. -/
def joinQuotes? : List Char → Option (List Char)
  | [] => some []
  | '\'' :: '\'' :: rest => (joinQuotes? rest).map ('\'' :: ·)
  | c :: rest =>
      if c = '\'' then none else (joinQuotes? rest).map (c :: ·)

theorem betweenQuotes?_eq_some_iff {text inside : List Char} :
    betweenQuotes? text = some inside ↔
      text = '\'' :: (inside ++ ['\'']) := by
  simp only [betweenQuotes?, Option.bind_eq_some_iff,
    List.isPrefixOf?_eq_some_iff_append_eq,
    List.isSuffixOf?_eq_some_iff_append_eq]
  constructor
  · rintro ⟨opened, rfl, rfl⟩
    rfl
  · rintro rfl
    exact ⟨_, rfl, rfl⟩

theorem joinQuotes?_doubleQuotes (inner : List Char) :
    joinQuotes? (doubleQuotes inner) = some inner := by
  induction inner with
  | nil => rfl
  | cons c inner induction =>
      by_cases isQuote : c = '\''
      · simp [doubleQuotes, isQuote, joinQuotes?, induction]
      · simp [doubleQuotes, isQuote, joinQuotes?, induction]

theorem eq_of_joinQuotes? {text inner : List Char}
    (joined : joinQuotes? text = some inner) : text = doubleQuotes inner := by
  induction text using joinQuotes?.induct generalizing inner with
  | case1 =>
      cases joined
      rfl
  | case2 rest induction =>
      obtain ⟨tail, joinedRest, rfl⟩ := Option.map_eq_some_iff.mp joined
      simp [doubleQuotes, ← induction joinedRest]
  | case3 rest notPair =>
      rw [joinQuotes?.eq_3 _ _ notPair, if_pos rfl] at joined
      cases joined
  | case4 c rest notPair notQuote induction =>
      rw [joinQuotes?.eq_3 _ _ notPair, if_neg notQuote] at joined
      obtain ⟨tail, joinedRest, rfl⟩ := Option.map_eq_some_iff.mp joined
      simp [doubleQuotes, notQuote, ← induction joinedRest]

theorem joinQuotes?_eq_some_iff {text inner : List Char} :
    joinQuotes? text = some inner ↔ text = doubleQuotes inner :=
  ⟨eq_of_joinQuotes?, fun same => same ▸ joinQuotes?_doubleQuotes inner⟩

theorem unquote?_eq_bind (text : List Char) :
    unquote? text = (betweenQuotes? text).bind joinQuotes? := by
  apply Option.ext
  intro inner
  simp only [unquote?_eq_some_iff, Option.bind_eq_some_iff,
    betweenQuotes?_eq_some_iff, joinQuotes?_eq_some_iff]
  constructor
  · rintro rfl
    exact ⟨doubleQuotes inner, rfl, rfl⟩
  · rintro ⟨inside, rfl, rfl⟩
    rfl

/-- By induction on the pairs.  Joining tells apart the same cases as the laws of
even runs: a pair, a quote without a partner, and another character. -/
theorem isSome_joinQuotes?_iff {text : List Char} :
    (joinQuotes? text).isSome = true ↔ EvenRuns text := by
  induction text using joinQuotes?.induct with
  | case1 => exact ⟨fun _ => evenRuns_nil, fun _ => rfl⟩
  | case2 rest induction =>
      rw [joinQuotes?, Option.isSome_map, induction, evenRuns_pair_iff]
  | case3 rest notPair =>
      have alone : rest.head? ≠ some '\'' := by
        cases rest with
        | nil => simp
        | cons c rest =>
            intro opens
            obtain rfl : c = '\'' := Option.some.inj opens
            exact notPair rest rfl rfl
      rw [joinQuotes?.eq_3 _ _ notPair, if_pos rfl]
      simp [not_evenRuns_of_single alone]
  | case4 c rest notPair notQuote induction =>
      rw [joinQuotes?.eq_3 _ _ notPair, if_neg notQuote, Option.isSome_map,
        induction, evenRuns_cons_iff notQuote]

theorem isSome_unquote?_iff {text : List Char} :
    (unquote? text).isSome = true ↔
      ∃ inside, text = '\'' :: (inside ++ ['\'']) ∧ EvenRuns inside := by
  simp only [unquote?_eq_bind, Option.isSome_iff_exists,
    Option.bind_eq_some_iff, betweenQuotes?_eq_some_iff,
    ← isSome_joinQuotes?_iff]
  constructor
  · rintro ⟨inner, inside, whole, joined⟩
    exact ⟨inside, whole, inner, joined⟩
  · rintro ⟨inside, whole, inner, joined⟩
    exact ⟨inner, inside, whole, joined⟩

theorem quote_injective : Function.Injective quote := by
  intro left right same
  have read := unquote?_quote left
  rw [same, unquote?_quote] at read
  exact (Option.some.inj read).symm

end Text

namespace Literal

theorem parse_eq_string_iff {text : List Char} {string : String} :
    parse text = .ok (.string string) ↔ text = Text.quote string.toList := by
  constructor
  · intro read
    rcases isUnquoted_or_string_of_parse read with
      unquoted | ⟨other, same, whole⟩
    · exact unquoted.elim
    · cases same
      exact whole
  · rintro rfl
    rw [parse, value?_string, orInvalid]

theorem parseTyped_eq_string_iff {model : Model} {text : List Char}
    {string : String} :
    parseTyped model (.primitive .string) text = .ok (.string string) ↔
      text = Text.quote string.toList := by
  by_cases isNull : text = nullText
  · have unquoted : nullText ≠ Text.quote string.toList := by
      intro same
      exact absurd (congrArg List.head? same) (by simp [nullText, Text.quote])
    simp [parseTyped, isNull, unquoted]
  · rw [parseTyped, if_neg isNull]
    simp [orInvalid_eq_ok_iff, primitive?, string?_eq_some_iff]

/-- A string has one literal.  A text is read as a string exactly if it is the
string in quotes, so quoting is injective and no two literals denote one string.
The texts that can be read are those between two quotes in which every run of
quotes is even, and both ways of reading a literal, by its shape and with the type
of strings, agree on them. -/
theorem string_spelling_unique :
    (∀ text inner : List Char,
      Text.unquote? text = some inner ↔ text = Text.quote inner) ∧
    Function.Injective Text.quote ∧
    (∀ text : List Char,
      Text.unquote? text = (Text.betweenQuotes? text).bind Text.joinQuotes?) ∧
    (∀ text : List Char, (Text.unquote? text).isSome = true ↔
      ∃ inside, text = '\'' :: (inside ++ ['\'']) ∧ Text.EvenRuns inside) ∧
    (∀ text other inner : List Char, Text.unquote? text = some inner →
      Text.unquote? other = some inner → text = other) ∧
    ∀ (model : Model) (text : List Char) (string : String),
      (parse text = .ok (.string string) ↔
          text = Text.quote string.toList) ∧
        (parseTyped model (.primitive .string) text = .ok (.string string) ↔
          text = Text.quote string.toList) := by
  refine ⟨fun text inner => Text.unquote?_eq_some_iff, Text.quote_injective,
    Text.unquote?_eq_bind, fun text => Text.isSome_unquote?_iff, ?_, ?_⟩
  · intro text other inner read readOther
    rw [Text.unquote?_eq_some_iff.mp read, Text.unquote?_eq_some_iff.mp readOther]
  · intro model text string
    exact ⟨parse_eq_string_iff, parseTyped_eq_string_iff⟩

/-- A name with a quote in it has one literal, and a third quote between two is
without a partner. -/
theorem string_spelling_unique_quotedName :
    Text.unquote? "'O''Neil'".toList = some "O'Neil".toList ∧
      (∀ other, Text.unquote? other = some "O'Neil".toList →
        "'O''Neil'".toList = other) ∧
      Text.unquote? "'''".toList = none := by
  obtain ⟨spelled, _, _, accepted, single, _⟩ := string_spelling_unique
  have read : Text.unquote? "'O''Neil'".toList = some "O'Neil".toList :=
    (spelled _ _).mpr (by decide)
  refine ⟨read, fun other => single _ other _ read, ?_⟩
  rw [← Option.not_isSome_iff_eq_none, accepted]
  rintro ⟨inside, whole, even⟩
  obtain rfl : ['\''] = inside :=
    (List.append_inj' (List.cons.inj whole).2 rfl).1
  exact Text.not_evenRuns_of_single (by simp) even

end Literal

end KeysetPaging

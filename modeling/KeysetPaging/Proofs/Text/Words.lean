import KeysetPaging.Text.Blank
import KeysetPaging.Text.Cut

/-!
# Words and pieces

What cutting a text gives, said of the text itself.  Words have no white space
in them and at least one blank character between any two of them.  Pieces have
no mark in them and one mark between any two of them, so they may be empty where
words may not.
-/

namespace KeysetPaging.Text

/-- White space and nothing else, or nothing at all. -/
def IsGap (text : List Char) : Prop :=
  ∀ c ∈ text, isBlank c = true

/-- Some text without white space. -/
structure IsWord (text : List Char) : Prop where
  nonempty : text ≠ []
  visible : ∀ c ∈ text, isBlank c = false

/-- A text consists of words and of white space between and around them. -/
inductive Spaces : List (List Char) → List Char → Prop where
  | gap {gap : List Char} : IsGap gap → Spaces [] gap
  | last {gap word : List Char} :
      IsGap gap → IsWord word → Spaces [word] (gap ++ word)
  | word {gap word rest : List Char} {blank : Char}
      {words : List (List Char)} :
      IsGap gap → IsWord word → isBlank blank = true → Spaces words rest →
      Spaces (word :: words) (gap ++ word ++ blank :: rest)

theorem Spaces.cons_blank {words : List (List Char)} {text : List Char}
    {blank : Char} (white : isBlank blank = true)
    (spaces : Spaces words text) : Spaces words (blank :: text) := by
  have longer {gap : List Char} (isGap : IsGap gap) : IsGap (blank :: gap) :=
    List.forall_mem_cons.mpr ⟨white, isGap⟩
  cases spaces with
  | gap isGap => exact .gap (longer isGap)
  | last isGap isWord => exact .last (longer isGap) isWord
  | word isGap isWord parted rest =>
      exact .word (longer isGap) isWord parted rest

theorem words_cons_blank {blank : Char} (white : isBlank blank = true)
    (text : List Char) : words (blank :: text) = words text := by
  rw [words, List.splitOnP_cons_eq_if_modifyHead, if_pos white]
  rfl

theorem words_gap_append {gap : List Char} (isGap : IsGap gap)
    (text : List Char) : words (gap ++ text) = words text := by
  induction gap with
  | nil => rfl
  | cons blank gap induction =>
      obtain ⟨first, rest⟩ := List.forall_mem_cons.mp isGap
      rw [List.cons_append, words_cons_blank first, induction rest]

theorem words_of_isWord {word : List Char} (isWord : IsWord word) :
    words word = [word] := by
  rw [words, List.splitOnP_eq_singleton isWord.visible]
  simp [isWord.nonempty]

theorem words_append_blank {word : List Char} (isWord : IsWord word)
    {blank : Char} (white : isBlank blank = true) (rest : List Char) :
    words (word ++ blank :: rest) = word :: words rest := by
  rw [words, List.splitOnP_append_cons_of_forall_mem isWord.visible blank
    white]
  simp [words, isWord.nonempty]

theorem spaces_words_append {front : List Char}
    (visible : ∀ c ∈ front, isBlank c = false) (text : List Char) :
    Spaces (words (front ++ text)) (front ++ text) := by
  have none : IsGap [] := List.forall_mem_nil _
  induction text generalizing front with
  | nil =>
      rw [List.append_nil]
      by_cases empty : front = []
      · rw [empty]
        exact .gap none
      · rw [words_of_isWord ⟨empty, visible⟩]
        exact .last none ⟨empty, visible⟩
  | cons c text induction =>
      cases blank : isBlank c with
      | true =>
          have rest : Spaces (words text) text := induction (List.forall_mem_nil _)
          by_cases empty : front = []
          · rw [empty, List.nil_append, words_cons_blank blank]
            exact rest.cons_blank blank
          · rw [words_append_blank ⟨empty, visible⟩ blank]
            exact .word none ⟨empty, visible⟩ blank rest
      | false =>
          have longer : ∀ d ∈ front ++ [c], isBlank d = false := by
            intro d member
            rcases List.mem_append.mp member with inFront | last
            · exact visible d inFront
            · rw [List.mem_singleton.mp last]
              exact blank
          have whole := induction longer
          rwa [List.append_assoc] at whole

theorem words_eq_iff {text : List Char} {pieces : List (List Char)} :
    words text = pieces ↔ Spaces pieces text := by
  constructor
  · rintro rfl
    exact spaces_words_append (List.forall_mem_nil _) text
  · intro spaces
    induction spaces with
    | @gap gap isGap =>
        have empty := words_gap_append isGap []
        rw [List.append_nil] at empty
        exact empty
    | last isGap isWord =>
        rw [words_gap_append isGap, words_of_isWord isWord]
    | word isGap isWord blank _ induction =>
        rw [List.append_assoc, words_gap_append isGap,
          words_append_blank isWord blank, induction]

theorem Spaces.isWord_of_mem {words : List (List Char)} {text word : List Char}
    (spaces : Spaces words text) (listed : word ∈ words) : IsWord word := by
  induction spaces with
  | gap => cases listed
  | last _ isWord =>
      rw [List.mem_singleton.mp listed]
      exact isWord
  | word _ isWord _ _ induction =>
      rcases List.mem_cons.mp listed with rfl | later
      · exact isWord
      · exact induction later

theorem Spaces.mem_of_mem {words : List (List Char)} {text word : List Char}
    (spaces : Spaces words text) (listed : word ∈ words) {c : Char}
    (member : c ∈ word) : c ∈ text := by
  induction spaces with
  | gap => cases listed
  | last =>
      rw [List.mem_singleton.mp listed] at member
      exact List.mem_append_right _ member
  | word _ _ _ _ induction =>
      rcases List.mem_cons.mp listed with rfl | later
      · exact List.mem_append_left _ (List.mem_append_right _ member)
      · exact List.mem_append_right _
          (List.mem_cons_of_mem _ (induction later))

/-- A text consists of pieces without a mark, and of a mark between any two of
them. -/
structure IsParted (mark : Char) (pieces : List (List Char))
    (text : List Char) : Prop where
  nonempty : pieces ≠ []
  unmarked : ∀ piece ∈ pieces, mark ∉ piece
  joined : [mark].intercalate pieces = text

theorem splitOn_eq_iff {mark : Char} {text : List Char}
    {pieces : List (List Char)} :
    text.splitOn mark = pieces ↔ IsParted mark pieces text := by
  constructor
  · rintro rfl
    refine ⟨List.splitOn_ne_nil mark text, ?_, List.intercalate_splitOn mark⟩
    intro piece listed member
    exact (mem_of_mem_splitOn listed member).2 rfl
  · rintro ⟨nonempty, unmarked, rfl⟩
    exact List.splitOn_intercalate mark unmarked nonempty

end KeysetPaging.Text

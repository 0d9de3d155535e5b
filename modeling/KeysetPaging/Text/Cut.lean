/-!
# Cutting texts

A text is cut in two at the first character of a kind, and that character is
dropped.  Where there is none, the whole text is the front and there is no back.
Splitting cuts at every occurrence, so its pieces are free of the character.
-/

namespace KeysetPaging.Text

/-- A text cut at its first mark. -/
def cutWhere (isMark : Char → Bool) :
    List Char → List Char × Option (List Char)
  | [] => ([], none)
  | c :: rest =>
      if isMark c then ([], some rest)
      else
        let (front, back) := cutWhere isMark rest
        (c :: front, back)

/-- A text cut at the first occurrence of a character. -/
def cutAt (mark : Char) (text : List Char) : List Char × Option (List Char) :=
  cutWhere (· == mark) text

theorem cutWhere_append {isMark : Char → Bool} {front : List Char} {mark : Char}
    (unmarked : ∀ c ∈ front, isMark c = false) (marked : isMark mark = true)
    (rest : List Char) :
    cutWhere isMark (front ++ mark :: rest) = (front, some rest) := by
  induction front with
  | nil => simp [cutWhere, marked]
  | cons c front ih =>
      have first : isMark c = false := unmarked c (by simp)
      have others := ih fun d member => unmarked d (by simp [member])
      simp [cutWhere, first, others]

theorem cutWhere_of_unmarked {isMark : Char → Bool} {text : List Char}
    (unmarked : ∀ c ∈ text, isMark c = false) :
    cutWhere isMark text = (text, none) := by
  induction text with
  | nil => rfl
  | cons c text ih =>
      have first : isMark c = false := unmarked c (by simp)
      have others := ih fun d member => unmarked d (by simp [member])
      simp [cutWhere, first, others]

theorem cutAt_append {front : List Char} {mark : Char} (absent : mark ∉ front)
    (rest : List Char) : cutAt mark (front ++ mark :: rest) = (front, some rest) := by
  refine cutWhere_append ?_ (by simp) rest
  intro c member
  simp only [beq_eq_false_iff_ne]
  intro equal
  exact absent (equal ▸ member)

theorem cutAt_of_not_mem {text : List Char} {mark : Char}
    (absent : mark ∉ text) : cutAt mark text = (text, none) := by
  refine cutWhere_of_unmarked ?_
  intro c member
  simp only [beq_eq_false_iff_ne]
  intro equal
  exact absent (equal ▸ member)

theorem exists_of_cutWhere {isMark : Char → Bool} {text front back : List Char}
    (cut : cutWhere isMark text = (front, some back)) :
    ∃ mark, isMark mark = true ∧ text = front ++ mark :: back ∧
      ∀ c ∈ front, isMark c = false := by
  induction text generalizing front with
  | nil => cases cut
  | cons c text induction =>
      cases marked : isMark c with
      | true =>
          simp only [cutWhere, marked, if_true, Prod.mk.injEq,
            Option.some.injEq] at cut
          obtain ⟨rfl, rfl⟩ := cut
          exact ⟨c, marked, rfl, by simp⟩
      | false =>
          simp only [cutWhere, marked, Bool.false_eq_true, if_false,
            Prod.mk.injEq] at cut
          obtain ⟨rfl, cut⟩ := cut
          obtain ⟨mark, found, whole, unmarked⟩ := induction (Prod.ext rfl cut)
          refine ⟨mark, found, by rw [List.cons_append, ← whole], ?_⟩
          intro d member
          rcases List.mem_cons.mp member with rfl | member
          · exact marked
          · exact unmarked d member

theorem eq_of_cutWhere_none {isMark : Char → Bool} {text front : List Char}
    (cut : cutWhere isMark text = (front, none)) : text = front := by
  induction text generalizing front with
  | nil =>
      cases cut
      rfl
  | cons c text induction =>
      cases marked : isMark c with
      | true => simp [cutWhere, marked] at cut
      | false =>
          simp only [cutWhere, marked, Bool.false_eq_true, if_false,
            Prod.mk.injEq] at cut
          obtain ⟨rfl, cut⟩ := cut
          exact congrArg (c :: ·) (induction (Prod.ext rfl cut))

theorem cutAt_eq_some_iff {mark : Char} {text front back : List Char} :
    cutAt mark text = (front, some back) ↔
      text = front ++ mark :: back ∧ mark ∉ front := by
  constructor
  · intro cut
    obtain ⟨found, same, rfl, unmarked⟩ := exists_of_cutWhere cut
    obtain rfl : found = mark := beq_iff_eq.mp same
    refine ⟨rfl, ?_⟩
    intro member
    simpa using unmarked found member
  · rintro ⟨rfl, absent⟩
    exact cutAt_append absent back

theorem mem_of_mem_splitOn {mark c : Char} {text piece : List Char}
    (listed : piece ∈ text.splitOn mark) (member : c ∈ piece) :
    c ∈ text ∧ c ≠ mark := by
  induction text generalizing piece with
  | nil =>
      rw [List.splitOn_nil, List.mem_singleton] at listed
      rw [listed] at member
      cases member
  | cons first text induction =>
      rw [List.splitOn_cons_eq_if_modifyHead] at listed
      split at listed
      · rcases List.mem_cons.mp listed with rfl | listed
        · cases member
        · obtain ⟨inside, other⟩ := induction listed member
          exact ⟨List.mem_cons_of_mem _ inside, other⟩
      · rename_i different
        cases pieces : text.splitOn mark with
        | nil => exact absurd pieces (List.splitOn_ne_nil mark text)
        | cons head tail =>
            rw [pieces, List.modifyHead_cons] at listed
            rcases List.mem_cons.mp listed with rfl | listed
            · rcases List.mem_cons.mp member with rfl | member
              · exact ⟨List.mem_cons_self, by simpa using different⟩
              · obtain ⟨inside, other⟩ :=
                  induction (pieces ▸ List.mem_cons_self) member
                exact ⟨List.mem_cons_of_mem _ inside, other⟩
            · obtain ⟨inside, other⟩ :=
                induction (pieces ▸ List.mem_cons_of_mem _ listed) member
              exact ⟨List.mem_cons_of_mem _ inside, other⟩

end KeysetPaging.Text

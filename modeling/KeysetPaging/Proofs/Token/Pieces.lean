import KeysetPaging.Proofs.Token.RoundTrip

/-!
# What splitting can cut

A token is split at every field delimiter, also at those that its names and
literals hold.  Valid delimiters stay out of all literals but those of strings and
enum members, since these alone hold characters that an application supplies.  So
whatever a token records, splitting it cuts the names and such literals only, and
every other literal stands whole at the end of a piece.
-/

namespace KeysetPaging

namespace Text

variable {mark : Char}

theorem splitOn_intercalate_eq_flatMap {pieces : List (List Char)}
    (nonempty : pieces ≠ []) :
    ([mark].intercalate pieces).splitOn mark =
      pieces.flatMap fun piece => piece.splitOn mark := by
  induction pieces with
  | nil => exact absurd rfl nonempty
  | cons piece pieces induction =>
      cases pieces with
      | nil => simp
      | cons next pieces =>
          rw [List.flatMap_cons, ← induction (List.cons_ne_nil next pieces),
            List.intercalate_cons_cons, List.append_assoc,
            List.singleton_append, List.splitOn_append_cons_self]

theorem intercalate_append_last (pieces : List (List Char))
    (last back : List Char) :
    [mark].intercalate (pieces ++ [last ++ back]) =
      [mark].intercalate (pieces ++ [last]) ++ back := by
  induction pieces with
  | nil => simp
  | cons piece pieces induction =>
      cases pieces with
      | nil => simp [List.intercalate_cons_cons]
      | cons next pieces =>
          simp only [List.cons_append] at induction ⊢
          rw [List.intercalate_cons_cons, List.intercalate_cons_cons, induction]
          simp only [List.append_assoc]

/-- What follows a text without holding the mark stays whole, in the last piece
of the text. -/
theorem exists_splitOn_append (front : List Char) {back : List Char}
    (whole : mark ∉ back) :
    ∃ pieces last, front.splitOn mark = pieces ++ [last] ∧
      (front ++ back).splitOn mark = pieces ++ [last ++ back] := by
  obtain ⟨pieces, last, split⟩ :
      ∃ pieces last, front.splitOn mark = pieces ++ [last] :=
    (List.eq_nil_or_concat' _).resolve_left (List.splitOn_ne_nil mark front)
  have free : ∀ piece ∈ front.splitOn mark, mark ∉ piece :=
    fun piece listed member => (mem_of_mem_splitOn listed member).2 rfl
  refine ⟨pieces, last, split, ?_⟩
  have rejoined : front = [mark].intercalate (pieces ++ [last]) := by
    rw [← split, List.intercalate_splitOn]
  rw [rejoined, ← intercalate_append_last]
  apply List.splitOn_intercalate
  · intro piece listed
    rcases List.mem_append.mp listed with before | atEnd
    · exact free piece (split ▸ List.mem_append_left _ before)
    · have lastFree := free last (split ▸ List.mem_concat_self)
      rw [List.mem_singleton.mp atEnd, List.mem_append]
      exact fun member => member.elim lastFree whole
  · simp

end Text

namespace Codec

theorem mem_literal_iff {c : Char} (notPlain : ¬ Text.IsPlain c)
    (notQuote : c ≠ '\'') {value : Value} :
    c ∈ literal value ↔
      (∃ text, value = .string text ∧ c ∈ text.toList) ∨
        ∃ member, value = .enum member ∧
          (c ∈ member.typeName.toList ∨ c ∈ member.member.toList) := by
  have quoted {text : List Char} : c ∈ Text.quote text ↔ c ∈ text :=
    ⟨fun member => (Text.mem_quote member).resolve_left notQuote,
      Text.mem_quote_of_mem⟩
  rcases Literal.unquoted_or_text value with unquoted | ⟨text, rfl⟩ | ⟨enum, rfl⟩
  · constructor
    · intro member
      exact absurd (isPlain_of_mem_literal unquoted member) notPlain
    · rintro (⟨text, rfl, _⟩ | ⟨enum, rfl, _⟩)
      · exact unquoted.elim
      · exact unquoted.elim
  · have written : c ∈ literal (.string text) ↔ c ∈ text.toList := quoted
    simp [written]
  · have untagged : c ∉ enumTag := fun member =>
      (enumTag_plain_or_quote c member).elim notQuote notPlain
    have written : c ∈ literal (.enum enum) ↔
        c ∈ enum.typeName.toList ∨ c ∈ enum.member.toList := by
      simp [literal, Literal.spelling, untagged, quoted]
    simp [written]

/-- Literals without texts are free of valid field delimiters, are not blank and
do not begin with the enum tag.  A literal holds the field delimiter only if a
text in it does.  So splitting a token, which splits each of its fields, leaves
every literal without texts whole: it ends the last piece of its name. -/
theorem unquoted_literals_whole {delimiters : Delimiters}
    (valid : delimiters.check = .ok ()) :
    (∀ value : Value, Literal.IsUnquoted value →
      delimiters.field ∉ Literal.spelling value ∧
        (Literal.spelling value).all Text.isBlank = false ∧
        ¬ enumTag <+: Literal.spelling value) ∧
    (∀ value : Value, delimiters.field ∈ literal value ↔
      (∃ text, value = .string text ∧ delimiters.field ∈ text.toList) ∨
        ∃ member, value = .enum member ∧
          (delimiters.field ∈ member.typeName.toList ∨
            delimiters.field ∈ member.member.toList)) ∧
    ∀ (entity : Entity) (names : List String), names ≠ [] →
      let codec : Codec := ⟨delimiters, valid⟩
      (codec.encode entity names).splitOn delimiters.field =
          names.flatMap (fun name =>
            (codec.fieldText name (entity.value name)).splitOn
              delimiters.field) ∧
        ∀ name ∈ names, Literal.IsUnquoted (entity.value name) →
          ∃ pieces last,
            name.toList.splitOn delimiters.field = pieces ++ [last] ∧
              (codec.fieldText name (entity.value name)).splitOn
                  delimiters.field =
                pieces ++ [last ++ delimiters.property ::
                  Literal.spelling (entity.value name)] := by
  have clear : ¬ Text.IsPlain delimiters.field :=
    Delimiters.Valid.field_not_plain valid
  have notQuote := Delimiters.Valid.field_ne_quote valid
  have absent {value : Value} (unquoted : Literal.IsUnquoted value) :
      delimiters.field ∉ Literal.spelling value :=
    fun member => clear (Literal.isPlain_of_mem_spelling unquoted member)
  refine ⟨?_, fun value => mem_literal_iff clear notQuote, ?_⟩
  · intro value unquoted
    refine ⟨absent unquoted, ?_, not_enumTag_prefix_of_plain fun _ =>
      Literal.isPlain_of_mem_spelling unquoted⟩
    rw [← literal_of_unquoted unquoted]
    exact literal_visible value
  · intro entity names nonempty codec
    constructor
    · rw [encode, Text.splitOn_intercalate_eq_flatMap (by simpa using nonempty),
        List.flatMap_map]
    · intro name _ unquoted
      obtain ⟨different, _⟩ := Delimiters.valid_iff.mp valid
      have whole : delimiters.field ∉
          delimiters.property :: Literal.spelling (entity.value name) :=
        fun member => (List.mem_cons.mp member).elim different (absent unquoted)
      rw [fieldText, literal_of_unquoted unquoted]
      exact Text.exists_splitOn_append name.toList whole

/-- A far day of payment, whose property has a name with a semicolon, and a note
with a semicolon. -/
def farPayment : Entity :=
  .structured "Sales.Payment" (.ofList
    [("paid;on", .date
        ⟨12024, 3, 31, by decide, by decide, by decide⟩),
      ("note", .string "a;b")])

/-- With semicolons between fields the name and the note are cut, and the day is
not, though hyphens part it from its name. -/
theorem unquoted_literals_whole_farPayment :
    let codec : Codec := ⟨{ field := ';', property := '-' }, by decide⟩
    let day := Literal.spelling (farPayment.value "paid;on")
    ';' ∉ day ∧ ';' ∈ literal (farPayment.value "note") ∧
      (codec.encode farPayment ["paid;on", "note"]).splitOn ';' =
        ["paid".toList, "on-+12024-03-31".toList, "note-'a".toList,
          "b'".toList] ∧
      ∃ pieces last, "paid;on".toList.splitOn ';' = pieces ++ [last] ∧
        (codec.fieldText "paid;on" (farPayment.value "paid;on")).splitOn ';' =
          pieces ++ [last ++ '-' :: day] := by
  intro codec day
  obtain ⟨unquoted, held, tokens⟩ := unquoted_literals_whole codec.valid
  obtain ⟨split, uncut⟩ := tokens farPayment ["paid;on", "note"] (by simp)
  refine ⟨(unquoted (farPayment.value "paid;on") trivial).1,
    (held _).mpr (.inl ⟨"a;b", rfl, by decide⟩), split.trans (by decide), ?_⟩
  exact uncut "paid;on" (by simp) trivial

end Codec

end KeysetPaging

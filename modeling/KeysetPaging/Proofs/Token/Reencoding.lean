import KeysetPaging.Proofs.Token.Acceptance

/-!
# Accepted tokens written again

A token that was accepted need not be one that encoding writes: members may be
given by number, date-times with an offset, numbers with an exponent, names more
than once, and fields may be malformed.  Decoding leaves nothing of this behind.
What it gives can be recorded, so writing it as a token and reading that token
gives it again.  Only names that the model brings in and years beyond four digits
have no spelling in tokens.
-/

namespace KeysetPaging

/-- Maps with the same names in the same order, and identical values. -/
structure PropertyMap.Identical (left right : PropertyMap Value) : Prop where
  names : left.names = right.names
  values : ∀ name value, (name, value) ∈ left.entries →
    ∃ other, (name, other) ∈ right.entries ∧ value.identical other = true

/-- Enum types and their members have names that are free of a character. -/
def Model.EnumsAvoid (model : Model) (c : Char) : Prop :=
  ∀ fullName enum, model.enumType? fullName = some enum →
    c ∉ enum.fullName.toList ∧ ∀ member ∈ enum.members, c ∉ member.1.toList

theorem Entity.value_structured {typeName name : String}
    {values : PropertyMap Value} {value : Value}
    (member : (name, value) ∈ values.entries) :
    (structured typeName values).value name = value := by
  rw [Entity.value, property?, PropertyMap.get?_eq_some_iff.mpr member,
    Option.getD_some]

namespace Codec

variable {codec : Codec} {model : Model} {elementType property : String}

theorem field_not_mem_spelling {member : EnumMember}
    (avoided : model.EnumsAvoid codec.delimiters.field)
    (declared : model.DeclaresMember elementType property member) :
    codec.delimiters.field ∉ Literal.spelling (.enum member) := by
  obtain ⟨enum, earlier, later, _, ofModel, sameName, members, _⟩ :=
    declared.exists_first
  obtain ⟨notInType, notInMembers⟩ := avoided _ enum ofModel
  have listed : (member.member, member.value) ∈ enum.members := by
    rw [members]
    exact List.mem_append_right _ List.mem_cons_self
  intro inside
  rcases List.mem_append.mp inside with inType | inMember
  · rw [sameName] at inType
    exact notInType inType
  · rcases Text.mem_quote inMember with quote | inName
    · exact codec.valid.field_ne_quote quote
    · exact notInMembers _ listed inName

theorem canRecord_of_canYield {value : Value}
    (avoided : model.EnumsAvoid codec.delimiters.field)
    (years : ∀ instant, value = .instant instant → instant.HasFourDigitYear)
    (yielded : codec.CanYield model elementType property value) :
    codec.CanRecord model elementType property value := by
  cases value with
  | string text => exact ⟨yielded.1, not_or.mp yielded.2⟩
  | enum member => exact ⟨field_not_mem_spelling avoided yielded, yielded⟩
  | instant instant => exact years instant rfl
  | _ => trivial

theorem canRecord_of_decode {token : List Char} {context : TokenContext}
    {values : PropertyMap Value}
    (bound : context.elementType? = some elementType)
    (decoded : codec.decode token context = .ok values)
    (avoided : context.model.EnumsAvoid codec.delimiters.field)
    (years : ∀ name instant, (name, Value.instant instant) ∈ values.entries →
      instant.HasFourDigitYear)
    (typeName : String) :
    ∀ name ∈ values.names, codec.CanRecord context.model elementType name
      ((Entity.structured typeName values).value name) := by
  intro name listed
  obtain ⟨value, member⟩ := PropertyMap.mem_names_iff.mp listed
  rw [Entity.value_structured member]
  apply canRecord_of_canYield avoided _ (canYield_of_decode bound decoded member)
  rintro instant rfl
  exact years name instant member

/-- Writing an accepted token again is stable.  When a text is decoded, the values
written as a token, in the order of their names, are decoded as the same values:
the names in the same order, each with an identical value, numbers being identical
when they are equal. -/
theorem decode_again (codec : Codec) (model : Model) (elementType : String)
    (token : List Char) {values : PropertyMap Value}
    (decoded : codec.decode token ⟨model, some elementType⟩ = .ok values)
    (avoided : model.EnumsAvoid codec.delimiters.field)
    (years : ∀ name instant, (name, Value.instant instant) ∈ values.entries →
      instant.HasFourDigitYear)
    (typeName : String) :
    ∃ again,
      codec.decode (codec.encode (.structured typeName values) values.names)
          ⟨model, some elementType⟩ = .ok again ∧
        values.Identical again := by
  have bound : (TokenContext.mk model (some elementType)).elementType? =
      some elementType := rfl
  obtain ⟨again, reading, names, identical⟩ :=
    exists_decode_encode codec bound values.names_nodup
      (canName_of_decode bound decoded)
      (canRecord_of_decode bound decoded avoided years typeName)
  refine ⟨again, reading, names.symm, ?_⟩
  intro name value member
  have listed : name ∈ again.names := by
    rw [names]
    exact PropertyMap.mem_names_iff.mpr ⟨value, member⟩
  obtain ⟨other, inAgain⟩ := PropertyMap.mem_names_iff.mp listed
  refine ⟨other, inAgain, ?_⟩
  rw [← Entity.value_structured member]
  exact identical _ inAgain

/-- The instant `2024-01-02T01:04:05Z`. -/
def placedInstant : Instant where
  date := ⟨2024, 1, 2, by decide, by decide, by decide⟩
  time := ⟨1, 4, 5, 0, by decide, by decide, by decide, by decide⟩

/-- A closed order with a rank and the instant at which it was placed. -/
def rankedOrder : PropertyMap Value :=
  .ofList
    [("note", .string "b"), ("status", .enum ⟨"Sales.Status", "Closed", 5⟩),
      ("rank", .number ⟨15, 1⟩), ("placed", .instant placedInstant)]

/-- A note that is given twice, a status by its number, a number with an exponent,
a date-time two hours ahead, and a field without a value. -/
theorem decode_again_rankedOrder :
    let token := ("note:'a',status:'enumType'5,rank:15e-1,dropped," ++
      "placed:2024-01-02T03:04:05+02:00,note:'b'").toList
    let context : TokenContext := ⟨orderModel, some "Sales.Order"⟩
    Codec.default.decode token context = .ok rankedOrder ∧
      ∃ again,
        Codec.default.decode (Codec.default.encode
            (.structured "Sales.Order" rankedOrder) rankedOrder.names) context =
          .ok again ∧
        rankedOrder.Identical again := by
  intro token context
  have decoded : Codec.default.decode token context = .ok rankedOrder := by rfl
  refine ⟨decoded, decode_again _ _ _ _ decoded ?_ ?_ _⟩
  · intro fullName enum declared
    have listed : .enum enum ∈ orderModel.types :=
      List.mem_of_find?_eq_some (Model.enumType?_eq_some_iff.mp declared)
    simp only [orderModel, Model.add, Model.empty, List.mem_cons,
      SchemaType.enum.injEq, reduceCtorEq, List.not_mem_nil, false_or,
      or_false] at listed
    rw [listed]
    decide
  · intro name instant member
    rw [rankedOrder, PropertyMap.entries_ofList (by decide)] at member
    simp only [List.mem_cons, Prod.mk.injEq, Value.instant.injEq, reduceCtorEq,
      and_false, List.not_mem_nil, false_or, or_false] at member
    rw [member.2, Instant.HasFourDigitYear]
    decide

end Codec

end KeysetPaging

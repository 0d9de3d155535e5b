import KeysetPaging.Proofs.Literal.Acceptance
import KeysetPaging.Proofs.Token.RoundTrip

/-!
# What tokens are accepted

A client may send any text as a token, and what decoding makes of it is bounded
all the same.  A name comes of the part of a field before its first property
delimiter, a string of a literal that is a quoted text and does not begin with
the enum tag, and an enum member of a literal after the tag, which is read with
the type that the model declares.  So decoded names can be written again, decoded
strings are free of the field delimiter and of the tag, and the model declares
every decoded member.
-/

namespace KeysetPaging

theorem Model.DeclaresMember.exists_first {model : Model}
    {elementType property : String} {member : EnumMember}
    (declared : model.DeclaresMember elementType property member) :
    ∃ enum earlier later,
      model.propertyType? elementType property = some (.enum enum.fullName) ∧
        model.enumType? enum.fullName = some enum ∧
          member.typeName = enum.fullName ∧
            enum.members = earlier ++ (member.member, member.value) :: later ∧
              ∀ other ∈ earlier, other.1 ≠ member.member := by
  obtain ⟨ofProperty, enum, ofModel, numbered⟩ := declared
  obtain ⟨⟨name, value⟩, found, rfl⟩ := Option.map_eq_some_iff.mp numbered
  obtain ⟨rfl, earlier, later, members, first⟩ :=
    EnumType.memberNamed?_eq_some_iff.mp found
  have sameName := Model.fullName_of_enumType? ofModel
  refine ⟨enum, earlier, later, ?_, ?_, sameName.symm, members, first⟩
  · rw [sameName]
    exact ofProperty
  · rw [sameName]
    exact ofModel

namespace Codec

/-- A value that decoding can give a property. -/
def CanYield (codec : Codec) (model : Model) (elementType property : String) :
    Value → Prop
  | .string text => codec.delimiters.field ∉ text.toList ∧ ¬ ResemblesTag text
  | .enum member => model.DeclaresMember elementType property member
  | _ => True

variable {codec : Codec} {model : Model} {elementType property : String}

theorem canYield_of_unquoted {value : Value}
    (unquoted : Literal.IsUnquoted value) :
    codec.CanYield model elementType property value := by
  cases value with
  | string text => exact unquoted.elim
  | enum member => exact unquoted.elim
  | _ => trivial

/-- A field that is used has a name to write fields with, and its literal is free
of the field delimiter. -/
theorem canName_of_mem_fields {token name literal : List Char}
    (member : .usable name literal ∈ codec.fields token) :
    codec.CanName (String.ofList name) ∧ codec.delimiters.field ∉ literal := by
  obtain ⟨piece, inToken, usable⟩ := List.mem_map.mp member
  obtain ⟨rfl, absent, visible, _⟩ := readField_eq_usable_iff.mp usable
  have undivided : codec.delimiters.field ∉
      name ++ codec.delimiters.property :: literal :=
    fun inside => (Text.mem_of_mem_splitOn inToken inside).2 rfl
  rw [List.mem_append, List.mem_cons, not_or, not_or] at undivided
  obtain ⟨notInName, _, notInLiteral⟩ := undivided
  refine ⟨⟨?_, ?_, ?_⟩, notInLiteral⟩
  · rw [String.toList_ofList]
    exact visible
  · rw [String.toList_ofList]
    exact notInName
  · rw [String.toList_ofList]
    exact absent

theorem canYield_of_readTagged {literal : List Char} {value : Value}
    (read : readTagged model elementType property literal = .ok value) :
    codec.CanYield model elementType property value := by
  rw [readTagged] at read
  cases ofProperty : model.propertyType? elementType property with
  | none => simp [ofProperty] at read
  | some type =>
      cases type with
      | primitive kind => simp [ofProperty] at read
      | enum fullName =>
          simp only [ofProperty] at read
          rcases Literal.null_or_member_of_parseTyped read with
            rfl | ⟨member, enum, rfl, ofModel, rfl, first⟩
          · trivial
          · exact ⟨ofProperty, enum, ofModel, by rw [first, Option.map_some]⟩

theorem canYield_of_readValue {literal : List Char} {value : Value}
    (undivided : codec.delimiters.field ∉ literal)
    (read : readValue model elementType property literal = .ok value) :
    codec.CanYield model elementType property value := by
  rw [readValue] at read
  cases tagged : enumTag.isPrefixOf? literal with
  | some rest =>
      rw [tagged] at read
      exact canYield_of_readTagged read
  | none =>
      rw [tagged] at read
      have untagged := Text.isPrefixOf?_eq_none_iff.mp tagged
      -- A string has one literal, so what the literal is not, the string is not.
      rcases Literal.isUnquoted_or_string_of_parse read with
        unquoted | ⟨text, rfl, rfl⟩
      · exact canYield_of_unquoted unquoted
      · refine ⟨fun inside => undivided (Text.mem_quote_of_mem inside), ?_⟩
        rwa [← enumTag_prefix_quote_iff]

/-- What holds of the values held before and of every field that is read holds of
the values that result. -/
theorem forall_entries_of_readFields (Holds : String → Value → Prop)
    {fields : List Field} {values result : PropertyMap Value}
    (held : ∀ entry ∈ values.entries, Holds entry.1 entry.2)
    (step : ∀ name literal value, .usable name literal ∈ fields →
      readValue model elementType (String.ofList name) literal = .ok value →
      Holds (String.ofList name) value)
    (reading : readFields model elementType values fields = .ok result) :
    ∀ entry ∈ result.entries, Holds entry.1 entry.2 := by
  induction fields generalizing values with
  | nil =>
      cases reading
      exact held
  | cons field fields induction =>
      have later : ∀ name literal value, .usable name literal ∈ fields →
          readValue model elementType (String.ofList name) literal = .ok value →
          Holds (String.ofList name) value :=
        fun name literal value member =>
          step name literal value (List.mem_cons_of_mem _ member)
      cases field with
      | unvalued piece => exact induction held later reading
      | blank piece => exact induction held later reading
      | usable name literal =>
          obtain ⟨value, read, reading⟩ := Fallible.bind_eq_ok_iff.mp reading
          refine induction ?_ later reading
          intro entry member
          rcases PropertyMap.mem_of_mem_put member with rfl | old
          · exact step name literal value List.mem_cons_self read
          · exact held entry old

section Decode

variable {token : List Char} {context : TokenContext}
  {values : PropertyMap Value}

theorem forall_entries_of_decode
    (bound : context.elementType? = some elementType)
    (decoded : codec.decode token context = .ok values) :
    ∀ entry ∈ values.entries, codec.CanName entry.1 ∧
      codec.CanYield context.model elementType entry.1 entry.2 := by
  simp only [decode, bound] at decoded
  apply forall_entries_of_readFields (fun name value => codec.CanName name ∧
    codec.CanYield context.model elementType name value) _ _ decoded
  · simp [PropertyMap.empty]
  · intro name literal value member read
    obtain ⟨nameable, undivided⟩ := canName_of_mem_fields member
    exact ⟨nameable, canYield_of_readValue undivided read⟩

theorem canName_of_decode
    (bound : context.elementType? = some elementType)
    (decoded : codec.decode token context = .ok values) :
    ∀ name ∈ values.names, codec.CanName name := by
  intro name listed
  obtain ⟨value, member⟩ := PropertyMap.mem_names_iff.mp listed
  exact (forall_entries_of_decode bound decoded _ member).1

theorem canYield_of_decode
    (bound : context.elementType? = some elementType)
    (decoded : codec.decode token context = .ok values) {name : String}
    {value : Value} (member : (name, value) ∈ values.entries) :
    codec.CanYield context.model elementType name value :=
  (forall_entries_of_decode bound decoded _ member).2

end Decode

/-- A client cannot bring in what is not declared.  Whatever text is decoded, the
names are distinct and fit to be written again, strings are free of the field
delimiter and are not taken for the enum tag, and an enum member is the first of
its name in the enum type that the model declares for the property. -/
theorem declared_of_decode (codec : Codec) (model : Model)
    (elementType : String) (token : List Char) {values : PropertyMap Value}
    (decoded : codec.decode token ⟨model, some elementType⟩ = .ok values) :
    values.names.Nodup ∧
    (∀ name ∈ values.names, name.toList.all Text.isBlank = false ∧
      codec.delimiters.field ∉ name.toList ∧
        codec.delimiters.property ∉ name.toList) ∧
    (∀ name text, (name, Value.string text) ∈ values.entries →
      codec.delimiters.field ∉ text.toList ∧ text ≠ "enumType" ∧
        ¬ "enumType'".toList <+: text.toList) ∧
    ∀ name member, (name, Value.enum member) ∈ values.entries →
      ∃ enum earlier later,
        model.propertyType? elementType name = some (.enum enum.fullName) ∧
          model.enumType? enum.fullName = some enum ∧
            member.typeName = enum.fullName ∧
              enum.members = earlier ++ (member.member, member.value) :: later ∧
                ∀ other ∈ earlier, other.1 ≠ member.member := by
  refine ⟨values.names_nodup, ?_, ?_, ?_⟩
  · intro name listed
    obtain ⟨visible, notField, notProperty⟩ :=
      canName_of_decode rfl decoded name listed
    exact ⟨visible, notField, notProperty⟩
  · intro name text member
    obtain ⟨undivided, notResembling⟩ := canYield_of_decode rfl decoded member
    exact ⟨undivided, not_or.mp notResembling⟩
  · intro name value member
    apply Model.DeclaresMember.exists_first
    exact canYield_of_decode rfl decoded member

/-- A status by its number and a note with a quote. -/
theorem declared_of_decode_closedOrder :
    let token := "status:'enumType'5,note:'O''Neil: paid'".toList
    let status : EnumMember := ⟨"Sales.Status", "Closed", 5⟩
    Codec.default.decode token ⟨orderModel, some "Sales.Order"⟩ =
        .ok (.ofList
          [("status", .enum status), ("note", .string "O'Neil: paid")]) ∧
      ',' ∉ "O'Neil: paid".toList ∧
        ∃ enum earlier later,
          orderModel.enumType? "Sales.Status" = some enum ∧
            enum.members = earlier ++ ("Closed", 5) :: later := by
  intro token status
  have decoded : Codec.default.decode token ⟨orderModel, some "Sales.Order"⟩ =
      .ok (.ofList
        [("status", .enum status), ("note", .string "O'Neil: paid")]) := by
    rfl
  obtain ⟨_, _, strings, members⟩ := declared_of_decode _ _ _ _ decoded
  obtain ⟨undivided, _⟩ := strings "note" "O'Neil: paid" (by decide)
  obtain ⟨enum, earlier, later, _, ofModel, sameName, listed, _⟩ :=
    members "status" status (by decide)
  rw [← sameName] at ofModel
  exact ⟨decoded, undivided, enum, earlier, later, ofModel, listed⟩

end Codec

end KeysetPaging

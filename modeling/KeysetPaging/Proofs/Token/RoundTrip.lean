import KeysetPaging.Proofs.Literal.RoundTrip
import KeysetPaging.Proofs.Text.Quoted
import KeysetPaging.Proofs.Token.FieldByField

/-!
# Tokens read back

Decoding undoes encoding.  Nothing in a token is escaped, so this rests on the
delimiters: the field delimiter is no character of an unquoted literal, a quote
or a blank, and each field is cut at its first property delimiter, which its name
does not contain.  Only the texts that an application supplies, in strings and
enum members, can still bring in a field delimiter or look like the enum tag.
-/

namespace KeysetPaging

namespace Model

/-- A model declares an enum member for a property when the property has the
member's type, and the first member of that name has the same number. -/
def DeclaresMember (model : Model) (typeName property : String)
    (member : EnumMember) : Prop :=
  model.propertyType? typeName property = some (.enum member.typeName) ∧
    ∃ enum, model.enumType? member.typeName = some enum ∧
      (enum.memberNamed? member.member).map Prod.snd = some member.value

end Model

namespace Codec

/-- A name that fields can begin with. -/
structure CanName (codec : Codec) (name : String) : Prop where
  visible : name.toList.all Text.isBlank = false
  field_not_mem : codec.delimiters.field ∉ name.toList
  property_not_mem : codec.delimiters.property ∉ name.toList

/-- A value that a field of the given name can record.  Most values need no
condition. -/
def CanRecord (codec : Codec) (model : Model) (typeName property : String) :
    Value → Prop
  | .string text =>
      codec.delimiters.field ∉ text.toList ∧ text ≠ "enumType" ∧
        ¬ "enumType'".toList <+: text.toList
  | .enum member =>
      codec.delimiters.field ∉ Literal.spelling (.enum member) ∧
        model.DeclaresMember typeName property member
  | .instant instant => instant.HasFourDigitYear
  | _ => True

variable {codec : Codec} {model : Model} {typeName property : String}

theorem CanRecord.of_resolve?_eq {other : String} {value : Value}
    (recordable : codec.CanRecord model typeName property value)
    (sameType : model.resolve? other = model.resolve? typeName) :
    codec.CanRecord model other property value := by
  cases value with
  | enum member =>
      obtain ⟨whole, ofProperty, ofModel⟩ := recordable
      refine ⟨whole, ?_, ofModel⟩
      rw [Model.propertyType?, sameType]
      exact ofProperty
  | _ => exact recordable

theorem literal_of_ne_enum {value : Value}
    (notEnum : ∀ member, value ≠ .enum member) :
    literal value = Literal.spelling value := by
  cases value with
  | enum member => exact absurd rfl (notEnum member)
  | _ => rfl

theorem literal_of_unquoted {value : Value}
    (unquoted : Literal.IsUnquoted value) :
    literal value = Literal.spelling value := by
  apply literal_of_ne_enum
  rintro member rfl
  exact unquoted

theorem isPlain_of_mem_literal {value : Value}
    (unquoted : Literal.IsUnquoted value) {c : Char}
    (member : c ∈ literal value) : Text.IsPlain c := by
  rw [literal_of_unquoted unquoted] at member
  exact Literal.isPlain_of_mem_spelling unquoted member

theorem enumTag_plain_or_quote : ∀ c ∈ enumTag, c = '\'' ∨ Text.IsPlain c :=
  List.all_iff_forall_prop.mp (by decide)

theorem field_not_mem_literal {value : Value}
    (recordable : codec.CanRecord model typeName property value) :
    codec.delimiters.field ∉ literal value := by
  intro member
  rcases Literal.unquoted_or_text value with unquoted | ⟨text, rfl⟩ | ⟨value, rfl⟩
  · exact codec.valid.field_not_plain (isPlain_of_mem_literal unquoted member)
  · rcases Text.mem_quote member with quote | inside
    · exact codec.valid.field_ne_quote quote
    · exact recordable.1 inside
  · rcases List.mem_append.mp member with tag | inside
    · rcases enumTag_plain_or_quote _ tag with quote | plain
      · exact codec.valid.field_ne_quote quote
      · exact codec.valid.field_not_plain plain
    · exact recordable.1 inside

theorem literal_visible (value : Value) :
    (literal value).all Text.isBlank = false := by
  rcases Literal.unquoted_or_text value with unquoted | ⟨text, rfl⟩ | ⟨value, rfl⟩
  · rw [literal_of_unquoted unquoted]
    obtain ⟨c, member⟩ :=
      List.exists_mem_of_ne_nil _ (Literal.spelling_ne_nil value)
    exact Text.not_all_isBlank member (Text.isBlank_eq_false_of_isPlain
      (Literal.isPlain_of_mem_spelling unquoted member))
  · exact Text.not_all_isBlank List.mem_cons_self (by decide)
  · exact Text.not_all_isBlank List.mem_cons_self (by decide)

theorem readField_fieldText {name : String} (nameable : codec.CanName name)
    (value : Value) :
    codec.readField (codec.fieldText name value) =
      .usable name.toList (literal value) :=
  readField_eq_usable_iff.mpr
    ⟨rfl, nameable.property_not_mem, nameable.visible, literal_visible value⟩

theorem field_not_mem_fieldText {name : String} (nameable : codec.CanName name)
    {value : Value} (whole : codec.delimiters.field ∉ literal value) :
    codec.delimiters.field ∉ codec.fieldText name value := by
  obtain ⟨different, _⟩ := Delimiters.valid_iff.mp codec.valid
  intro member
  rcases List.mem_append.mp member with inName | rest
  · exact nameable.field_not_mem inName
  · rcases List.mem_cons.mp rest with same | inLiteral
    · exact different same
    · exact whole inLiteral

theorem fields_encode {entity : Entity} {names : List String}
    (nameable : ∀ name ∈ names, codec.CanName name)
    (whole : ∀ name ∈ names,
      codec.delimiters.field ∉ literal (entity.value name))
    (nonempty : names ≠ []) :
    codec.fields (codec.encode entity names) =
      names.map fun name =>
        .usable name.toList (literal (entity.value name)) := by
  have undivided : ∀ piece ∈ names.map
      (fun name => codec.fieldText name (entity.value name)),
      codec.delimiters.field ∉ piece := by
    intro piece member
    obtain ⟨name, listed, rfl⟩ := List.mem_map.mp member
    exact field_not_mem_fieldText (nameable name listed) (whole name listed)
  rw [fields, encode, List.splitOn_intercalate _ undivided (by simp [nonempty]),
    List.map_map]
  apply List.map_congr_left
  intro name listed
  exact readField_fieldText (nameable name listed) (entity.value name)

theorem not_enumTag_prefix_of_plain {text : List Char}
    (plain : ∀ c ∈ text, Text.IsPlain c) : ¬ enumTag <+: text := by
  intro begins
  have quote : '\'' ∈ text := begins.subset (by decide)
  exact Text.not_isPlain_quote (plain _ quote)

/-- A text whose quoted form begins as the enum tag does. -/
def ResemblesTag (text : String) : Prop :=
  text = "enumType" ∨ "enumType'".toList <+: text.toList

theorem enumTag_prefix_quote_iff {text : String} :
    enumTag <+: Text.quote text.toList ↔ ResemblesTag text := by
  have word : '\'' ∉ "enumType".toList := by decide
  rw [ResemblesTag, ← String.toList_inj]
  exact Text.prefix_quote_iff word

/-- The literals that begin with the enum tag. -/
theorem enumTag_prefix_literal_iff {value : Value} :
    enumTag <+: literal value ↔
      (∃ member, value = .enum member) ∨
        ∃ text, value = .string text ∧ ResemblesTag text := by
  rcases Literal.unquoted_or_text value with unquoted | ⟨text, rfl⟩ | ⟨member, rfl⟩
  · constructor
    · intro begins
      exact absurd begins (not_enumTag_prefix_of_plain fun _ =>
        isPlain_of_mem_literal unquoted)
    · rintro (⟨member, rfl⟩ | ⟨text, rfl, _⟩)
      · exact unquoted.elim
      · exact unquoted.elim
  · have quoted : enumTag <+: literal (.string text) ↔ ResemblesTag text :=
      enumTag_prefix_quote_iff
    simp [quoted]
  · have tagged : enumTag <+: literal (.enum member) := ⟨_, rfl⟩
    simp [tagged]

theorem isPrefixOf?_enumTag_enum (member : EnumMember) :
    enumTag.isPrefixOf? (literal (.enum member)) =
      some (Literal.spelling (.enum member)) :=
  List.isPrefixOf?_eq_some_iff_append_eq.mpr rfl

theorem isPrefixOf?_enumTag_literal {value : Value}
    (notEnum : ∀ member, value ≠ .enum member)
    (recordable : codec.CanRecord model typeName property value) :
    enumTag.isPrefixOf? (literal value) = none := by
  rw [Text.isPrefixOf?_eq_none_iff, enumTag_prefix_literal_iff]
  rintro (⟨member, rfl⟩ | ⟨text, rfl, resembling⟩)
  · exact notEnum member rfl
  · exact resembling.elim recordable.2.1 recordable.2.2

theorem readTagged_spelling {member : EnumMember}
    (declared : model.DeclaresMember typeName property member) :
    readTagged model typeName property (Literal.spelling (.enum member)) =
      .ok (.enum member) := by
  obtain ⟨ofProperty, enum, ofModel, numbered⟩ := declared
  obtain ⟨⟨name, value⟩, found, same⟩ := Option.map_eq_some_iff.mp numbered
  have first : enum.memberNamed? member.member = some (name, member.value) := by
    rw [found, ← same]
  rw [readTagged, ofProperty]
  exact Literal.parseTyped_spelling ofModel first

theorem readValue_literal {value : Value}
    (recordable : codec.CanRecord model typeName property value) :
    ∃ read, readValue model typeName property (literal value) = .ok read ∧
      value.identical read = true := by
  by_cases isEnum : ∃ member, value = .enum member
  · obtain ⟨member, rfl⟩ := isEnum
    refine ⟨.enum member, ?_, Value.identical_refl _⟩
    rw [readValue, isPrefixOf?_enumTag_enum]
    exact readTagged_spelling recordable.2
  · have notEnum : ∀ member, value ≠ .enum member :=
      fun member same => isEnum ⟨member, same⟩
    have shaped : Literal.HasShape value := by
      cases value with
      | enum member => exact absurd rfl (notEnum member)
      | instant instant => exact recordable
      | _ => trivial
    rw [readValue, isPrefixOf?_enumTag_literal notEnum recordable,
      literal_of_ne_enum notEnum]
    exact Literal.parse_spelling shaped

theorem readFields_usable {entity : Entity} {names : List String}
    (values : PropertyMap Value) (distinct : (values.names ++ names).Nodup)
    (recordable : ∀ name ∈ names,
      codec.CanRecord model typeName name (entity.value name)) :
    ∃ result added,
      readFields model typeName values
          (names.map fun name =>
            .usable name.toList (literal (entity.value name))) = .ok result ∧
        result.entries = values.entries ++ added ∧
          added.map Prod.fst = names ∧
            ∀ field ∈ added, (entity.value field.1).identical field.2 = true := by
  induction names generalizing values with
  | nil => exact ⟨values, [], rfl, by simp, rfl, by simp⟩
  | cons name names induction =>
      obtain ⟨read, reading, same⟩ :=
        readValue_literal (recordable name List.mem_cons_self)
      have absent : name ∉ values.names := by
        intro member
        exact (List.nodup_append.mp distinct).2.2 name member name
          List.mem_cons_self rfl
      have appended : (values.insert name read).entries =
          values.entries ++ [(name, read)] :=
        PropertyMap.put_of_not_mem absent read
      have stillDistinct :
          ((values.insert name read).names ++ names).Nodup := by
        rw [PropertyMap.names, appended]
        simpa [PropertyMap.names] using distinct
      obtain ⟨result, added, rest, entries, listed, identical⟩ :=
        induction _ stillDistinct fun other member =>
          recordable other (List.mem_cons_of_mem _ member)
      refine ⟨result, (name, read) :: added, ?_, ?_, by simp [listed], ?_⟩
      · simp only [List.map_cons, readFields, String.ofList_toList, reading,
          Fallible.ok_bind]
        exact rest
      · rw [entries, appended, List.append_assoc, List.singleton_append]
      · intro field member
        rcases List.mem_cons.mp member with rfl | inRest
        · exact same
        · exact identical field inRest

/-- Decoding a token that records properties of an entity gives these properties
with the values of the entity, where the element type declares its enums. -/
theorem exists_decode_encode (codec : Codec) {context : TokenContext}
    {elementType : String} {entity : Entity} {names : List String}
    (bound : context.elementType? = some elementType)
    (distinct : names.Nodup)
    (nameable : ∀ name ∈ names, codec.CanName name)
    (recordable : ∀ name ∈ names,
      codec.CanRecord context.model elementType name (entity.value name)) :
    ∃ values, codec.decode (codec.encode entity names) context = .ok values ∧
      values.names = names ∧
        ∀ field ∈ values.entries,
          (entity.value field.1).identical field.2 = true := by
  by_cases nonempty : names = []
  · refine ⟨.empty, ?_, by rw [nonempty]; rfl, by simp [PropertyMap.empty]⟩
    simp [decode, bound, nonempty, encode, fields, readField, Text.cutAt,
      Text.cutWhere, readFields]
  · obtain ⟨result, added, reading, entries, listed, identical⟩ :=
      readFields_usable .empty
        (by simpa [PropertyMap.names, PropertyMap.empty] using distinct)
        recordable
    have whole : result.entries = added := entries
    have undivided : ∀ name ∈ names,
        codec.delimiters.field ∉ literal (entity.value name) :=
      fun name member => field_not_mem_literal (recordable name member)
    refine ⟨result, ?_, by rw [PropertyMap.names, whole, listed], ?_⟩
    · rw [decode, bound, fields_encode nameable undivided nonempty]
      exact reading
    · rw [whole]
      exact identical

/-- A model of orders and what can become of them. -/
def orderModel : Model :=
  let status : EnumType :=
    { space := "Sales", name := "Status", members := [("Open", 0), ("Closed", 5)] }
  let order : EntityType :=
    (EntityType.new "Sales" "Order")
      |>.enumProperty "status" "Sales.Status"
      |>.property "note" .string
  (Model.empty.add (.enum status)).add (.entity order)

/-- A closed order whose note holds quotes and a property delimiter. -/
def closedOrder : Entity :=
  .structured "Sales.Order" (.ofList
    [("status", .enum ⟨"Sales.Status", "Closed", 5⟩),
      ("note", .string "O'Neil: paid")])

end Codec

end KeysetPaging

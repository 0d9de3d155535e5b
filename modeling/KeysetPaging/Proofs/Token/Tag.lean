import KeysetPaging.Proofs.Token.Acceptance

/-!
# The enum tag

A field is read as an enum member when its literal begins with the tag.  The tag
is spelled like a quoted text, so the literals of some strings begin with it too:
the text that the tag quotes, and texts that begin with it and a quote.  Such a
string does not come back from a token, no more than one with the field delimiter
does, and every other string comes back.
-/

namespace KeysetPaging

theorem Value.eq_of_identical_string {text : String} {value : Value}
    (same : (Value.string text).identical value = true) :
    value = .string text := by
  cases value with
  | string other =>
      simp only [identical, beq_iff_eq] at same
      exact same.symm
  | _ => simp [identical] at same

namespace Codec

/-- A field that is read as an enum member, with the declared type. -/
def Field.IsTagged : Field → Prop
  | .usable _ literal => (enumTag.isPrefixOf? literal).isSome = true
  | _ => False

theorem isTagged_usable_iff {name literal : List Char} :
    (Field.usable name literal).IsTagged ↔ enumTag <+: literal := by
  rw [Field.IsTagged, List.isSome_isPrefixOf?_eq_isPrefixOf,
    List.isPrefixOf_iff_prefix]

/-- A token that is decoded as the names it records, in order, with the values
recorded. -/
def ReadsBack (codec : Codec) (context : TokenContext) (entity : Entity)
    (names : List String) : Prop :=
  ∃ values, codec.decode (codec.encode entity names) context = .ok values ∧
    values.names = names ∧
      ∀ field ∈ values.entries, (entity.value field.1).identical field.2 = true

variable {codec : Codec}

/-- The fields of a token that are read as enum members record enum members, or
strings that resemble the tag. -/
theorem isTagged_fields_encode {entity : Entity} {names : List String}
    (nonempty : names ≠ []) (nameable : ∀ name ∈ names, codec.CanName name)
    (whole : ∀ name ∈ names,
      codec.delimiters.field ∉ literal (entity.value name)) :
    List.Forall₂ (fun name field => field.IsTagged ↔
        (∃ member, entity.value name = .enum member) ∨
          ∃ text, entity.value name = .string text ∧ ResemblesTag text)
      names (codec.fields (codec.encode entity names)) := by
  rw [fields_encode nameable whole nonempty, List.forall₂_map_right_iff,
    List.forall₂_same]
  intro name _
  exact isTagged_usable_iff.trans enumTag_prefix_literal_iff

/-- Strings that come back from a token are free of the field delimiter and do
not resemble the tag. -/
theorem string_of_readsBack {context : TokenContext} {elementType : String}
    {entity : Entity} {names : List String}
    (bound : context.elementType? = some elementType)
    (back : codec.ReadsBack context entity names) {name text : String}
    (listed : name ∈ names) (recorded : entity.value name = .string text) :
    codec.delimiters.field ∉ text.toList ∧ ¬ ResemblesTag text := by
  obtain ⟨values, decoded, rfl, identical⟩ := back
  obtain ⟨value, member⟩ := PropertyMap.mem_names_iff.mp listed
  have same := identical _ member
  rw [recorded] at same
  obtain rfl : value = .string text := Value.eq_of_identical_string same
  exact canYield_of_decode bound decoded member

/-- Where every other value can be recorded, a token comes back exactly if its
strings are free of the field delimiter and do not resemble the tag. -/
theorem readsBack_iff {context : TokenContext} {elementType : String}
    {entity : Entity} {names : List String}
    (bound : context.elementType? = some elementType) (distinct : names.Nodup)
    (nameable : ∀ name ∈ names, codec.CanName name)
    (others : ∀ name ∈ names, (∃ text, entity.value name = .string text) ∨
      codec.CanRecord context.model elementType name (entity.value name)) :
    codec.ReadsBack context entity names ↔
      ∀ name ∈ names, ∀ text, entity.value name = .string text →
        codec.delimiters.field ∉ text.toList ∧ ¬ ResemblesTag text := by
  constructor
  · intro back name listed text recorded
    exact string_of_readsBack bound back listed recorded
  · intro clear
    apply exists_decode_encode codec bound distinct nameable
    intro name listed
    rcases others name listed with ⟨text, recorded⟩ | recordable
    · obtain ⟨undivided, notResembling⟩ := clear name listed text recorded
      rw [recorded]
      exact ⟨undivided, not_or.mp notResembling⟩
    · exact recordable

/-- What the enum tag tells.  The literals that begin with it are those of enum
members and of strings that resemble the tag, so exactly the fields that record
one of these are read as enum members; and the strings that do not come back from
a token are those with the field delimiter and those that resemble the tag. -/
theorem tagged_iff_enum_or_resembling (codec : Codec) :
    (∀ value : Value, enumTag <+: literal value ↔
      (∃ member, value = .enum member) ∨
        ∃ text, value = .string text ∧ ResemblesTag text) ∧
    (∀ (entity : Entity) (names : List String), names ≠ [] →
      (∀ name ∈ names, codec.CanName name) →
      (∀ name ∈ names, codec.delimiters.field ∉ literal (entity.value name)) →
      List.Forall₂ (fun name field => field.IsTagged ↔
          (∃ member, entity.value name = .enum member) ∨
            ∃ text, entity.value name = .string text ∧ ResemblesTag text)
        names (codec.fields (codec.encode entity names))) ∧
    ∀ (context : TokenContext) (elementType : String) (entity : Entity)
      (names : List String), context.elementType? = some elementType →
      names.Nodup → (∀ name ∈ names, codec.CanName name) →
      (∀ name ∈ names, (∃ text, entity.value name = .string text) ∨
        codec.CanRecord context.model elementType name (entity.value name)) →
      (codec.ReadsBack context entity names ↔
        ∀ name ∈ names, ∀ text, entity.value name = .string text →
          codec.delimiters.field ∉ text.toList ∧ ¬ ResemblesTag text) := by
  refine ⟨fun value => enumTag_prefix_literal_iff, ?_, ?_⟩
  · intro entity names nonempty nameable whole
    exact isTagged_fields_encode nonempty nameable whole
  · intro context elementType entity names bound distinct nameable others
    exact readsBack_iff bound distinct nameable others

/-- An order with a note. -/
def notedOrder (text : String) : Entity :=
  .structured "Sales.Order" (.ofList [("note", .string text)])

theorem value_notedOrder (text : String) :
    (notedOrder text).value "note" = .string text := by
  rfl

/-- A note that begins as the text in the tag comes back, unless it is that text. -/
theorem tagged_iff_enum_or_resembling_notes :
    let context : TokenContext := ⟨orderModel, some "Sales.Order"⟩
    Codec.default.ReadsBack context (notedOrder "enumTypes") ["note"] ∧
      ¬ Codec.default.ReadsBack context (notedOrder "enumType") ["note"] ∧
      ∃ field, Codec.default.fields
          (Codec.default.encode (notedOrder "enumType") ["note"]) = [field] ∧
        field.IsTagged := by
  intro context
  obtain ⟨_, tags, back⟩ := tagged_iff_enum_or_resembling .default
  have nameable : ∀ name ∈ ["note"], Codec.default.CanName name := by
    intro name member
    rw [List.mem_singleton.mp member]
    exact ⟨by decide, by decide, by decide⟩
  have backIff (text : String) :
      Codec.default.ReadsBack context (notedOrder text) ["note"] ↔
        ',' ∉ text.toList ∧ ¬ ResemblesTag text := by
    rw [back context "Sales.Order" _ _ rfl (by decide) nameable]
    · simp [value_notedOrder, Codec.default]
    · intro name member
      rw [List.mem_singleton.mp member]
      exact .inl ⟨text, rfl⟩
  refine ⟨(backIff _).mpr ⟨by decide, ?_⟩, ?_, ?_⟩
  · rintro (same | begins)
    · exact absurd same (by decide)
    · exact absurd begins (by decide)
  · intro readBack
    exact ((backIff _).mp readBack).2 (.inl rfl)
  · have whole : ∀ name ∈ ["note"], ',' ∉
        literal ((notedOrder "enumType").value name) := by
      intro name member
      rw [List.mem_singleton.mp member]
      decide
    have tagged := tags (notedOrder "enumType") ["note"] (by simp) nameable whole
    obtain ⟨field, rest, tag, none, fields⟩ :=
      List.forall₂_cons_left_iff.mp tagged
    rw [List.forall₂_nil_left_iff.mp none] at fields
    exact ⟨field, fields, tag.mpr (.inr ⟨_, rfl, .inl rfl⟩)⟩

/-- The text in the tag is a string without a field delimiter, its literal begins
with the tag, and the token that records it is refused. -/
theorem decode_encode_resemblingNote :
    let context : TokenContext := ⟨orderModel, some "Sales.Order"⟩
    ',' ∉ "enumType".toList ∧ enumTag <+: literal (.string "enumType") ∧
      Codec.default.decode
          (Codec.default.encode (notedOrder "enumType") ["note"]) context =
        .error (.notAnEnum "note") ∧
      ¬ ∀ value : Value,
        enumTag <+: literal value ↔ ∃ member, value = .enum member := by
  intro context
  have tagged : enumTag <+: literal (.string "enumType") := ⟨[], rfl⟩
  refine ⟨by decide, tagged, rfl, ?_⟩
  intro unambiguous
  obtain ⟨member, same⟩ := (unambiguous _).mp tagged
  cases same

end Codec

end KeysetPaging

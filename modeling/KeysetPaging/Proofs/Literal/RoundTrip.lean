import KeysetPaging.Proofs.Calendar.Text
import KeysetPaging.Proofs.Decimal.Text
import KeysetPaging.Proofs.Fallible
import KeysetPaging.Proofs.Literal.Shape
import KeysetPaging.Proofs.Value.Order

/-!
# Literals read back

The literal of a value is read back as the value.  Its own reader takes it, and
since unquoted literals have one shape at most, no reader that is asked before
takes it for something else.  Enum literals are read with the type that the model
declares.
-/

namespace KeysetPaging

namespace Text

theorem not_isPlain_quote : ¬ IsPlain '\'' := by
  decide

end Text

namespace Literal

/-- The values whose literals hold no text that an application supplies. -/
def IsUnquoted : Value → Prop
  | .string _ => False
  | .enum _ => False
  | _ => True

theorem unquoted_or_text (value : Value) :
    IsUnquoted value ∨ (∃ text, value = .string text) ∨
      ∃ member, value = .enum member := by
  cases value with
  | string text => exact .inr (.inl ⟨text, rfl⟩)
  | enum member => exact .inr (.inr ⟨member, rfl⟩)
  | _ => exact .inl trivial

theorem isPlain_of_mem_spelling {value : Value} (unquoted : IsUnquoted value)
    {c : Char} (member : c ∈ spelling value) : Text.IsPlain c := by
  cases value with
  | null =>
      have word : ∀ c ∈ nullText, Text.IsPlain c :=
        List.all_iff_forall_prop.mp (by decide)
      exact word c member
  | bool value =>
      have word : ∀ c ∈ boolText value, Text.IsPlain c := by
        cases value <;> exact List.all_iff_forall_prop.mp (by decide)
      exact word c member
  | number number =>
      exact Text.isPlain_of_isFigure (Decimal.isFigure_of_mem_spelling member)
  | guid guid => exact Guid.isPlain_of_mem_spelling member
  | instant instant => exact Instant.isPlain_of_mem_spelling member
  | date date =>
      exact Text.isPlain_of_isFigure (Date.isFigure_of_mem_spelling member)
  | time time =>
      exact Text.isPlain_of_isFigure (TimeOfDay.isFigure_of_mem_spelling member)
  | string text => exact unquoted.elim
  | enum member => exact unquoted.elim

theorem spelling_ne_nil (value : Value) : spelling value ≠ [] := by
  cases value with
  | null => decide
  | bool value => cases value <;> decide
  | number number =>
      obtain ⟨c, rest, text, _⟩ := number.exists_spelling_eq_cons
      exact List.ne_nil_of_mem (text ▸ List.mem_cons_self)
  | guid guid => exact List.ne_nil_of_mem guid.hyphen_mem_spelling
  | instant instant => exact List.ne_nil_of_mem instant.hyphen_mem_spelling
  | date date => exact List.ne_nil_of_mem date.hyphen_mem_spelling
  | time time => exact List.ne_nil_of_mem time.colon_mem_spelling
  | string text => simp [spelling, Text.quote]
  | enum member => simp [spelling, Text.quote]

theorem number?_spelling (number : Decimal) :
    ∃ read, number? number.spelling = some read ∧
      Ord.compare number read = .eq := by
  obtain ⟨c, rest, text, first⟩ := number.exists_spelling_eq_cons
  obtain ⟨read, denoted, same⟩ := number.ofText?_spelling
  refine ⟨read, ?_, same⟩
  rw [← denoted, text, number?, if_pos]
  exact first.imp_right .inl

/-- What reading a literal by its shape needs of the value.  Date-times have no
spelling for years beyond four digits, and enum members no shape. -/
def HasShape : Value → Prop
  | .instant instant => instant.HasFourDigitYear
  | .enum _ => False
  | _ => True

/-- A literal is read back as its value, numbers as an equal number. -/
theorem parse_spelling {value : Value} (shaped : HasShape value) :
    ∃ read, parse (spelling value) = .ok read ∧ value.identical read = true := by
  have exactly (read : value? (spelling value) = some value) :
      ∃ read, parse (spelling value) = .ok read ∧
        value.identical read = true :=
    ⟨value, by rw [parse, read, orInvalid], value.identical_refl⟩
  cases value with
  | null => exact exactly rfl
  | bool value => cases value <;> exact exactly rfl
  | number number =>
      obtain ⟨read, denoted, same⟩ := number?_spelling number
      refine ⟨.number read, ?_, beq_iff_eq.mpr same⟩
      rw [parse, spelling, value?_of_denotes (.number denoted), orInvalid]
  | guid guid =>
      exact exactly (value?_of_denotes (.guid guid.ofGrouped?_spelling))
  | instant instant =>
      exact exactly
        (value?_of_denotes (.instant (Instant.ofText?_spelling shaped)))
  | date date => exact exactly (value?_of_denotes (.date date.ofText?_spelling))
  | time time => exact exactly (value?_of_denotes (.time time.ofText?_spelling))
  | string text => exact exactly (value?_string text)
  | enum member => exact shaped.elim

/-- The literal of an enum member is read back when the model's type of that
name has the member's number for the first member of its name. -/
theorem parseTyped_spelling {model : Model} {enum : EnumType}
    {member : EnumMember} {name : String}
    (declared : model.enumType? member.typeName = some enum)
    (found : enum.memberNamed? member.member = some (name, member.value)) :
    parseTyped model (.enum member.typeName) (spelling (.enum member)) =
      .ok (.enum member) := by
  have sameName := Model.fullName_of_enumType? declared
  have notNull : spelling (.enum member) ≠ nullText := by
    intro same
    have quote : '\'' ∈ spelling (.enum member) := by
      simp [spelling, Text.quote]
    rw [same] at quote
    exact absurd quote (by decide)
  have stripped : enum.fullName.toList.isPrefixOf? (spelling (.enum member)) =
      some (Text.quote member.member.toList) := by
    rw [sameName]
    exact List.isPrefixOf?_eq_some_iff_append_eq.mpr rfl
  have read : string? (Text.quote member.member.toList) =
      some member.member := by
    rw [string?, Text.unquote?_quote, Option.map_some, String.ofList_toList]
  have named : memberName enum (spelling (.enum member)) =
      .ok member.member := by
    simp only [memberName, stripped, read, orInvalid]
  have whole : enumMember enum (spelling (.enum member)) = .ok member := by
    simp only [enumMember, named, Fallible.ok_bind, found, sameName]
  simp [parseTyped, notNull, declared, whole, Except.map]

end Literal

end KeysetPaging

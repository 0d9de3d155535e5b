import KeysetPaging.Proofs.Literal.RoundTrip
import KeysetPaging.Proofs.Text.Quoted

/-!
# What literals are accepted

A literal without a declared type is a string exactly if it is the string's own
quoted text, and it is never an enum member.  A literal of an enum type is null
or a member that the model's type of that name declares, in whatever spelling it
is given: after the name of the type, alone, or by its number.
-/

namespace KeysetPaging

namespace EnumType

theorem memberNamed?_eq_some_iff {enum : EnumType} {name : String}
    {member : String × Int64} :
    enum.memberNamed? name = some member ↔
      member.1 = name ∧ ∃ earlier later,
        enum.members = earlier ++ member :: later ∧
          ∀ other ∈ earlier, other.1 ≠ name := by
  simp [memberNamed?, List.find?_eq_some_iff_append]

end EnumType

namespace Literal

theorem string?_eq_some_iff {text : List Char} {value : String} :
    string? text = some value ↔ text = Text.quote value.toList := by
  rw [string?, Option.map_eq_some_iff]
  constructor
  · rintro ⟨inner, unquoted, rfl⟩
    rw [String.toList_ofList]
    exact Text.unquote?_eq_some_iff.mp unquoted
  · rintro rfl
    exact ⟨value.toList, Text.unquote?_quote _, String.ofList_toList⟩

theorem orInvalid_eq_ok_iff {α : Type} {text : List Char} {reading : Option α}
    {value : α} : orInvalid text reading = .ok value ↔ reading = some value := by
  cases reading with
  | none => simp [orInvalid]
  | some read => simp [orInvalid]

theorem isUnquoted_of_unquoted? {text : List Char} {value : Value}
    (read : unquoted? text = some value) : IsUnquoted value := by
  cases unquoted?_eq_some_iff.mp read with
  | _ => trivial

/-- A value that is read by shape comes of a literal without quotes, unless it is
a string. -/
theorem isUnquoted_or_string_of_value? {text : List Char} {value : Value}
    (read : value? text = some value) :
    IsUnquoted value ∨
      ∃ string, value = .string string ∧ text = Text.quote string.toList := by
  rw [value?] at read
  by_cases isNull : text = nullText
  · rw [if_pos isNull] at read
    cases read
    exact .inl trivial
  rw [if_neg isNull] at read
  cases word : bool? text with
  | some value =>
      rw [word] at read
      cases read
      exact .inl trivial
  | none =>
      simp only [word] at read
      by_cases quoted : text.head? = some '\''
      · rw [if_pos quoted] at read
        obtain ⟨string, unquoted, rfl⟩ := Option.map_eq_some_iff.mp read
        exact .inr ⟨string, rfl, string?_eq_some_iff.mp unquoted⟩
      · rw [if_neg quoted] at read
        exact .inl (isUnquoted_of_unquoted? read)

theorem isUnquoted_or_string_of_parse {text : List Char} {value : Value}
    (read : parse text = .ok value) :
    IsUnquoted value ∨
      ∃ string, value = .string string ∧ text = Text.quote string.toList :=
  isUnquoted_or_string_of_value? (orInvalid_eq_ok_iff.mp read)

theorem eq_of_enumMember {enum : EnumType} {text : List Char}
    {member : EnumMember} (read : enumMember enum text = .ok member) :
    member.typeName = enum.fullName ∧
      enum.memberNamed? member.member = some (member.member, member.value) := by
  obtain ⟨name, _, found⟩ := Fallible.bind_eq_ok_iff.mp read
  cases named : enum.memberNamed? name with
  | none => simp [named] at found
  | some declared =>
      simp only [named, Except.ok.injEq] at found
      subst found
      obtain ⟨sameName, _⟩ := EnumType.memberNamed?_eq_some_iff.mp named
      refine ⟨rfl, ?_⟩
      rw [named, ← sameName]

theorem null_or_member_of_parseTyped {model : Model} {fullName : String}
    {text : List Char} {value : Value}
    (read : parseTyped model (.enum fullName) text = .ok value) :
    value = .null ∨ ∃ member enum, value = .enum member ∧
      model.enumType? fullName = some enum ∧ member.typeName = fullName ∧
        enum.memberNamed? member.member =
          some (member.member, member.value) := by
  rw [parseTyped] at read
  by_cases isNull : text = nullText
  · rw [if_pos isNull] at read
    cases read
    exact .inl rfl
  rw [if_neg isNull] at read
  cases declared : model.enumType? fullName with
  | none => simp [declared] at read
  | some enum =>
      simp only [declared] at read
      obtain ⟨member, found, rfl⟩ := Fallible.map_eq_ok_iff.mp read
      obtain ⟨sameType, first⟩ := eq_of_enumMember found
      refine .inr ⟨member, enum, rfl, rfl, ?_, first⟩
      rw [sameType, Model.fullName_of_enumType? declared]

end Literal

end KeysetPaging

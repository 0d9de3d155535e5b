import KeysetPaging.Proofs.Fallible
import KeysetPaging.Proofs.PropertyMap
import KeysetPaging.Token.Codec
import Mathlib.Tactic.SplitIfs

/-!
# Tokens read field by field

Decoding a token that is joined of two comes to decoding the first, then the
second, and inserting what the second holds into what the first holds.  So the
first error is the one reported, a name keeps its first place and takes its last
value, and a piece that is no field can be put in or left out at every boundary
of fields.
-/

namespace KeysetPaging.Codec

/-- The pieces that are no fields. -/
inductive IsVoid (codec : Codec) : List Char → Prop where
  | unvalued {piece : List Char} :
      codec.delimiters.property ∉ piece → IsVoid codec piece
  | blankName {name literal : List Char} :
      codec.delimiters.property ∉ name → name.all Text.isBlank = true →
      IsVoid codec (name ++ codec.delimiters.property :: literal)
  | blankLiteral {name literal : List Char} :
      codec.delimiters.property ∉ name → literal.all Text.isBlank = true →
      IsVoid codec (name ++ codec.delimiters.property :: literal)

variable {codec : Codec} {model : Model} {elementType : String}

theorem readField_eq_usable_iff {piece name literal : List Char} :
    codec.readField piece = .usable name literal ↔
      piece = name ++ codec.delimiters.property :: literal ∧
        codec.delimiters.property ∉ name ∧
          name.all Text.isBlank = false ∧ literal.all Text.isBlank = false := by
  constructor
  · intro usable
    cases cut : Text.cutAt codec.delimiters.property piece with
    | mk front back =>
        cases back with
        | none => simp [readField, cut] at usable
        | some back =>
            simp only [readField, cut] at usable
            split_ifs at usable with blank
            cases usable
            obtain ⟨whole, absent⟩ := Text.cutAt_eq_some_iff.mp cut
            simp only [Bool.or_eq_true, not_or, Bool.not_eq_true] at blank
            exact ⟨whole, absent, blank.2, blank.1⟩
  · rintro ⟨rfl, absent, named, valued⟩
    simp [readField, Text.cutAt_append absent, named, valued]

theorem fields_append (codec : Codec) (first second : List Char) :
    codec.fields (first ++ codec.delimiters.field :: second) =
      codec.fields first ++ codec.fields second := by
  rw [fields, List.splitOn_append_cons_self, List.map_append]
  rfl

theorem fields_of_undivided {piece : List Char}
    (undivided : codec.delimiters.field ∉ piece) :
    codec.fields piece = [codec.readField piece] := by
  rw [fields, List.splitOn_eq_singleton undivided]
  rfl

theorem readFields_append (values : PropertyMap Value)
    (first second : List Field) :
    readFields model elementType values (first ++ second) = (do
      let values ← readFields model elementType values first
      readFields model elementType values second) := by
  induction first generalizing values with
  | nil => rfl
  | cons field first induction =>
      cases field with
      | unvalued piece => exact induction values
      | blank piece => exact induction values
      | usable name literal =>
          rw [List.cons_append, readFields, readFields]
          cases readValue model elementType (String.ofList name) literal with
          | error fault => rfl
          | ok value => exact induction _

theorem readFields_of_isVoid {piece : List Char} (void : codec.IsVoid piece)
    (values : PropertyMap Value) :
    readFields model elementType values [codec.readField piece] =
      .ok values := by
  cases void with
  | unvalued absent =>
      rw [readField, Text.cutAt_of_not_mem absent]
      rfl
  | blankName absent blank =>
      simp only [readField, Text.cutAt_append absent, blank, Bool.or_true,
        if_true]
      rfl
  | blankLiteral absent blank =>
      simp only [readField, Text.cutAt_append absent, blank, Bool.true_or,
        if_true]
      rfl

/-- What fields hold does not depend on the values they are added to. -/
theorem readFields_insertAll (values held : PropertyMap Value)
    (fields : List Field) :
    readFields model elementType (values.insertAll held.entries) fields = (do
      let added ← readFields model elementType held fields
      .ok (values.insertAll added.entries)) := by
  induction fields generalizing held with
  | nil => rfl
  | cons field fields induction =>
      cases field with
      | unvalued piece => exact induction held
      | blank piece => exact induction held
      | usable name literal =>
          rw [readFields, readFields]
          cases readValue model elementType (String.ofList name) literal with
          | error fault => rfl
          | ok value =>
              simp only [Fallible.ok_bind, ← PropertyMap.insertAll_insert]
              exact induction _

theorem decode_append (codec : Codec) (context : TokenContext)
    (first second : List Char) :
    codec.decode (first ++ codec.delimiters.field :: second) context = (do
      let values ← codec.decode first context
      let added ← codec.decode second context
      .ok (values.insertAll added.entries)) := by
  cases bound : context.elementType? with
  | none => simp only [decode, bound, Fallible.error_bind]
  | some elementType =>
      simp only [decode, bound, fields_append, readFields_append]
      cases readFields context.model elementType .empty (codec.fields first) with
      | error fault => rfl
      | ok values => exact readFields_insertAll values .empty _

theorem decode_of_isVoid {piece : List Char} (void : codec.IsVoid piece)
    (undivided : codec.delimiters.field ∉ piece) {context : TokenContext}
    (bound : context.elementType? = some elementType) :
    codec.decode piece context = .ok .empty := by
  simp only [decode, bound, fields_of_undivided undivided]
  exact readFields_of_isVoid void .empty

theorem decode_of_usable {name literal : List Char}
    (absent : codec.delimiters.property ∉ name)
    (named : name.all Text.isBlank = false)
    (valued : literal.all Text.isBlank = false)
    (undivided : codec.delimiters.field ∉
      name ++ codec.delimiters.property :: literal)
    {context : TokenContext}
    (bound : context.elementType? = some elementType) :
    codec.decode (name ++ codec.delimiters.property :: literal) context = (do
      let value ← readValue context.model elementType (String.ofList name) literal
      .ok (PropertyMap.empty.insert (String.ofList name) value)) := by
  have usable : codec.readField (name ++ codec.delimiters.property :: literal) =
      .usable name literal :=
    readField_eq_usable_iff.mpr ⟨rfl, absent, named, valued⟩
  simp only [decode, bound, fields_of_undivided undivided, usable]
  rfl

theorem decode_of_unbound {context : TokenContext}
    (unbound : context.elementType? = none) (token : List Char) :
    codec.decode token context = .error .contextUnbound := by
  simp only [decode, unbound]

theorem decode_cons_isVoid {piece : List Char} (void : codec.IsVoid piece)
    (undivided : codec.delimiters.field ∉ piece) (context : TokenContext)
    (second : List Char) :
    codec.decode (piece ++ codec.delimiters.field :: second) context =
      codec.decode second context := by
  cases bound : context.elementType? with
  | none => rw [decode_of_unbound bound, decode_of_unbound bound]
  | some elementType =>
      rw [decode_append, decode_of_isVoid void undivided bound,
        Fallible.ok_bind]
      cases codec.decode second context with
      | error fault => rfl
      | ok values =>
          rw [Fallible.ok_bind, PropertyMap.empty_insertAll]

theorem decode_append_isVoid {piece : List Char} (void : codec.IsVoid piece)
    (undivided : codec.delimiters.field ∉ piece) (context : TokenContext)
    (first : List Char) :
    codec.decode (first ++ codec.delimiters.field :: piece) context =
      codec.decode first context := by
  cases bound : context.elementType? with
  | none => rw [decode_of_unbound bound, decode_of_unbound bound]
  | some elementType =>
      rw [decode_append, decode_of_isVoid void undivided bound]
      cases codec.decode first context with
      | error fault => rfl
      | ok values => rfl

/-- Decoding is field by field.  Two tokens joined by a field delimiter are
decoded in turn: the first error counts, and what the second holds is inserted
into what the first holds, where names keep their place and take the new value.
A piece that is no field changes nothing wherever fields meet, and no later
field hides an error.  A single field gives its name the value of its literal. -/
theorem decode_fieldByField (codec : Codec) (context : TokenContext) :
    (∀ first second : List Char,
      codec.decode (first ++ codec.delimiters.field :: second) context = (do
        let values ← codec.decode first context
        let added ← codec.decode second context
        .ok (values.insertAll added.entries))) ∧
    (∀ values added : PropertyMap Value,
      (values.insertAll added.entries).names =
          values.names ++ added.names.filter (· ∉ values.names) ∧
        ∀ name, (values.insertAll added.entries).get? name =
          (added.get? name).or (values.get? name)) ∧
    (∀ piece : List Char, codec.IsVoid piece →
      codec.delimiters.field ∉ piece → ∀ first second : List Char,
        codec.decode (piece ++ codec.delimiters.field :: second) context =
            codec.decode second context ∧
          codec.decode (first ++ codec.delimiters.field :: piece) context =
            codec.decode first context ∧
          codec.decode (first ++ codec.delimiters.field ::
              (piece ++ codec.delimiters.field :: second)) context =
            codec.decode (first ++ codec.delimiters.field :: second) context) ∧
    (∀ (first : List Char) (fault : Error),
      codec.decode first context = .error fault → ∀ second : List Char,
        codec.decode (first ++ codec.delimiters.field :: second) context =
          .error fault) ∧
    ∀ elementType, context.elementType? = some elementType →
      ∀ name literal : List Char, codec.delimiters.property ∉ name →
        name.all Text.isBlank = false → literal.all Text.isBlank = false →
        codec.delimiters.field ∉ name ++ codec.delimiters.property :: literal →
        codec.decode (name ++ codec.delimiters.property :: literal) context = (do
          let value ←
            readValue context.model elementType (String.ofList name) literal
          .ok (PropertyMap.empty.insert (String.ofList name) value)) := by
  refine ⟨decode_append codec context, ?_, ?_, ?_, ?_⟩
  · intro values added
    exact ⟨PropertyMap.names_insertAll values added,
      PropertyMap.get?_insertAll values added⟩
  · intro piece void undivided first second
    refine ⟨decode_cons_isVoid void undivided context second,
      decode_append_isVoid void undivided context first, ?_⟩
    rw [decode_append, decode_cons_isVoid void undivided, ← decode_append]
  · intro first fault failed second
    rw [decode_append, failed, Fallible.error_bind]
  · intro elementType bound name literal absent named valued undivided
    exact decode_of_usable absent named valued undivided bound

/-- A field without a name between two notes changes nothing, the later note
counts, and the first literal that cannot be read is reported. -/
theorem decode_fieldByField_notes :
    let context : TokenContext := ⟨.empty, some "Sales.Order"⟩
    Codec.default.IsVoid " :5".toList ∧ ',' ∉ " :5".toList ∧
      Codec.default.decode "note:'a', :5,note:'b'".toList context =
        .ok (PropertyMap.empty.insert "note" (.string "b")) ∧
      Codec.default.decode "note:a".toList context =
        .error (.invalidLiteral "a") ∧
      Codec.default.decode "note:a,note:b".toList context =
        .error (.invalidLiteral "a") := by
  intro context
  obtain ⟨_, _, skips, keeps, single⟩ := decode_fieldByField .default context
  have void : Codec.default.IsVoid ([' '] ++ ':' :: ['5']) :=
    .blankName (by decide) (by decide)
  have undivided : ',' ∉ [' '] ++ ':' :: ['5'] := by decide
  have skipped :=
    (skips _ void undivided "note:'a'".toList "note:'b'".toList).2.2
  have unread : Codec.default.decode ("note".toList ++ ':' :: ['a']) context =
      .error (.invalidLiteral "a") :=
    single "Sales.Order" rfl _ _ (by decide) (by decide) (by decide) (by decide)
  exact ⟨void, undivided, skipped.trans rfl, unread,
    keeps _ _ unread "note:b".toList⟩

end KeysetPaging.Codec

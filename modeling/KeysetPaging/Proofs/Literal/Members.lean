import KeysetPaging.Proofs.Literal.Acceptance
import KeysetPaging.Proofs.Text.Numeral

/-!
# Literals of enum members

A member of an enum type is spelled in one of three ways: by its name in quotes,
after the full name of the type or without it, or by its number.  How a text
begins tells which way it is.  None is taken for another, because a full name
holds a period, which no integer does, and is assumed to begin with no quote.

A number leads to a name first and the name to a member, so it is the first
member of a name that a literal denotes.  Where names repeat, a number can lead
to a member with another number; where they do not, aliases for one number are
harmless.
-/

namespace KeysetPaging

namespace EnumType

/-- The first member of a name has this number. -/
def IsFirstNamed (enum : EnumType) (name : String) (number : Int64) : Prop :=
  ∃ earlier later, enum.members = earlier ++ (name, number) :: later ∧
    ∀ other ∈ earlier, other.1 ≠ name

variable {enum : EnumType}

theorem isFirstNamed_iff {name : String} {number : Int64} :
    enum.IsFirstNamed name number ↔
      enum.memberNamed? name = some (name, number) := by
  simp [IsFirstNamed, memberNamed?_eq_some_iff]

theorem exists_memberNamed?_of_mem {named : String × Int64}
    (declared : named ∈ enum.members) :
    ∃ number, enum.memberNamed? named.1 = some (named.1, number) := by
  have isSome : (enum.memberNamed? named.1).isSome :=
    List.find?_isSome.mpr ⟨named, declared, beq_self_eq_true named.1⟩
  obtain ⟨⟨name, number⟩, found⟩ := Option.isSome_iff_exists.mp isSome
  obtain ⟨rfl, _⟩ := memberNamed?_eq_some_iff.mp found
  exact ⟨number, found⟩

theorem mem_of_memberNamed? {name : String} {member : String × Int64}
    (found : enum.memberNamed? name = some member) : member ∈ enum.members :=
  List.mem_of_find?_eq_some found

theorem mem_of_memberNumbered? {number : Int64} {member : String × Int64}
    (found : enum.memberNumbered? number = some member) :
    member ∈ enum.members ∧ member.2 = number :=
  ⟨List.mem_of_find?_eq_some found, by simpa using List.find?_some found⟩

theorem exists_memberNumbered?_of_mem {named : String × Int64}
    (declared : named ∈ enum.members) :
    ∃ member, enum.memberNumbered? named.2 = some member :=
  Option.isSome_iff_exists.mp
    (List.find?_isSome.mpr ⟨named, declared, beq_self_eq_true named.2⟩)

theorem memberNamed?_of_mem (distinct : (enum.members.map Prod.fst).Nodup)
    {named : String × Int64} (declared : named ∈ enum.members) :
    enum.memberNamed? named.1 = some named := by
  obtain ⟨number, found⟩ := exists_memberNamed?_of_mem declared
  have same : (named.1, number) = named :=
    List.inj_on_of_nodup_map distinct (mem_of_memberNamed? found) declared rfl
  rw [found, same]

theorem period_mem_fullName (enum : EnumType) : '.' ∈ enum.fullName.toList := by
  simp [fullName, qualifiedName]

end EnumType

namespace Literal

/-- A text leads to a name: in quotes after the full name of the type, in quotes
alone, or as the first name that has the number of the text. -/
inductive LeadsTo (enum : EnumType) : List Char → String → Prop where
  | qualified (name : String) :
      LeadsTo enum (enum.fullName.toList ++ Text.quote name.toList) name
  | quoted (name : String) : LeadsTo enum (Text.quote name.toList) name
  | numbered {text : List Char} {number value : Int64} {name : String} :
      Text.int64? text = some number →
      enum.memberNumbered? number = some (name, value) →
      LeadsTo enum text name

variable {enum : EnumType} {text : List Char}

theorem memberName_of_isPrefixOf? {quoted : List Char}
    (stripped : enum.fullName.toList.isPrefixOf? text = some quoted) :
    memberName enum text = orInvalid quoted (string? quoted) := by
  simp only [memberName, stripped]

theorem memberName_of_head? (unqualified :
      enum.fullName.toList.isPrefixOf? text = none)
    (opens : text.head? = some '\'') :
    memberName enum text = orInvalid text (string? text) := by
  simp only [memberName, unqualified, opens, if_true]

theorem isPrefixOf?_qualified (enum : EnumType) (rest : List Char) :
    enum.fullName.toList.isPrefixOf? (enum.fullName.toList ++ rest) =
      some rest :=
  List.isPrefixOf?_eq_some_iff_append_eq.mpr rfl

theorem isPrefixOf?_quote
    (unquoted : enum.fullName.toList.head? ≠ some '\'') (name : List Char) :
    enum.fullName.toList.isPrefixOf? (Text.quote name) = none := by
  apply Text.isPrefixOf?_eq_none_iff.mpr
  rintro ⟨rest, whole⟩
  have period := enum.period_mem_fullName
  cases front : enum.fullName.toList with
  | nil => simp [front] at period
  | cons first tail =>
      rw [front, List.cons_append, Text.quote, List.cons.injEq] at whole
      rw [front, List.head?_cons, whole.1] at unquoted
      exact unquoted rfl

theorem not_mem_of_int64? {number : Int64}
    (read : Text.int64? text = some number) {mark : Char} (notSign : mark ≠ '-' ∧ mark ≠ '+')
    (notDigit : mark.isDigit = false) : mark ∉ text := by
  intro member
  obtain ⟨sign, front, rfl, isSign, isDigits⟩ :=
    Text.exists_of_integer? (Text.int64?_eq_some_iff.mp read)
  rcases List.mem_append.mp member with inSign | inFront
  · rcases isSign.mem inSign with minus | plus
    · exact notSign.1 minus
    · exact notSign.2 plus
  · rw [isDigits mark inFront] at notDigit
    cases notDigit

/-- Neither the full name nor a quote begins an integer. -/
theorem memberName_of_int64? {number : Int64}
    (read : Text.int64? text = some number) {member : String × Int64}
    (found : enum.memberNumbered? number = some member) :
    memberName enum text = .ok member.1 := by
  have noPeriod : '.' ∉ text := not_mem_of_int64? read (by decide) (by decide)
  have noQuote : '\'' ∉ text := not_mem_of_int64? read (by decide) (by decide)
  have unqualified : enum.fullName.toList.isPrefixOf? text = none :=
    Text.isPrefixOf?_eq_none_iff.mpr fun begins =>
      noPeriod (begins.subset enum.period_mem_fullName)
  have notOpened : text.head? ≠ some '\'' :=
    fun opens => noQuote (List.mem_of_head? opens)
  simp only [memberName, unqualified, if_neg notOpened, read, found]

theorem memberName_eq_ok_iff
    (unquoted : enum.fullName.toList.head? ≠ some '\'') {name : String} :
    memberName enum text = .ok name ↔ LeadsTo enum text name := by
  constructor
  · intro named
    cases stripped : enum.fullName.toList.isPrefixOf? text with
    | some quoted =>
        rw [memberName_of_isPrefixOf? stripped, orInvalid_eq_ok_iff,
          string?_eq_some_iff] at named
        rw [← List.isPrefixOf?_eq_some_iff_append_eq.mp stripped, named]
        exact .qualified name
    | none =>
        by_cases opens : text.head? = some '\''
        · rw [memberName_of_head? stripped opens, orInvalid_eq_ok_iff,
            string?_eq_some_iff] at named
          rw [named]
          exact .quoted name
        · simp only [memberName, stripped, if_neg opens] at named
          cases read : Text.int64? text with
          | none => simp [read] at named
          | some number =>
              cases found : enum.memberNumbered? number with
              | none => simp [read, found] at named
              | some member =>
                  simp only [read, found, Except.ok.injEq] at named
                  subst named
                  exact .numbered read found
  · intro leads
    cases leads with
    | qualified =>
        rw [memberName_of_isPrefixOf? (isPrefixOf?_qualified enum _),
          orInvalid_eq_ok_iff, string?_eq_some_iff]
    | quoted =>
        rw [memberName_of_head? (isPrefixOf?_quote unquoted _) rfl,
          orInvalid_eq_ok_iff, string?_eq_some_iff]
    | numbered read found => exact memberName_of_int64? read found

theorem enumMember_of_memberName {name : String} {number : Int64}
    (named : memberName enum text = .ok name)
    (first : enum.IsFirstNamed name number) :
    enumMember enum text = .ok ⟨enum.fullName, name, number⟩ := by
  simp only [enumMember, named, Fallible.ok_bind,
    EnumType.isFirstNamed_iff.mp first]

theorem memberName_of_enumMember {member : EnumMember}
    (read : enumMember enum text = .ok member) :
    memberName enum text = .ok member.member := by
  obtain ⟨name, named, found⟩ := Fallible.bind_eq_ok_iff.mp read
  cases declared : enum.memberNamed? name with
  | none => simp [declared] at found
  | some first =>
      simp only [declared, Except.ok.injEq] at found
      rw [named, ← found]

/-- A literal denotes the first member of a name that it leads to. -/
theorem enumMember_eq_ok_iff
    (unquoted : enum.fullName.toList.head? ≠ some '\'') {member : EnumMember} :
    enumMember enum text = .ok member ↔
      member.typeName = enum.fullName ∧ LeadsTo enum text member.member ∧
        enum.IsFirstNamed member.member member.value := by
  constructor
  · intro read
    obtain ⟨sameType, first⟩ := eq_of_enumMember read
    exact ⟨sameType, (memberName_eq_ok_iff unquoted).mp
      (memberName_of_enumMember read), EnumType.isFirstNamed_iff.mpr first⟩
  · rintro ⟨sameType, leads, first⟩
    have named := (memberName_eq_ok_iff unquoted).mpr leads
    rw [enumMember_of_memberName named first, ← sameType]

theorem exists_enumMember_of_leadsTo
    (unquoted : enum.fullName.toList.head? ≠ some '\'')
    {named : String × Int64} (declared : named ∈ enum.members)
    (leads : LeadsTo enum text named.1) :
    ∃ member, enumMember enum text = .ok member := by
  obtain ⟨number, found⟩ := EnumType.exists_memberNamed?_of_mem declared
  exact ⟨⟨enum.fullName, named.1, number⟩, (enumMember_eq_ok_iff unquoted).mpr
    ⟨rfl, leads, EnumType.isFirstNamed_iff.mpr found⟩⟩

/-- An integer leads to a name by its number only. -/
theorem LeadsTo.memberNumbered?_eq {name : String} {number : Int64}
    (leads : LeadsTo enum text name) (read : Text.int64? text = some number) :
    ∃ value, enum.memberNumbered? number = some (name, value) := by
  have noQuote : '\'' ∉ text := not_mem_of_int64? read (by decide) (by decide)
  cases leads with
  | qualified => exact absurd (by simp [Text.quote]) noQuote
  | quoted => exact absurd (by simp [Text.quote]) noQuote
  | numbered sameRead found =>
      rw [read, Option.some.injEq] at sameRead
      rw [sameRead]
      exact ⟨_, found⟩

theorem exists_enumMember_iff
    (unquoted : enum.fullName.toList.head? ≠ some '\'') :
    (∃ member, enumMember enum text = .ok member) ↔
      ∃ named ∈ enum.members,
        text = enum.fullName.toList ++ Text.quote named.1.toList ∨
          text = Text.quote named.1.toList ∨
            Text.int64? text = some named.2 := by
  constructor
  · rintro ⟨member, read⟩
    obtain ⟨_, leads, first⟩ := (enumMember_eq_ok_iff unquoted).mp read
    have declared : (member.member, member.value) ∈ enum.members :=
      EnumType.mem_of_memberNamed? (EnumType.isFirstNamed_iff.mp first)
    cases leads with
    | qualified => exact ⟨_, declared, .inl rfl⟩
    | quoted => exact ⟨_, declared, .inr (.inl rfl)⟩
    | numbered read found =>
        obtain ⟨numbered, same⟩ := EnumType.mem_of_memberNumbered? found
        exact ⟨_, numbered, .inr (.inr (by rw [same, read]))⟩
  · rintro ⟨named, declared, rfl | rfl | read⟩
    · exact exists_enumMember_of_leadsTo unquoted declared (.qualified named.1)
    · exact exists_enumMember_of_leadsTo unquoted declared (.quoted named.1)
    · obtain ⟨member, found⟩ :=
        EnumType.exists_memberNumbered?_of_mem declared
      exact exists_enumMember_of_leadsTo unquoted
        (EnumType.mem_of_memberNumbered? found).1 (.numbered read found)

theorem value_eq_of_int64?
    (unquoted : enum.fullName.toList.head? ≠ some '\'')
    (distinct : (enum.members.map Prod.fst).Nodup) {member : EnumMember}
    (accepted : enumMember enum text = .ok member) {number : Int64}
    (read : Text.int64? text = some number) : member.value = number := by
  obtain ⟨_, leads, first⟩ := (enumMember_eq_ok_iff unquoted).mp accepted
  obtain ⟨value, found⟩ := leads.memberNumbered?_eq read
  obtain ⟨declared, sameNumber⟩ := EnumType.mem_of_memberNumbered? found
  have unique := EnumType.memberNamed?_of_mem distinct declared
  rw [EnumType.isFirstNamed_iff.mp first, Option.some.injEq, Prod.mk.injEq]
    at unique
  exact unique.2.trans sameNumber

/-- For an enum type whose full name begins with no quote, a literal denotes a
member of the type, with the number of the first member of its name, and the
member's own spelling denotes it again.  A declared name is accepted in quotes,
after the full name and alone, as one and the same member.  If names do not
repeat, an integer is accepted exactly when some member has this number, and as a
member that has it.  A text in none of these spellings is refused. -/
theorem enumMember_denotes_declared (enum : EnumType)
    (unquoted : enum.fullName.toList.head? ≠ some '\'') (text : List Char) :
    (∀ member, enumMember enum text = .ok member →
      member.typeName = enum.fullName ∧
      enum.IsFirstNamed member.member member.value ∧
      enumMember enum (spelling (.enum member)) = .ok member) ∧
    (∀ named ∈ enum.members, ∃ member, member.member = named.1 ∧
      enumMember enum (enum.fullName.toList ++ Text.quote named.1.toList) =
        .ok member ∧
      enumMember enum (Text.quote named.1.toList) = .ok member) ∧
    ((enum.members.map Prod.fst).Nodup → ∀ number,
      Text.int64? text = some number →
      ((∃ member, enumMember enum text = .ok member) ↔
        ∃ named ∈ enum.members, named.2 = number) ∧
      ∀ member, enumMember enum text = .ok member → member.value = number) ∧
    ((∃ member, enumMember enum text = .ok member) ↔
      ∃ named ∈ enum.members,
        text = enum.fullName.toList ++ Text.quote named.1.toList ∨
          text = Text.quote named.1.toList ∨
            Text.int64? text = some named.2) := by
  refine ⟨?_, ?_, ?_, exists_enumMember_iff unquoted⟩
  · intro member accepted
    obtain ⟨sameType, _, first⟩ := (enumMember_eq_ok_iff unquoted).mp accepted
    refine ⟨sameType, first, (enumMember_eq_ok_iff unquoted).mpr
      ⟨sameType, ?_, first⟩⟩
    rw [spelling, sameType]
    exact .qualified member.member
  · intro named declared
    obtain ⟨number, found⟩ := EnumType.exists_memberNamed?_of_mem declared
    have first := EnumType.isFirstNamed_iff.mpr found
    exact ⟨⟨enum.fullName, named.1, number⟩, rfl,
      (enumMember_eq_ok_iff unquoted).mpr ⟨rfl, .qualified named.1, first⟩,
      (enumMember_eq_ok_iff unquoted).mpr ⟨rfl, .quoted named.1, first⟩⟩
  · intro distinct number read
    refine ⟨?_, fun member accepted =>
      value_eq_of_int64? unquoted distinct accepted read⟩
    constructor
    · rintro ⟨member, accepted⟩
      obtain ⟨_, _, first⟩ := (enumMember_eq_ok_iff unquoted).mp accepted
      exact ⟨_, EnumType.mem_of_memberNamed?
        (EnumType.isFirstNamed_iff.mp first),
        value_eq_of_int64? unquoted distinct accepted read⟩
    · rintro ⟨named, declared, rfl⟩
      exact (exists_enumMember_iff unquoted).mpr
        ⟨named, declared, .inr (.inr read)⟩

def trackType : EnumType where
  space := "Club"
  name := "Track"
  members := [("Open", 0), ("Men's", 5), ("'", 5)]

/-- A number that two members share denotes the first of them, whose name holds
a quote, and so does that name after the full name. -/
theorem enumMember_denotes_declared_mens :
    trackType.fullName.toList.head? ≠ some '\'' ∧
    (trackType.members.map Prod.fst).Nodup ∧
    Text.int64? "+05".toList = some 5 ∧
    ∃ member, enumMember trackType "+05".toList = .ok member ∧
      member.value = 5 ∧
      enumMember trackType (spelling (.enum member)) = .ok member ∧
      enumMember trackType "Club.Track'Men''s'".toList = .ok member := by
  have unquoted : trackType.fullName.toList.head? ≠ some '\'' := by decide
  have distinct : (trackType.members.map Prod.fst).Nodup := by decide
  have read : Text.int64? "+05".toList = some 5 := by decide
  obtain ⟨declared, _, numbered, _⟩ :=
    enumMember_denotes_declared trackType unquoted "+05".toList
  obtain ⟨accepted, ownNumber⟩ := numbered distinct 5 read
  obtain ⟨member, denoted⟩ :=
    accepted.mpr ⟨("'", 5), by decide, rfl⟩
  refine ⟨unquoted, distinct, read, member, denoted, ownNumber member denoted,
    (declared member denoted).2.2, ?_⟩
  have first : enumMember trackType "+05".toList =
      .ok ⟨"Club.Track", "Men's", 5⟩ := by decide
  rw [first, Except.ok.injEq] at denoted
  rw [← denoted]
  decide

end Literal

end KeysetPaging

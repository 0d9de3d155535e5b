import KeysetPaging.Proofs.SortOrder.Grammar

/-!
# Sort orders shown and read back

An order is shown with a comma and a blank between any two of its terms, and
with every direction written out.  Cut at its commas, the shown text falls into
one item for each term, and every item but the first begins with the blank.

That each item spells its own term again depends on the names: a blank or a
comma in a name would part it.  No text can spell such a name, so the orders
that are read back from the text they are shown as are those that some text
spells.
-/

namespace KeysetPaging

namespace SortOrder

/-- A term that an item of a text can spell: its name is one word without a
comma, and it is dynamic exactly when an open entity type does not declare the
name. -/
structure IsReadable (entity : EntityType) (term : SortTerm) : Prop where
  isWord : Text.IsWord term.name.toList
  unmarked : ',' ∉ term.name.toList
  isDynamic_eq : term.isDynamic = !entity.declares term.name
  isOpen : term.isDynamic = true → entity.isOpen = true

variable {entity : EntityType}

theorem isWord_keyword (direction : Direction) :
    Text.IsWord direction.keyword := by
  have visible : direction.keyword.all (!Text.isBlank ·) = true := by
    cases direction <;> decide
  constructor
  · cases direction <;> decide
  · intro c member
    simpa using List.all_eq_true.mp visible c member

theorem comma_not_mem_keyword (direction : Direction) :
    ',' ∉ direction.keyword := by
  cases direction <;> decide

theorem map_toLower_keyword (direction : Direction) :
    direction.keyword.map Char.toLower = direction.keyword := by
  cases direction <;> decide

theorem spaces_termText {term : SortTerm}
    (isWord : Text.IsWord term.name.toList) {gap : List Char}
    (isGap : Text.IsGap gap) :
    Text.Spaces [term.name.toList, term.direction.keyword]
      (gap ++ termText term) := by
  have direction : Text.Spaces [term.direction.keyword]
      ([] ++ term.direction.keyword) :=
    .last (List.forall_mem_nil _) (isWord_keyword term.direction)
  have blank : Text.isBlank ' ' = true := by decide
  have whole := Text.Spaces.word isGap isWord blank direction
  rwa [List.nil_append, List.append_assoc] at whole

theorem spells_of_isPhrase {words : List (List Char)} {name item : List Char}
    {direction : Direction} {isDynamic : Bool}
    (spaces : Text.Spaces words item) (phrase : IsPhrase words name direction)
    (variant : isDynamic = !entity.declares (String.ofList name))
    (isOpen : isDynamic = true → entity.isOpen = true) :
    Spells entity item ⟨String.ofList name, direction, isDynamic⟩ := by
  cases isDynamic with
  | false => exact .declared spaces phrase (by simpa using variant)
  | true => exact .dynamic spaces phrase (by simpa using variant) (isOpen rfl)

theorem spells_termText {term : SortTerm} (readable : IsReadable entity term)
    {gap : List Char} (isGap : Text.IsGap gap) :
    Spells entity (gap ++ termText term) term := by
  have spaces := spaces_termText readable.isWord isGap
  have phrase : IsPhrase [term.name.toList, term.direction.keyword]
      term.name.toList term.direction :=
    .directed _ (map_toLower_keyword term.direction)
  have variant : term.isDynamic =
      !entity.declares (String.ofList term.name.toList) := by
    rw [String.ofList_toList]
    exact readable.isDynamic_eq
  have spells := spells_of_isPhrase spaces phrase variant readable.isOpen
  rwa [String.ofList_toList] at spells

theorem IsPhrase.mem {words : List (List Char)} {name : List Char}
    {direction : Direction} (phrase : IsPhrase words name direction) :
    name ∈ words := by
  cases phrase with
  | bare => exact List.mem_cons_self
  | directed => exact List.mem_cons_self

theorem isWord_name_of_isPhrase {words : List (List Char)}
    {name item : List Char} {direction : Direction}
    (spaces : Text.Spaces words item) (phrase : IsPhrase words name direction)
    (unmarked : ',' ∉ item) :
    Text.IsWord (String.ofList name).toList ∧
      ',' ∉ (String.ofList name).toList := by
  rw [String.toList_ofList]
  exact ⟨spaces.isWord_of_mem phrase.mem,
    fun comma => unmarked (spaces.mem_of_mem phrase.mem comma)⟩

theorem Spells.isReadable {item : List Char} {term : SortTerm}
    (spells : Spells entity item term) (unmarked : ',' ∉ item) :
    IsReadable entity term := by
  cases spells with
  | declared spaces phrase declared =>
      obtain ⟨isWord, noComma⟩ := isWord_name_of_isPhrase spaces phrase unmarked
      exact ⟨isWord, noComma, by simp [declared], by simp⟩
  | dynamic spaces phrase undeclared isOpen =>
      obtain ⟨isWord, noComma⟩ := isWord_name_of_isPhrase spaces phrase unmarked
      exact ⟨isWord, noComma, by simp [undeclared], fun _ => isOpen⟩

/-- The items of a shown order: its terms, all but the first after a blank. -/
def shownItems : SortOrder → List (List Char)
  | [] => []
  | first :: rest =>
      termText first :: rest.map fun term => [' '] ++ termText term

/-- The blank behind a comma may be counted to the item that follows. -/
theorem intercalate_comma_blank (first : List Char) (rest : List (List Char)) :
    [',', ' '].intercalate (first :: rest) =
      [','].intercalate (first :: rest.map ([' '] ++ ·)) := by
  induction rest generalizing first with
  | nil => simp
  | cons second rest induction =>
      rw [List.intercalate_cons_cons, induction, List.map_cons,
        List.intercalate_cons_cons]
      cases rest with
      | nil => simp
      | cons third rest => simp [List.intercalate_cons_cons]

theorem comma_not_mem_termText {term : SortTerm}
    (readable : IsReadable entity term) : ',' ∉ termText term := by
  rw [termText, List.mem_append, List.mem_cons]
  rintro (inName | isBlank | inDirection)
  · exact readable.unmarked inName
  · exact absurd isBlank (by decide)
  · exact comma_not_mem_keyword term.direction inDirection

theorem isParted_display {order : SortOrder} (nonempty : order ≠ [])
    (readable : ∀ term ∈ order, IsReadable entity term) :
    Text.IsParted ',' (shownItems order) (display order).toList := by
  obtain ⟨first, rest, rfl⟩ := List.exists_cons_of_ne_nil nonempty
  refine ⟨List.cons_ne_nil _ _, ?_, ?_⟩
  · rintro item listed
    rcases List.mem_cons.mp listed with rfl | listed
    · exact comma_not_mem_termText (readable first List.mem_cons_self)
    · obtain ⟨term, member, rfl⟩ := List.mem_map.mp listed
      have unmarked := comma_not_mem_termText
        (readable term (List.mem_cons_of_mem _ member))
      simpa using unmarked
  · rw [display, List.isEmpty_cons, if_neg Bool.false_ne_true,
      String.toList_ofList, List.map_cons, intercalate_comma_blank, shownItems,
      List.map_map]
    rfl

theorem spells_shownItems {order : SortOrder}
    (readable : ∀ term ∈ order, IsReadable entity term) :
    List.Forall₂ (Spells entity) (shownItems order) order := by
  cases order with
  | nil => exact .nil
  | cons first rest =>
      obtain ⟨firstReadable, restReadable⟩ := List.forall_mem_cons.mp readable
      refine .cons (spells_termText firstReadable (List.forall_mem_nil _)) ?_
      rw [List.forall₂_map_left_iff, List.forall₂_same]
      intro term member
      exact spells_termText (restReadable term member)
        (List.forall_mem_singleton.mpr (by decide))

theorem parse_display_of_isReadable {order : SortOrder} (nonempty : order ≠ [])
    (readable : ∀ term ∈ order, IsReadable entity term) :
    parse entity (display order) = .ok order :=
  parse_eq_ok_iff.mpr
    ⟨_, isParted_display nonempty readable, spells_shownItems readable⟩

theorem isReadable_of_spelled {items : List (List Char)} {order : SortOrder}
    (spelled : List.Forall₂ (Spells entity) items order)
    (unmarked : ∀ item ∈ items, ',' ∉ item) :
    ∀ term ∈ order, IsReadable entity term := by
  induction spelled with
  | nil => exact List.forall_mem_nil _
  | cons spells _ induction =>
      obtain ⟨first, rest⟩ := List.forall_mem_cons.mp unmarked
      exact List.forall_mem_cons.mpr ⟨spells.isReadable first, induction rest⟩

theorem isReadable_of_parse {text : String} {order : SortOrder}
    (read : parse entity text = .ok order) :
    order ≠ [] ∧ ∀ term ∈ order, IsReadable entity term := by
  obtain ⟨items, parted, spelled⟩ := parse_eq_ok_iff.mp read
  refine ⟨?_, isReadable_of_spelled spelled parted.unmarked⟩
  rintro rfl
  exact parted.nonempty (List.forall₂_nil_right_iff.mp spelled)

/-- An order that was read from some text is read again from the text it is
shown as, with the same names, directions and kinds of terms in the same places.
So is every order of terms that an item can spell, whether or not it was read
before, and no other order is read back from the text it is shown as. -/
theorem parse_display (entity : EntityType) (order : SortOrder) :
    (∀ text, parse entity text = .ok order →
      parse entity (display order) = .ok order) ∧
    (parse entity (display order) = .ok order ↔
      order ≠ [] ∧ ∀ term ∈ order, IsReadable entity term) := by
  have readBack : (order ≠ [] ∧ ∀ term ∈ order, IsReadable entity term) →
      parse entity (display order) = .ok order :=
    fun ⟨nonempty, readable⟩ => parse_display_of_isReadable nonempty readable
  exact ⟨fun _ read => readBack (isReadable_of_parse read),
    isReadable_of_parse, readBack⟩

def yearlyOrder : SortOrder :=
  [⟨"année", .descending, true⟩, ⟨"id", .ascending, false⟩,
    ⟨"année", .ascending, true⟩]

/-- A dynamic property that is named twice, with a direction in another case and
one left out, is read back as it was. -/
theorem parse_display_yearlyOrder :
    parse bookType.opened " année\u2003DESC,id,\tannée" = .ok yearlyOrder ∧
      display yearlyOrder = "année desc, id asc, année asc" ∧
      parse bookType.opened (display yearlyOrder) = .ok yearlyOrder ∧
      ∀ term ∈ yearlyOrder, IsReadable bookType.opened term := by
  have read : parse bookType.opened " année\u2003DESC,id,\tannée" =
      .ok yearlyOrder := rfl
  obtain ⟨readBack, exactly⟩ := parse_display bookType.opened yearlyOrder
  have again := readBack _ read
  exact ⟨read, rfl, again, (exactly.mp again).2⟩

end SortOrder

end KeysetPaging

import KeysetPaging.SortOrder
import KeysetPaging.Proofs.Fallible
import KeysetPaging.Proofs.Text.Words
import Mathlib.Data.List.Forall2

/-!
# The grammar of sort orders

The text of a sort order is made of items with a comma between any two of them.
An item is a name and maybe a direction in any letter case, with white space
between and around them, and it spells a term when the entity type declares the
name or is open.  An item that spells none has one fault: it is empty, or its
second word is no direction, or there are words after the direction, or its name
is undeclared, whichever of these comes first.

Reading a text gives one term for each item, or the fault of the first item that
spells none.
-/

namespace KeysetPaging

namespace SortOrder

open Fallible (fault?)

/-- Words that are a name and its direction, ascending where none is given. -/
inductive IsPhrase : List (List Char) → List Char → Direction → Prop where
  | bare (name : List Char) : IsPhrase [name] name .ascending
  | directed (name : List Char) {word : List Char} {direction : Direction} :
      word.map Char.toLower = direction.keyword →
      IsPhrase [name, word] name direction

/-- An item spells a term, which is dynamic when an open entity type does not
declare its name. -/
inductive Spells (entity : EntityType) : List Char → SortTerm → Prop where
  | declared {item name : List Char} {words : List (List Char)}
      {direction : Direction} :
      Text.Spaces words item → IsPhrase words name direction →
      entity.declares (String.ofList name) = true →
      Spells entity item ⟨String.ofList name, direction, false⟩
  | dynamic {item name : List Char} {words : List (List Char)}
      {direction : Direction} :
      Text.Spaces words item → IsPhrase words name direction →
      entity.declares (String.ofList name) = false → entity.isOpen = true →
      Spells entity item ⟨String.ofList name, direction, true⟩

/-- What is wrong with an item of a text that spells no term. -/
inductive HasFault (entity : EntityType) (text : List Char) :
    List Char → OrderFault → Prop where
  | emptyItem {item : List Char} :
      Text.Spaces [] item →
      HasFault entity text item (.emptyItem (String.ofList text))
  | unknownDirection {item name word : List Char} {rest : List (List Char)} :
      Text.Spaces (name :: word :: rest) item →
      (∀ direction : Direction, word.map Char.toLower ≠ direction.keyword) →
      HasFault entity text item (.unknownDirection
        (String.ofList (word.map Char.toLower)) (String.ofList name))
  | extraWords {item name word extra : List Char} {rest : List (List Char)}
      {direction : Direction} :
      Text.Spaces (name :: word :: extra :: rest) item →
      word.map Char.toLower = direction.keyword →
      HasFault entity text item (.extraWords (String.ofList (Text.trim item)))
  | undeclared {item name : List Char} {words : List (List Char)}
      {direction : Direction} :
      Text.Spaces words item → IsPhrase words name direction →
      entity.declares (String.ofList name) = false → entity.isOpen = false →
      HasFault entity text item (.undeclared (String.ofList name))

theorem direction?_keyword (direction : Direction) :
    direction? direction.keyword = some direction := by
  cases direction <;> decide

theorem direction?_eq_none {word : List Char}
    (unknown : ∀ direction : Direction, word ≠ direction.keyword) :
    direction? word = none := by
  rw [direction?, if_neg (unknown .ascending), if_neg (unknown .descending)]

variable {entity : EntityType} {text item : List Char}

theorem readItem_of_isPhrase {words : List (List Char)} {name : List Char}
    {direction : Direction} (spaces : Text.Spaces words item)
    (phrase : IsPhrase words name direction) :
    readItem entity text item =
      resolve entity (String.ofList name) direction := by
  rw [readItem, Text.words_eq_iff.mpr spaces]
  cases phrase with
  | bare => rfl
  | directed name isDirection =>
      simp only [readDirection, isDirection, direction?_keyword,
        List.isEmpty_nil, if_true, Fallible.ok_bind]

theorem readItem_of_spells {term : SortTerm}
    (spells : Spells entity item term) :
    readItem entity text item = .ok term := by
  cases spells with
  | declared spaces phrase declared =>
      rw [readItem_of_isPhrase spaces phrase, resolve, if_pos declared]
  | dynamic spaces phrase undeclared isOpen =>
      rw [readItem_of_isPhrase spaces phrase, resolve,
        if_neg (by simp [undeclared]), if_pos isOpen]

theorem readItem_of_hasFault {fault : OrderFault}
    (hasFault : HasFault entity text item fault) :
    readItem entity text item = .error fault := by
  cases hasFault with
  | emptyItem spaces => rw [readItem, Text.words_eq_iff.mpr spaces]
  | unknownDirection spaces unknown =>
      rw [readItem, Text.words_eq_iff.mpr spaces]
      simp only [readDirection, direction?_eq_none unknown, Fallible.error_bind]
  | extraWords spaces isDirection =>
      rw [readItem, Text.words_eq_iff.mpr spaces]
      simp only [readDirection, isDirection, direction?_keyword,
        List.isEmpty_cons, Bool.false_eq_true, if_false, Fallible.error_bind]
  | undeclared spaces phrase undeclared isClosed =>
      rw [readItem_of_isPhrase spaces phrase, resolve,
        if_neg (by simp [undeclared]), if_neg (by simp [isClosed])]

theorem spells_or_hasFault_of_isPhrase {words : List (List Char)}
    {name : List Char} {direction : Direction}
    (spaces : Text.Spaces words item) (phrase : IsPhrase words name direction) :
    (∃ term, Spells entity item term) ∨
      ∃ fault, HasFault entity text item fault := by
  cases declared : entity.declares (String.ofList name) with
  | true => exact .inl ⟨_, .declared spaces phrase declared⟩
  | false =>
      cases isOpen : entity.isOpen with
      | true => exact .inl ⟨_, .dynamic spaces phrase declared isOpen⟩
      | false => exact .inr ⟨_, .undeclared spaces phrase declared isOpen⟩

/-- The words of an item either spell a term or show a fault. -/
theorem spells_or_hasFault (entity : EntityType) (text item : List Char) :
    (∃ term, Spells entity item term) ∨
      ∃ fault, HasFault entity text item fault := by
  have spaces : Text.Spaces (Text.words item) item :=
    Text.words_eq_iff.mp rfl
  match words : Text.words item with
  | [] =>
      rw [words] at spaces
      exact .inr ⟨_, .emptyItem spaces⟩
  | [name] =>
      rw [words] at spaces
      exact spells_or_hasFault_of_isPhrase spaces (.bare name)
  | name :: word :: rest =>
      rw [words] at spaces
      by_cases known : ∃ direction : Direction,
          word.map Char.toLower = direction.keyword
      · obtain ⟨direction, isDirection⟩ := known
        cases rest with
        | nil =>
            exact spells_or_hasFault_of_isPhrase spaces
              (.directed name isDirection)
        | cons extra rest => exact .inr ⟨_, .extraWords spaces isDirection⟩
      · exact .inr ⟨_, .unknownDirection spaces (not_exists.mp known)⟩

theorem readItem_eq_ok_iff {term : SortTerm} :
    readItem entity text item = .ok term ↔ Spells entity item term := by
  refine ⟨fun read => ?_, readItem_of_spells⟩
  rcases spells_or_hasFault entity text item with ⟨_, spells⟩ | ⟨_, hasFault⟩
  · rw [readItem_of_spells spells] at read
    cases read
    exact spells
  · rw [readItem_of_hasFault hasFault] at read
    cases read

theorem readItem_eq_error_iff {fault : OrderFault} :
    readItem entity text item = .error fault ↔
      HasFault entity text item fault := by
  refine ⟨fun read => ?_, readItem_of_hasFault⟩
  rcases spells_or_hasFault entity text item with ⟨_, spells⟩ | ⟨_, hasFault⟩
  · rw [readItem_of_spells spells] at read
    cases read
  · rw [readItem_of_hasFault hasFault] at read
    cases read
    exact hasFault

theorem readItems_eq_ok_iff {items : List (List Char)} {order : SortOrder} :
    readItems entity text items = .ok order ↔
      List.Forall₂ (Spells entity) items order := by
  induction items generalizing order with
  | nil =>
      rw [List.forall₂_nil_left_iff, readItems, Except.ok.injEq, eq_comm]
  | cons item items induction =>
      rw [readItems, Fallible.bind_eq_ok_iff, List.forall₂_cons_left_iff]
      simp only [Fallible.bind_eq_ok_iff, readItem_eq_ok_iff, induction,
        Except.ok.injEq]
      constructor
      · rintro ⟨term, spells, terms, rest, rfl⟩
        exact ⟨term, terms, spells, rest, rfl⟩
      · rintro ⟨term, terms, spells, rest, rfl⟩
        exact ⟨term, spells, terms, rest, rfl⟩

theorem parse_eq_ok_iff {text : String} {order : SortOrder} :
    parse entity text = .ok order ↔
      ∃ items, Text.IsParted ',' items text.toList ∧
        List.Forall₂ (Spells entity) items order := by
  rw [parse, readItems_eq_ok_iff]
  constructor
  · intro spelled
    exact ⟨_, Text.splitOn_eq_iff.mp rfl, spelled⟩
  · rintro ⟨items, parted, spelled⟩
    rwa [Text.splitOn_eq_iff.mpr parted]

/-- Items fail as the first of them that fails. -/
theorem fault?_readItems (items : List (List Char)) :
    fault? (readItems entity text items) =
      items.findSome? fun item => fault? (readItem entity text item) := by
  induction items with
  | nil => rfl
  | cons item items induction =>
      rw [readItems, Fallible.fault?_both, induction, List.findSome?_cons]
      cases fault? (readItem entity text item) <;> rfl

theorem fault?_readItem_eq_none_iff :
    fault? (readItem entity text item) = none ↔
      ∃ term, Spells entity item term := by
  rw [Fallible.fault?_eq_none_iff]
  exact exists_congr fun _ => readItem_eq_ok_iff

theorem readItems_eq_error_iff {items : List (List Char)} {fault : OrderFault} :
    readItems entity text items = .error fault ↔
      ∃ before item after, items = before ++ item :: after ∧
        (∀ earlier ∈ before, ∃ term, Spells entity earlier term) ∧
        HasFault entity text item fault := by
  rw [← Fallible.fault?_eq_some_iff, fault?_readItems,
    List.findSome?_eq_some_iff]
  simp only [Fallible.fault?_eq_some_iff, readItem_eq_error_iff,
    fault?_readItem_eq_none_iff]
  constructor
  · rintro ⟨before, item, after, split, hasFault, spelled⟩
    exact ⟨before, item, after, split, spelled, hasFault⟩
  · rintro ⟨before, item, after, split, spelled, hasFault⟩
    exact ⟨before, item, after, split, hasFault, spelled⟩

theorem exists_readItems_iff {items : List (List Char)} :
    (∃ order, readItems entity text items = .ok order) ↔
      ∀ item ∈ items, ∃ term, Spells entity item term := by
  rw [← Fallible.fault?_eq_none_iff, fault?_readItems,
    List.findSome?_eq_none_iff]
  exact forall₂_congr fun _ _ => fault?_readItem_eq_none_iff

theorem Spells.isDynamic_eq {term : SortTerm}
    (spells : Spells entity item term) :
    term.isDynamic = !entity.declares term.name := by
  cases spells with
  | declared _ _ declared => rw [declared, Bool.not_true]
  | dynamic _ _ undeclared _ => rw [undeclared, Bool.not_false]

theorem Spells.isDynamic_eq_false {term : SortTerm}
    (spells : Spells entity item term) (isClosed : entity.isOpen = false) :
    term.isDynamic = false := by
  cases spells with
  | declared _ _ _ => rfl
  | dynamic _ _ _ isOpen =>
      rw [isClosed] at isOpen
      cases isOpen

theorem exists_spells_of_mem {items : List (List Char)} {order : SortOrder}
    (spelled : List.Forall₂ (Spells entity) items order) {term : SortTerm}
    (member : term ∈ order) : ∃ item, Spells entity item term := by
  induction spelled with
  | nil => cases member
  | cons spells _ induction =>
      rcases List.mem_cons.mp member with rfl | inRest
      · exact ⟨_, spells⟩
      · exact induction inRest

/-- A text is read as an order exactly when each of its items spells a term, and
then the order has these terms.  Otherwise the fault is that of the leftmost item
that spells none.  So no text is read as an order without terms, and for a
closed entity type none is read as a dynamic order. -/
theorem parse_reads_exactly_the_grammar (entity : EntityType) (text : String) :
    ∃ items, Text.IsParted ',' items text.toList ∧
      ((∃ order, parse entity text = .ok order) ↔
        ∀ item ∈ items, ∃ term, Spells entity item term) ∧
      (∀ order, parse entity text = .ok order ↔
        List.Forall₂ (Spells entity) items order) ∧
      (∀ fault, parse entity text = .error fault ↔
        ∃ before item after, items = before ++ item :: after ∧
          (∀ earlier ∈ before, ∃ term, Spells entity earlier term) ∧
          HasFault entity text.toList item fault) ∧
      ∀ order, parse entity text = .ok order →
        order ≠ [] ∧
          (∀ term ∈ order, term.isDynamic = !entity.declares term.name) ∧
          (entity.isOpen = false → order.isDynamic = false) := by
  have parted : Text.IsParted ',' (text.toList.splitOn ',') text.toList :=
    Text.splitOn_eq_iff.mp rfl
  refine ⟨_, parted, exists_readItems_iff, fun _ => readItems_eq_ok_iff,
    fun _ => readItems_eq_error_iff, ?_⟩
  intro order read
  have spelled : List.Forall₂ (Spells entity) (text.toList.splitOn ',') order :=
    readItems_eq_ok_iff.mp read
  refine ⟨?_, ?_, ?_⟩
  · rintro rfl
    exact parted.nonempty (List.forall₂_nil_right_iff.mp spelled)
  · intro term member
    obtain ⟨item, spells⟩ := exists_spells_of_mem spelled member
    exact spells.isDynamic_eq
  · intro isClosed
    refine List.any_eq_false.mpr fun term member => ?_
    obtain ⟨item, spells⟩ := exists_spells_of_mem spelled member
    simp [spells.isDynamic_eq_false isClosed]

def bookType : EntityType :=
  (EntityType.new "Library" "Book")
    |>.key "id" .int64
    |>.property "title" .string

/-- Any white space parts the words of an item, and any case spells a
direction.  Of the three items of another text that spell no term, the fault of
the first is told. -/
theorem parse_reads_books :
    (∃ order, parse bookType " title\u2003DESC,\tid" = .ok order ∧
      order = [⟨"title", .descending, false⟩, ⟨"id", .ascending, false⟩] ∧
      order.isDynamic = false) ∧
    ∃ before item after,
      (∀ earlier ∈ before, ∃ term, Spells bookType earlier term) ∧
      HasFault bookType "id,title Up x,,isbn".toList item
        (.unknownDirection "up" "title") ∧
      Text.IsParted ',' (before ++ item :: after)
        "id,title Up x,,isbn".toList := by
  constructor
  · obtain ⟨_, _, _, _, _, kept⟩ :=
      parse_reads_exactly_the_grammar bookType " title\u2003DESC,\tid"
    exact ⟨_, rfl, rfl, (kept _ rfl).2.2 rfl⟩
  · obtain ⟨items, parted, _, _, faults, _⟩ :=
      parse_reads_exactly_the_grammar bookType "id,title Up x,,isbn"
    obtain ⟨before, item, after, rfl, spelled, hasFault⟩ :=
      (faults (.unknownDirection "up" "title")).mp rfl
    exact ⟨before, item, after, spelled, hasFault, parted⟩

end SortOrder

end KeysetPaging

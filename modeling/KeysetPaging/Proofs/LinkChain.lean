import KeysetPaging.Proofs.NextLink
import Mathlib.Algebra.GroupWithZero.Nat
import Mathlib.Data.List.Induction

/-!
# Chains of next links

A next link is a request again, and the link after it is made from its text.
What the first link wrote is read by the second: a reduced top option under the
name it had, and a token that is dropped.  So two links in a row come to the one
link that serves both their pages, and a chain of any length comes to a single
link.

The counts of a chain are therefore exact.  Every numeric top option goes down by
the entities that the chain has served, none below zero, and the chain ends as
soon as it has served as many as some top option asks for.
-/

namespace KeysetPaging

namespace NextLink

theorem topCount?_digits {n : Nat} (small : n < 2 ^ 64) :
    topCount? (Text.digits n) = some n := by
  have isDigits : ∀ c ∈ Text.digits n, c.isDigit = true :=
    fun _ => Text.isDigit_of_mem_digits
  have unmarked : '%' ∉ Text.digits n :=
    Text.not_mem_of_digits isDigits (by decide)
  rw [topCount?, decodeOr, Uri.decode?_of_not_mem unmarked, Option.getD_some,
    Text.trim_of_digits isDigits, Text.unsigned64?_digits small]

theorem readSegment_of_top {text : List Char} {count : Nat}
    (named : optionName text = "$top".toList)
    (counted : topCount? (Uri.cutValue text).2 = some count) :
    readSegment text = .top (Uri.cutValue text).1 count := by
  have notDropped : ¬ (optionName text = "$skip".toList ∨
      optionName text = tokenOption) := by
    rw [named]
    decide
  simp only [readSegment]
  rw [if_neg (by exact notDropped), if_pos (by exact named), counted]

theorem readSegment_reduced {text rawName : List Char} {count left : Nat}
    (read : readSegment text = .top rawName count) (fewer : left ≤ count) :
    readSegment (rawName ++ '=' :: Text.digits left) = .top rawName left := by
  have told := readSegment_cases text
  rw [read] at told
  obtain ⟨rfl, named, counted⟩ := told
  have whole : '=' ∉ (Uri.cutValue text).1 :=
    fun member => (mem_of_mem_cutValue member).2 rfl
  have parts := cutValue_append whole (Text.digits left)
  have small : left < 2 ^ 64 :=
    Nat.lt_of_le_of_lt fewer (Text.lt_of_unsigned64? counted)
  have sameName : optionName ((Uri.cutValue text).1 ++ '=' :: Text.digits left) =
      "$top".toList := by
    rw [optionName, parts]
    exact named
  have leftCounted : topCount?
      (Uri.cutValue ((Uri.cutValue text).1 ++ '=' :: Text.digits left)).2 =
        some left := by
    rw [parts]
    exact topCount?_digits small
  have reduced := readSegment_of_top sameName leftCounted
  rwa [parts] at reduced

/-! ## Two pages of one piece, and of a query -/

theorem advanceAll?_append (pageSize : Nat) (texts others : List (List Char)) :
    advanceAll? pageSize (texts ++ others) =
      (advanceAll? pageSize texts).bind fun front =>
        (advanceAll? pageSize others).map fun back => front ++ back := by
  induction texts with
  | nil =>
      change _ = (some []).bind _
      simp
  | cons text texts induction =>
      rw [List.cons_append, advanceAll?_cons, advanceAll?_cons, induction]
      cases advance? pageSize (readSegment text) with
      | none => rfl
      | some first =>
          cases advanceAll? pageSize texts with
          | none => rfl
          | some front => simp [Function.comp_def]

theorem advanceAll?_singleton (pageSize : Nat) (text : List Char) :
    advanceAll? pageSize [text] = advance? pageSize (readSegment text) := by
  rw [advanceAll?_cons]
  change (advance? pageSize (readSegment text)).bind
    (fun first => some (first ++ [])) = _
  simp

/-- What a page leaves of a piece, a further page treats as it would have treated
the piece, with both pages to reduce it by. -/
theorem advance?_bind_advanceAll? (size further : Nat) (text : List Char) :
    (advance? size (readSegment text)).bind (advanceAll? further) =
      advance? (size + further) (readSegment text) := by
  have told := readSegment_cases text
  cases read : readSegment text with
  | dropped => rfl
  | kept same =>
      rw [read] at told
      obtain ⟨rfl, _⟩ := told
      change advanceAll? further [same] = some [same]
      rw [advanceAll?_singleton, read]
      rfl
  | top rawName count =>
      by_cases usedUp : count ≤ size
      · have usedUpByBoth : count ≤ size + further := by omega
        simp only [advance?, if_pos usedUp, if_pos usedUpByBoth, Option.bind_none]
      · have reduced := readSegment_reduced read (Nat.sub_le count size)
        have usedUpLater : count - size ≤ further ↔ count ≤ size + further := by
          omega
        simp only [advance?, if_neg usedUp, Option.bind_some,
          advanceAll?_singleton, reduced, usedUpLater, Nat.sub_sub]

theorem advanceAll?_bind_advanceAll? (size further : Nat)
    (texts : List (List Char)) :
    (advanceAll? size texts).bind (advanceAll? further) =
      advanceAll? (size + further) texts := by
  induction texts with
  | nil => rfl
  | cons text texts induction =>
      rw [advanceAll?_cons, advanceAll?_cons, ← advance?_bind_advanceAll?,
        ← induction]
      cases advance? size (readSegment text) with
      | none => rfl
      | some first =>
          cases advanceAll? size texts with
          | none => simp
          | some rest =>
              simp only [Option.bind_some, Option.map_some]
              exact advanceAll?_append further first rest

/-- The piece of a token leaves nothing to the next link. -/
theorem advanceAll?_append_tokenSegment (pageSize : Nat)
    (texts : List (List Char)) (token : List Char) :
    advanceAll? pageSize (texts ++ [tokenSegment token]) =
      advanceAll? pageSize texts := by
  rw [advanceAll?_append, advanceAll?_singleton, readSegment_tokenSegment]
  change (advanceAll? pageSize texts).bind
    (fun front => some (front ++ [])) = _
  simp

theorem after?_eq_advanceAll? (url : Uri.Url) (pageSize : Nat)
    (token : List Char) :
    after? url pageSize token = (advanceAll? pageSize url.pieces).map
      fun segments =>
        url.withQuery (['&'].intercalate (segments ++ [tokenSegment token])) :=
  rfl

theorem after?_bind_after? (url : Uri.Url) (size further : Nat)
    (first second : List Char) :
    ((after? url size first).bind fun link => after? link further second) =
      after? url (size + further) second := by
  rw [after?_eq_advanceAll? url (size + further),
    ← advanceAll?_bind_advanceAll?]
  cases linked : after? url size first with
  | none =>
      have usedUp : advanceAll? size url.pieces = none :=
        Option.map_eq_none_iff.mp linked
      rw [usedUp]
      rfl
  | some link =>
      obtain ⟨made, advanced, written, pieces⟩ := pieces_after? linked
      rw [Option.bind_some, after?_eq_advanceAll?, pieces,
        advanceAll?_append_tokenSegment, advanced, Option.bind_some, written]
      rfl

/-! ## The top options of a chain -/

/-- The numeric top option that a piece is, with its name as it is written. -/
def topOption? (text : List Char) : Option (List Char × Nat) :=
  if optionName text = "$top".toList then
    (topCount? (Uri.cutValue text).2).map fun count =>
      ((Uri.cutValue text).1, count)
  else none

/-- The numeric top options of a URL, in the order of its query. -/
def topOptions (url : Uri.Url) : List (List Char × Nat) :=
  url.pieces.filterMap topOption?

/-- A top option after entities have been served. -/
def lowered (count : Nat) (option : List Char × Nat) : List Char × Nat :=
  (option.1, option.2 - count)

theorem topOption?_eq_of_readSegment (text : List Char) :
    topOption? text =
      match readSegment text with
      | .top rawName count => some (rawName, count)
      | _ => none := by
  by_cases named : optionName text = "$top".toList
  · rw [topOption?, if_pos named]
    cases counted : topCount? (Uri.cutValue text).2 with
    | some count => rw [readSegment_of_top named counted, Option.map_some]
    | none =>
        have told := readSegment_cases text
        cases read : readSegment text with
        | dropped => rfl
        | kept same => rfl
        | top rawName count =>
            rw [read, counted] at told
            cases told.2.2
  · rw [topOption?, if_neg named]
    have told := readSegment_cases text
    cases read : readSegment text with
    | dropped => rfl
    | kept same => rfl
    | top rawName count =>
        rw [read] at told
        exact absurd told.2.1 named

theorem advance?_eq_none_iff {pageSize : Nat} {text : List Char} :
    advance? pageSize (readSegment text) = none ↔
      ∃ option, topOption? text = some option ∧ option.2 ≤ pageSize := by
  cases read : readSegment text with
  | dropped => simp [topOption?_eq_of_readSegment, read, advance?]
  | kept same => simp [topOption?_eq_of_readSegment, read, advance?]
  | top rawName count => simp [topOption?_eq_of_readSegment, read, advance?]

theorem filterMap_topOption?_of_advance? {pageSize : Nat} {text : List Char}
    {made : List (List Char)}
    (advanced : advance? pageSize (readSegment text) = some made) :
    made.filterMap topOption? =
      (topOption? text).toList.map (lowered pageSize) := by
  have told := readSegment_cases text
  cases read : readSegment text with
  | dropped =>
      rw [read] at advanced
      cases advanced
      simp [topOption?_eq_of_readSegment, read]
  | kept same =>
      rw [read] at told advanced
      obtain ⟨rfl, _⟩ := told
      cases advanced
      simp [topOption?_eq_of_readSegment, read]
  | top rawName count =>
      rw [read] at advanced
      simp only [advance?] at advanced
      split at advanced
      · cases advanced
      · cases advanced
        have reduced := readSegment_reduced read (Nat.sub_le count pageSize)
        simp [topOption?_eq_of_readSegment, read, reduced, lowered]

theorem advanceAll?_eq_none_iff {pageSize : Nat} {texts : List (List Char)} :
    advanceAll? pageSize texts = none ↔
      ∃ option ∈ texts.filterMap topOption?, option.2 ≤ pageSize := by
  induction texts with
  | nil => simp [advanceAll?]
  | cons text texts induction =>
      have eitherStops : advanceAll? pageSize (text :: texts) = none ↔
          advance? pageSize (readSegment text) = none ∨
            advanceAll? pageSize texts = none := by
        rw [advanceAll?_cons]
        cases advance? pageSize (readSegment text) <;> simp
      rw [eitherStops, advance?_eq_none_iff, induction, List.filterMap_cons]
      cases topOption? text <;> simp

theorem filterMap_topOption?_of_advanceAll? {pageSize : Nat}
    {texts made : List (List Char)}
    (advanced : advanceAll? pageSize texts = some made) :
    made.filterMap topOption? =
      (texts.filterMap topOption?).map (lowered pageSize) := by
  induction texts generalizing made with
  | nil =>
      cases advanced
      rfl
  | cons text texts induction =>
      rw [advanceAll?_cons] at advanced
      obtain ⟨first, madeFirst, remains⟩ := Option.bind_eq_some_iff.mp advanced
      obtain ⟨rest, madeRest, rfl⟩ := Option.map_eq_some_iff.mp remains
      rw [List.filterMap_append, filterMap_topOption?_of_advance? madeFirst,
        induction madeRest, List.filterMap_cons]
      cases topOption? text <;> rfl

theorem after?_eq_none_iff {url : Uri.Url} {pageSize : Nat}
    {token : List Char} :
    after? url pageSize token = none ↔
      ∃ option ∈ topOptions url, option.2 ≤ pageSize := by
  rw [after?_eq_advanceAll?, Option.map_eq_none_iff, advanceAll?_eq_none_iff]
  rfl

/-- The token of a link is no top option, so its top options are those of the
request, lowered. -/
theorem topOptions_of_after? {url link : Uri.Url} {pageSize : Nat}
    {token : List Char} (linked : after? url pageSize token = some link) :
    topOptions link = (topOptions url).map (lowered pageSize) := by
  obtain ⟨made, advanced, _, pieces⟩ := pieces_after? linked
  rw [topOptions, pieces, List.filterMap_append,
    filterMap_topOption?_of_advanceAll? advanced]
  simp [topOptions, topOption?_eq_of_readSegment, readSegment_tokenSegment]

theorem topOptions_eq_nil_iff {url : Uri.Url} :
    topOptions url = [] ↔ Unlimited url := by
  rw [topOptions, List.filterMap_eq_nil_iff]
  refine forall₂_congr fun text _ => ?_
  rw [topOption?_eq_of_readSegment]
  cases readSegment text <;> simp

theorem exists_after?_of_unlimited {url : Uri.Url} (unlimited : Unlimited url)
    (pageSize : Nat) (token : List Char) :
    ∃ link, after? url pageSize token = some link ∧ Unlimited link := by
  have noOptions := topOptions_eq_nil_iff.mpr unlimited
  have goesOn : after? url pageSize token ≠ none := by
    rw [Ne, after?_eq_none_iff, noOptions]
    simp
  obtain ⟨link, linked⟩ := Option.ne_none_iff_exists'.mp goesOn
  refine ⟨link, linked, topOptions_eq_nil_iff.mp ?_⟩
  rw [topOptions_of_after? linked, noOptions, List.map_nil]

/-! ## Chains -/

/-- A page that has been served, as the next link is told of it. -/
structure ServedPage where
  size : Nat
  token : List Char

/-- The link after pages that are served one after another, each of them asked
for by the link after the one before. -/
def chain? (url : Uri.Url) (pages : List ServedPage) : Option Uri.Url :=
  pages.foldlM (fun request page => after? request page.size page.token) url

def served (pages : List ServedPage) : Nat :=
  (pages.map ServedPage.size).sum

theorem chain?_append_singleton (url : Uri.Url) (pages : List ServedPage)
    (last : ServedPage) :
    chain? url (pages ++ [last]) =
      (chain? url pages).bind fun request =>
        after? request last.size last.token := by
  simp [chain?, List.foldlM_append, Option.bind_eq_bind]

/-- A chain comes to the one link that serves all its pages and carries the last
token. -/
theorem chain?_eq_after? (url : Uri.Url) (pages : List ServedPage)
    (last : ServedPage) :
    chain? url (pages ++ [last]) =
      after? url (served (pages ++ [last])) last.token := by
  induction pages using List.reverseRecOn generalizing last with
  | nil => simp [chain?, served]
  | append_singleton pages page induction =>
      rw [chain?_append_singleton, induction, after?_bind_after?]
      congr 1
      simp [served, Nat.add_assoc]

/-- Two links in a row are one link, and so is a chain.  It ends when it has
served what some top option asks for, and until then it lowers every top option
by what it has served. -/
theorem links_compose (url : Uri.Url) :
    (∀ (size further : Nat) (first second : List Char),
      ((after? url size first).bind fun link => after? link further second) =
        after? url (size + further) second) ∧
    ∀ (pages : List ServedPage) (last : ServedPage) (count : Nat),
      served (pages ++ [last]) = count →
        chain? url (pages ++ [last]) = after? url count last.token ∧
        (chain? url (pages ++ [last]) = none ↔
          ∃ option ∈ topOptions url, option.2 ≤ count) ∧
        ∀ link, chain? url (pages ++ [last]) = some link →
          (∀ option ∈ topOptions url, count < option.2) ∧
          topOptions link = (topOptions url).map (lowered count) := by
  refine ⟨after?_bind_after? url, ?_⟩
  rintro pages last count rfl
  rw [chain?_eq_after?]
  refine ⟨rfl, after?_eq_none_iff, fun link linked => ⟨?_, ?_⟩⟩
  · intro option listed
    refine Nat.lt_of_not_le fun usedUp => ?_
    have ended : after? url (served (pages ++ [last])) last.token = none :=
      after?_eq_none_iff.mpr ⟨option, listed, usedUp⟩
    rw [linked] at ended
    cases ended
  · exact topOptions_of_after? linked

/-- A request with two top options that are numbers and one that is none, a skip
option, an old token and an empty piece. -/
def standingsUrl : Uri.Url where
  scheme := "https".toList
  authority? := some ⟨none, "example.com".toList, none⟩
  path := "/standings".toList
  query? := some
    "$top=12&&%24ToP=%20+10&$TOP=ten&$Skip=4&$skiptoken=3&game=1".toList
  fragment? := none
  query_kept := by
    rintro query ⟨⟩
    exact List.all_iff_forall_prop.mp (by decide)

/-- Pages of four and of five entities leave one of the ten, and then a page of
one ends the chain. -/
theorem links_compose_standings :
    let pages : List ServedPage := [⟨4, "place:4".toList⟩, ⟨5, "place:9".toList⟩]
    topOptions standingsUrl = [("$top".toList, 12), ("%24ToP".toList, 10)] ∧
      (∃ link, chain? standingsUrl pages = some link ∧
        after? standingsUrl 9 "place:9".toList = some link ∧
        topOptions link = [("$top".toList, 3), ("%24ToP".toList, 1)]) ∧
      chain? standingsUrl (pages ++ [⟨1, "place:10".toList⟩]) = none := by
  intro pages
  have options : topOptions standingsUrl =
      [("$top".toList, 12), ("%24ToP".toList, 10)] := by
    decide
  obtain ⟨_, counts⟩ := links_compose standingsUrl
  obtain ⟨single, _, lower⟩ :=
    counts [⟨4, "place:4".toList⟩] ⟨5, "place:9".toList⟩ 9 rfl
  obtain ⟨_, ends, _⟩ := counts pages ⟨1, "place:10".toList⟩ 10 rfl
  refine ⟨options, ?_, ?_⟩
  · obtain ⟨link, linked⟩ :
        ∃ link, after? standingsUrl 9 "place:9".toList = some link :=
      ⟨_, rfl⟩
    have chained := single.trans linked
    refine ⟨link, chained, linked, ?_⟩
    rw [(lower link chained).2, options]
    rfl
  · rw [ends, options]
    exact ⟨("%24ToP".toList, 10), by simp, Nat.le_refl 10⟩

end NextLink

end KeysetPaging

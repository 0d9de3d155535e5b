import KeysetPaging.Proofs.LinkChain

/-!
# The query of a next link

A next link is its request with another query.  The query keeps the pieces of
the request in their order and as they are written, but for those that ask for
entities already served: skip and token options go, and a numeric top option
keeps its name and asks for what is left.  Behind them comes the new token, and
a form reads no other value under its name, though names are recognised in
percent coding when they are dropped and in form coding when they are read.
-/

namespace KeysetPaging

namespace Uri.Url

/-- Two URLs that differ in their queries at most. -/
structure SameButQuery (url other : Url) : Prop where
  scheme_eq : url.scheme = other.scheme
  authority_eq : url.authority? = other.authority?
  path_eq : url.path = other.path
  fragment_eq : url.fragment? = other.fragment?

theorem sameButQuery_withQuery (url : Url) (query : List Char) :
    (url.withQuery query).SameButQuery url :=
  ⟨rfl, rfl, rfl, rfl⟩

theorem query?_withQuery (url : Url) (query : List Char) :
    (url.withQuery query).query? =
      some (encodeQuery (isSpecialScheme url.scheme) query) :=
  rfl

end Uri.Url

namespace NextLink

/-- A piece is an option that asks where the page begins. -/
def IsStart (text : List Char) : Prop :=
  optionName text = "$skip".toList ∨ optionName text = tokenOption

/-- What the pieces of a request come to behind a page, piece by piece.  A page
that uses up a top option leaves no pieces at all. -/
inductive Leaves (pageSize : Nat) :
    List (List Char) → List (List Char) → Prop where
  | nil : Leaves pageSize [] []
  | dropped {text : List Char} {texts left : List (List Char)} :
      IsStart text → Leaves pageSize texts left →
      Leaves pageSize (text :: texts) left
  | lowered {text rawName : List Char} {count : Nat}
      {texts left : List (List Char)} :
      topOption? text = some (rawName, count) → pageSize < count →
      Leaves pageSize texts left →
      Leaves pageSize (text :: texts)
        ((rawName ++ '=' :: Text.digits (count - pageSize)) :: left)
  | kept {text : List Char} {texts left : List (List Char)} :
      ¬ IsStart text → topOption? text = none → Leaves pageSize texts left →
      Leaves pageSize (text :: texts) (text :: left)

theorem readSegment_of_isStart {text : List Char} (isStart : IsStart text) :
    readSegment text = .dropped := by
  simp only [readSegment]
  rw [if_pos (by exact isStart)]

theorem readSegment_of_topOption? {text rawName : List Char} {count : Nat}
    (option : topOption? text = some (rawName, count)) :
    readSegment text = .top rawName count := by
  rw [topOption?_eq_of_readSegment] at option
  cases read : readSegment text with
  | dropped => simp [read] at option
  | kept same => simp [read] at option
  | top readName readCount =>
      simp only [read, Option.some.injEq, Prod.mk.injEq] at option
      rw [option.1, option.2]

theorem readSegment_of_other {text : List Char} (other : ¬ IsStart text)
    (noOption : topOption? text = none) : readSegment text = .kept text := by
  simp only [readSegment]
  rw [if_neg (by exact other)]
  by_cases named : optionName text = "$top".toList
  · rw [topOption?, if_pos named, Option.map_eq_none_iff] at noOption
    rw [if_pos (by exact named), noOption]
  · rw [if_neg (by exact named)]

theorem leaves_of_advanceAll? {pageSize : Nat} {texts left : List (List Char)}
    (advanced : advanceAll? pageSize texts = some left) :
    Leaves pageSize texts left := by
  induction texts generalizing left with
  | nil =>
      cases advanced
      exact .nil
  | cons text texts induction =>
      rw [advanceAll?_cons] at advanced
      obtain ⟨first, made, remains⟩ := Option.bind_eq_some_iff.mp advanced
      obtain ⟨rest, restMade, rfl⟩ := Option.map_eq_some_iff.mp remains
      by_cases isStart : IsStart text
      · rw [readSegment_of_isStart isStart] at made
        cases made
        exact .dropped isStart (induction restMade)
      · cases option : topOption? text with
        | none =>
            rw [readSegment_of_other isStart option] at made
            cases made
            exact .kept isStart option (induction restMade)
        | some pair =>
            rw [readSegment_of_topOption? option] at made
            simp only [advance?] at made
            split at made
            · cases made
            · rename_i more
              cases made
              exact .lowered option (Nat.lt_of_not_le more)
                (induction restMade)

/-- A next link differs from its request in the query alone, and there is one
unless the page uses up a top option.  The query has the pieces that the page
leaves and then the piece of the token, which is what a form reads first and
only under the name of the token option. -/
theorem link_keeps_query_and_carries_token (url : Uri.Url) (pageSize : Nat)
    (token : List Char) :
    (after? url pageSize token = none ↔
      ∃ option ∈ topOptions url, option.2 ≤ pageSize) ∧
    ∀ link, after? url pageSize token = some link →
      link.SameButQuery url ∧
      (∃ left, Leaves pageSize url.pieces left ∧
        link.pieces = left ++ [tokenSegment token] ∧
        link.query? =
          some (['&'].intercalate (left ++ [tokenSegment token]))) ∧
      link.queryPairs.filter (fun pair => pair.1 = tokenOption) =
        [(tokenOption, token)] ∧
      tokenOf? link = some token := by
  refine ⟨after?_eq_none_iff, fun link linked => ?_⟩
  obtain ⟨left, advanced, written, pieces⟩ := pieces_after? linked
  obtain ⟨others, pairs, named⟩ := exists_queryPairs_after? linked
  have unchanged := Uri.encodeQuery_of_kept
    (Uri.kept_of_mem_intercalate (isPiece_of_mem_written advanced token))
  refine ⟨?_, ⟨left, leaves_of_advanceAll? advanced, pieces, ?_⟩, ?_,
    tokenOf?_of_after? linked⟩
  · rw [written]
    exact url.sameButQuery_withQuery _
  · rw [written, Uri.Url.query?_withQuery, unchanged]
  · have noOther : others.filter (fun pair => pair.1 = tokenOption) = [] := by
      simpa using named
    rw [pairs, List.filter_append, noOther]
    simp

/-- A page of nine entities leaves three and one of what the numeric top options
ask for.  The token has characters that a query keeps for itself, others that it
encodes, and some of more than one byte. -/
theorem link_keeps_query_of_standings :
    let token := "town:'Łódź & +=%41'".toList
    ∃ link, after? standingsUrl 9 token = some link ∧
      link.SameButQuery standingsUrl ∧
      link.pieces = ["$top=3".toList, "%24ToP=1".toList, "$TOP=ten".toList,
        "game=1".toList, tokenSegment token] ∧
      link.queryPairs.filter (fun pair => pair.1 = tokenOption) =
        [(tokenOption, token)] := by
  intro token
  obtain ⟨_, carries⟩ := link_keeps_query_and_carries_token standingsUrl 9 token
  obtain ⟨link, linked⟩ : ∃ link, after? standingsUrl 9 token = some link :=
    ⟨_, rfl⟩
  obtain ⟨same, _, carried, _⟩ := carries link linked
  obtain ⟨left, advanced, _, pieces⟩ := pieces_after? linked
  have counted : advanceAll? 9 standingsUrl.pieces =
      some ["$top=3".toList, "%24ToP=1".toList, "$TOP=ten".toList,
        "game=1".toList] := by
    decide
  rw [counted] at advanced
  cases advanced
  exact ⟨link, linked, same, pieces, carried⟩

end NextLink

end KeysetPaging

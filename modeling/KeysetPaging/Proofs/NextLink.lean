import KeysetPaging.NextLink
import KeysetPaging.Proofs.Text.Numeral
import KeysetPaging.Proofs.Uri.Percent
import Mathlib.Data.Bool.AllAny

/-!
# Next links

A next link carries the token it was written for.  Its query is put together
from pieces that already stood in a query and from the piece of the token, so
setting it encodes nothing anew, and cutting it gives the same pieces back.  No
piece before the last one passes for a token: a name that reads as the token
option in a form reads so in percent decoding as well, and is dropped.
-/

namespace KeysetPaging

namespace Uri

/-- A nonempty piece between two ampersands of a query. -/
structure IsPiece (isSpecial : Bool) (text : List Char) : Prop where
  nonempty : text ≠ []
  undivided : '&' ∉ text
  kept : ∀ c ∈ text, keptInQuery isSpecial c = true

theorem isPiece_of_mem_querySegments {isSpecial : Bool} {query : List Char}
    (kept : ∀ c ∈ query, keptInQuery isSpecial c = true) {text : List Char}
    (listed : text ∈ querySegments query) : IsPiece isSpecial text := by
  obtain ⟨split, full⟩ := List.mem_filter.mp listed
  refine ⟨by simpa using full, ?_, ?_⟩
  · intro member
    exact (Text.mem_of_mem_splitOn split member).2 rfl
  · intro c member
    exact kept c (Text.mem_of_mem_splitOn split member).1

theorem querySegments_intercalate {isSpecial : Bool} {pieces : List (List Char)}
    (arePieces : ∀ text ∈ pieces, IsPiece isSpecial text) :
    querySegments (['&'].intercalate pieces) = pieces := by
  by_cases none : pieces = []
  · rw [none]
    rfl
  · rw [querySegments, List.splitOn_intercalate '&'
      (fun text listed => (arePieces text listed).undivided) none]
    refine List.filter_eq_self.mpr fun text listed => ?_
    simpa using (arePieces text listed).nonempty

theorem kept_of_mem_intercalate {isSpecial : Bool} {pieces : List (List Char)}
    (arePieces : ∀ text ∈ pieces, IsPiece isSpecial text) :
    ∀ c ∈ ['&'].intercalate pieces, keptInQuery isSpecial c = true := by
  induction pieces with
  | nil => simp
  | cons first pieces induction =>
      have firstKept := (arePieces first List.mem_cons_self).kept
      have restKept := induction fun text listed =>
        arePieces text (List.mem_cons_of_mem _ listed)
      cases pieces with
      | nil =>
          rw [List.intercalate_singleton]
          exact firstKept
      | cons second pieces =>
          intro c member
          rw [List.intercalate_cons_cons, List.append_assoc] at member
          rcases List.mem_append.mp member with inFirst | inRest
          · exact firstKept c inFirst
          · rcases List.mem_append.mp inRest with mark | inRest
            · rw [List.mem_singleton.mp mark]
              cases isSpecial <;> decide
            · exact restKept c inRest

theorem keptInQuery_of_isAlphanum (isSpecial : Bool) {c : Char}
    (alphanumeric : c.isAlphanum = true) : keptInQuery isSpecial c = true := by
  have notException : c ∉ queryExceptions ∧ c ≠ '\'' := by
    constructor
    · intro member
      have exceptions : ∀ c ∈ queryExceptions, c.isAlphanum = false :=
        List.all_iff_forall_prop.mp (by decide)
      rw [exceptions c member] at alphanumeric
      cases alphanumeric
    · rintro rfl
      exact absurd alphanumeric (by decide)
  have range := Text.isAlphanum_iff_toNat.mp alphanumeric
  have low : '!' ≤ c := by
    rw [Char.le_def, UInt32.le_iff_toNat_le]
    change 33 ≤ c.toNat
    omega
  have high : c ≤ '\x7e' := by
    rw [Char.le_def, UInt32.le_iff_toNat_le]
    change c.toNat ≤ 126
    omega
  simp [keptInQuery, low, high, notException.1, notException.2]

theorem fits_of_isAlphanum {isSpecial : Bool} {c : Char}
    (alphanumeric : c.isAlphanum = true) :
    c ≠ '&' ∧ keptInQuery isSpecial c = true := by
  refine ⟨?_, keptInQuery_of_isAlphanum isSpecial alphanumeric⟩
  rintro rfl
  exact absurd alphanumeric (by decide)

theorem kept_of_mem_encode {isSpecial : Bool} {text : List Char} {c : Char}
    (member : c ∈ encode text) :
    c ≠ '&' ∧ keptInQuery isSpecial c = true := by
  refine mem_encodeExcept
    (P := fun c => c ≠ '&' ∧ keptInQuery isSpecial c = true) ?_ ?_ ?_ member
  · intro c unreserved
    simp only [isUnreserved, Bool.or_eq_true, beq_iff_eq] at unreserved
    rcases unreserved with (((alphanumeric | rfl) | rfl) | rfl) | rfl
    · exact fits_of_isAlphanum alphanumeric
    all_goals cases isSpecial <;> decide
  · cases isSpecial <;> decide
  · intro n small
    refine ⟨?_, keptInQuery_upperHexDigit isSpecial small⟩
    revert n
    decide

theorem isPiece_append_equals {isSpecial : Bool} {name value : List Char}
    (nameFits : ∀ c ∈ name, c ≠ '&' ∧ keptInQuery isSpecial c = true)
    (valueFits : ∀ c ∈ value, c ≠ '&' ∧ keptInQuery isSpecial c = true) :
    IsPiece isSpecial (name ++ '=' :: value) := by
  have fits : ∀ c ∈ name ++ '=' :: value,
      c ≠ '&' ∧ keptInQuery isSpecial c = true := by
    intro c member
    rcases List.mem_append.mp member with inName | rest
    · exact nameFits c inName
    · rcases List.mem_cons.mp rest with rfl | inValue
      · cases isSpecial <;> decide
      · exact valueFits c inValue
  exact ⟨by simp, fun member => (fits '&' member).1 rfl,
    fun c member => (fits c member).2⟩

namespace Url

def pieces (url : Url) : List (List Char) :=
  querySegments (url.query?.getD [])

theorem isPiece_of_mem_pieces {url : Url} {text : List Char}
    (listed : text ∈ url.pieces) :
    IsPiece (isSpecialScheme url.scheme) text := by
  refine isPiece_of_mem_querySegments ?_ listed
  cases present : url.query? with
  | none => simp
  | some query => exact url.query_kept query present

theorem pieces_withQuery {url : Url} {pieces : List (List Char)}
    (arePieces : ∀ text ∈ pieces,
      IsPiece (isSpecialScheme url.scheme) text) :
    (url.withQuery (['&'].intercalate pieces)).pieces = pieces := by
  have unchanged := encodeQuery_of_kept (kept_of_mem_intercalate arePieces)
  simp only [Url.pieces, withQuery, Option.getD_some, unchanged]
  exact querySegments_intercalate arePieces

end Url

end Uri

namespace NextLink

theorem advanceAll?_cons (pageSize : Nat) (text : List Char)
    (texts : List (List Char)) :
    advanceAll? pageSize (text :: texts) =
      (advance? pageSize (readSegment text)).bind fun first =>
        (advanceAll? pageSize texts).map fun rest => first ++ rest := by
  simp only [advanceAll?, List.mapM_cons]
  cases advance? pageSize (readSegment text) with
  | none => rfl
  | some first =>
      cases texts.mapM fun text => advance? pageSize (readSegment text) with
      | none => rfl
      | some rest => rfl

theorem exists_of_mem_advanceAll? {pageSize : Nat}
    {texts pieces : List (List Char)}
    (advanced : advanceAll? pageSize texts = some pieces) {piece : List Char}
    (listed : piece ∈ pieces) :
    ∃ text ∈ texts, ∃ made, advance? pageSize (readSegment text) = some made ∧
      piece ∈ made := by
  induction texts generalizing pieces with
  | nil =>
      cases advanced
      cases listed
  | cons text texts induction =>
      rw [advanceAll?_cons] at advanced
      obtain ⟨first, made, remains⟩ := Option.bind_eq_some_iff.mp advanced
      obtain ⟨rest, restMade, rfl⟩ := Option.map_eq_some_iff.mp remains
      rcases List.mem_append.mp listed with inFirst | inRest
      · exact ⟨text, List.mem_cons_self, first, made, inFirst⟩
      · obtain ⟨source, member, made⟩ := induction restMade inRest
        exact ⟨source, List.mem_cons_of_mem _ member, made⟩

theorem mem_of_mem_cutValue {text : List Char} {c : Char}
    (member : c ∈ (Uri.cutValue text).1) : c ∈ text ∧ c ≠ '=' := by
  simp only [Uri.cutValue, Text.cutAt] at member
  induction text with
  | nil => cases member
  | cons first text induction =>
      by_cases mark : first = '='
      · simp [Text.cutWhere, mark] at member
      · simp only [Text.cutWhere, beq_iff_eq, mark, if_false, List.mem_cons]
          at member
        rcases member with rfl | inside
        · exact ⟨List.mem_cons_self, mark⟩
        · obtain ⟨inText, other⟩ := induction inside
          exact ⟨List.mem_cons_of_mem _ inText, other⟩

theorem cutValue_append {name : List Char} (whole : '=' ∉ name)
    (value : List Char) : Uri.cutValue (name ++ '=' :: value) = (name, value) := by
  simp [Uri.cutValue, Text.cutAt_append whole]

/-- The option that a piece names, as links recognise it. -/
def optionName (text : List Char) : List Char :=
  (decodeOr (Uri.cutValue text).1).map Char.toLower

theorem readSegment_cases (text : List Char) :
    match readSegment text with
    | .dropped => True
    | .top rawName count =>
        rawName = (Uri.cutValue text).1 ∧ optionName text = "$top".toList ∧
          topCount? (Uri.cutValue text).2 = some count
    | .kept same => same = text ∧ optionName text ≠ tokenOption := by
  simp only [readSegment]
  by_cases dropped : optionName text = "$skip".toList ∨
      optionName text = tokenOption
  · rw [if_pos (by exact dropped)]
    trivial
  · rw [if_neg (by exact dropped)]
    have notToken : optionName text ≠ tokenOption :=
      fun same => dropped (.inr same)
    by_cases top : optionName text = "$top".toList
    · rw [if_pos (by exact top)]
      cases topCount? (Uri.cutValue text).2 with
      | none => exact ⟨rfl, notToken⟩
      | some count => exact ⟨rfl, top, rfl⟩
    · rw [if_neg (by exact top)]
      exact ⟨rfl, notToken⟩

/-- A name that a form reads as the token option is recognised as such. -/
theorem optionName_of_decodeForm {text : List Char}
    (read : Uri.decodeForm (Uri.cutValue text).1 = tokenOption) :
    optionName text = tokenOption := by
  have decoded := Uri.decode?_of_decodeForm read (by decide) (by decide)
  rw [optionName, decodeOr, decoded, Option.getD_some]
  decide

/-- The pieces that an option leaves behind are pieces, and no token. -/
theorem isPiece_of_mem_advance? {isSpecial : Bool} {pageSize : Nat}
    {text : List Char} {made : List (List Char)}
    (isPiece : Uri.IsPiece isSpecial text)
    (advanced : advance? pageSize (readSegment text) = some made)
    {piece : List Char} (listed : piece ∈ made) :
    Uri.IsPiece isSpecial piece ∧
      Uri.decodeForm (Uri.cutValue piece).1 ≠ tokenOption := by
  have told := readSegment_cases text
  cases read : readSegment text with
  | dropped =>
      rw [read] at advanced
      cases advanced
      cases listed
  | kept same =>
      rw [read] at told advanced
      obtain ⟨rfl, other⟩ := told
      cases advanced
      rw [List.mem_singleton.mp listed]
      exact ⟨isPiece, fun named => other (optionName_of_decodeForm named)⟩
  | top rawName count =>
      rw [read] at told advanced
      obtain ⟨rfl, isTop, _⟩ := told
      simp only [advance?] at advanced
      split at advanced
      · cases advanced
      · cases advanced
        have whole : '=' ∉ (Uri.cutValue text).1 :=
          fun member => (mem_of_mem_cutValue member).2 rfl
        rw [List.mem_singleton.mp listed, cutValue_append whole]
        constructor
        · apply Uri.isPiece_append_equals
          · intro c member
            have inside := (mem_of_mem_cutValue member).1
            exact ⟨fun mark => isPiece.undivided (mark ▸ inside),
              isPiece.kept c inside⟩
          · exact fun c member => Uri.fits_of_isAlphanum
              (Text.isAlphanum_of_isDigit (Text.isDigit_of_mem_digits member))
        · intro named
          have token := optionName_of_decodeForm named
          rw [isTop] at token
          exact absurd token (by decide)

theorem isPiece_tokenSegment (isSpecial : Bool) (token : List Char) :
    Uri.IsPiece isSpecial (tokenSegment token) := by
  have named : ∀ c ∈ tokenOption,
      c ≠ '&' ∧ Uri.keptInQuery isSpecial c = true := by
    cases isSpecial <;> exact List.all_iff_forall_prop.mp (by decide)
  exact Uri.isPiece_append_equals named fun _ => Uri.kept_of_mem_encode

theorem isPiece_of_mem_advanceAll? {url : Uri.Url} {pageSize : Nat}
    {made : List (List Char)}
    (advanced : advanceAll? pageSize url.pieces = some made)
    {piece : List Char} (listed : piece ∈ made) :
    Uri.IsPiece (Uri.isSpecialScheme url.scheme) piece ∧
      Uri.decodeForm (Uri.cutValue piece).1 ≠ tokenOption := by
  obtain ⟨text, member, pieces, madeHere, inside⟩ :=
    exists_of_mem_advanceAll? advanced listed
  exact isPiece_of_mem_advance? (Uri.Url.isPiece_of_mem_pieces member) madeHere
    inside

theorem isPiece_of_mem_written {url : Uri.Url} {pageSize : Nat}
    {made : List (List Char)}
    (advanced : advanceAll? pageSize url.pieces = some made)
    (token : List Char) :
    ∀ piece ∈ made ++ [tokenSegment token],
      Uri.IsPiece (Uri.isSpecialScheme url.scheme) piece := by
  intro piece listed
  rcases List.mem_append.mp listed with left | last
  · exact (isPiece_of_mem_advanceAll? advanced left).1
  · rw [List.mem_singleton.mp last]
    exact isPiece_tokenSegment _ token

/-- A next link differs from the request in its query.  Its pieces are those that
the request leaves and the piece of the token. -/
theorem pieces_after? {url link : Uri.Url} {pageSize : Nat}
    {token : List Char} (linked : after? url pageSize token = some link) :
    ∃ made, advanceAll? pageSize url.pieces = some made ∧
      link = url.withQuery
        (['&'].intercalate (made ++ [tokenSegment token])) ∧
      link.pieces = made ++ [tokenSegment token] := by
  obtain ⟨made, advanced, rfl⟩ := Option.map_eq_some_iff.mp linked
  exact ⟨made, advanced, rfl,
    Uri.Url.pieces_withQuery (isPiece_of_mem_written advanced token)⟩

theorem cutValue_tokenSegment (token : List Char) :
    Uri.cutValue (tokenSegment token) = (tokenOption, Uri.encode token) :=
  cutValue_append (by decide) _

/-- The last value of a link is its token, and no value before has the name. -/
theorem exists_queryPairs_after? {url link : Uri.Url} {pageSize : Nat}
    {token : List Char} (linked : after? url pageSize token = some link) :
    ∃ others, link.queryPairs = others ++ [(tokenOption, token)] ∧
      ∀ pair ∈ others, pair.1 ≠ tokenOption := by
  obtain ⟨made, advanced, _, pieces⟩ := pieces_after? linked
  have name : Uri.decodeForm tokenOption = tokenOption := by decide
  refine ⟨made.map fun piece => (Uri.decodeForm (Uri.cutValue piece).1,
    Uri.decodeForm (Uri.cutValue piece).2), ?_, ?_⟩
  · rw [Uri.Url.queryPairs, Uri.queryPairs, ← Uri.Url.pieces, pieces,
      List.map_append]
    simp [cutValue_tokenSegment, name, Uri.decodeForm_encode]
  · intro pair listed
    obtain ⟨piece, member, rfl⟩ := List.mem_map.mp listed
    exact (isPiece_of_mem_advanceAll? advanced member).2

theorem tokenOf?_of_after? {url link : Uri.Url} {pageSize : Nat}
    {token : List Char} (linked : after? url pageSize token = some link) :
    tokenOf? link = some token := by
  obtain ⟨others, pairs, named⟩ := exists_queryPairs_after? linked
  have absent : others.lookup tokenOption = none := by
    rw [List.lookup_eq_none_iff]
    intro pair listed
    simpa using (named pair listed).symm
  rw [tokenOf?, pairs, List.lookup_append, absent, Option.none_or]
  simp

/-- A URL without a top option that its pages could use up. -/
def Unlimited (url : Uri.Url) : Prop :=
  ∀ text ∈ url.pieces, ∀ rawName count, readSegment text ≠ .top rawName count

theorem readSegment_tokenSegment (token : List Char) :
    readSegment (tokenSegment token) = .dropped := by
  have name : (decodeOr tokenOption).map Char.toLower = tokenOption := by decide
  simp only [readSegment, cutValue_tokenSegment, name]
  rw [if_pos (.inr trivial)]

end NextLink

end KeysetPaging

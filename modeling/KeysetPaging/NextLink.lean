import KeysetPaging.Text.Blank
import KeysetPaging.Text.Numeral
import KeysetPaging.Uri.Url

/-!
# Next links

The link to the next page repeats the request.  Its skip and skip token options
are dropped, a numeric top option is reduced by the page just served, and the
new token is appended; every other piece of the query keeps its text and its
place.  Option names are recognised after percent decoding and in any letter
case.

There is no next page when the page just served uses up a top option.
-/

namespace KeysetPaging

namespace NextLink

def tokenOption : List Char := "$skiptoken".toList

/-- What a piece of a query means for the next link. -/
inductive Segment where
  /-- A skip or skip token option. -/
  | dropped
  /-- A numeric top option, with its name as it is written. -/
  | top (rawName : List Char) (count : Nat)
  | kept (text : List Char)
deriving DecidableEq

/-- A text after percent decoding, or as it is when it does not decode. -/
def decodeOr (text : List Char) : List Char :=
  (Uri.decode? text).getD text

def topCount? (value : List Char) : Option Nat :=
  Text.unsigned64? (Text.trim (decodeOr value))

/-- Reads a piece of a query. -/
def readSegment (text : List Char) : Segment :=
  let (rawName, value) := Uri.cutValue text
  let name := (decodeOr rawName).map Char.toLower
  if name = "$skip".toList ∨ name = tokenOption then .dropped
  else if name = "$top".toList then
    match topCount? value with
    | some count => .top rawName count
    | none => .kept text
  else .kept text

/-- The pieces that take the place of a piece after a page, or none when the
page uses up its top option. -/
def advance? (pageSize : Nat) : Segment → Option (List (List Char))
  | .dropped => some []
  | .kept text => some [text]
  | .top rawName count =>
      if count ≤ pageSize then none
      else some [rawName ++ '=' :: Text.digits (count - pageSize)]

def advanceAll? (pageSize : Nat) (segments : List (List Char)) :
    Option (List (List Char)) :=
  (segments.mapM fun text => advance? pageSize (readSegment text)).map
    List.flatten

def tokenSegment (token : List Char) : List Char :=
  tokenOption ++ '=' :: Uri.encode token

/-- The link to the page after one of the given size, which ends at the entity
of the token. -/
def after? (url : Uri.Url) (pageSize : Nat) (token : List Char) :
    Option Uri.Url :=
  (advanceAll? pageSize (Uri.querySegments (url.query?.getD []))).map
    fun segments =>
      url.withQuery (['&'].intercalate (segments ++ [tokenSegment token]))

/-- The token that a URL carries: the value of the first option of exactly that
name. -/
def tokenOf? (url : Uri.Url) : Option (List Char) :=
  url.queryPairs.lookup tokenOption

end NextLink

end KeysetPaging

import KeysetPaging.Text.Numeral
import KeysetPaging.Uri.Percent

/-!
# URLs

An absolute URL is a scheme, an authority where the scheme has one, a path, and
optionally a query and a fragment.  Reading brings a URL into its normal form:
scheme and host in lower case, no number after the host that the scheme implies
anyway, a path of at least a slash after a host, and a query in percent coding.

Only the special schemes have hosts that are names, and they encode the single
quote in a query where other schemes keep it.  All of them but the one for files
demand a host.
-/

namespace KeysetPaging.Uri

/-- Why a text is no absolute URL. -/
inductive UrlFault where
  | missingScheme
  /-- There is no host, and the scheme demands one or the authority goes on
  without it. -/
  | emptyHost
  /-- The host is not followed by a number of 16 bits. -/
  | invalidHostNumber
deriving DecidableEq

namespace UrlFault

def message : UrlFault → String
  | .missingScheme => "relative URL without a base"
  | .emptyHost => "empty host"
  | .invalidHostNumber => "invalid port number"

end UrlFault

/-- The part of a URL that names a server. -/
structure Authority where
  userInfo? : Option (List Char)
  host : List Char
  hostNumber? : Option Nat
deriving DecidableEq

/-- The special schemes, each with the number of the service it implies, if
there is a service. -/
def specialSchemes : List (List Char × Option Nat) :=
  [("http".toList, some 80), ("https".toList, some 443),
    ("ws".toList, some 80), ("wss".toList, some 443),
    ("ftp".toList, some 21), ("file".toList, none)]

/-- The number of the service that a scheme implies. -/
def impliedNumber? (scheme : List Char) : Option Nat :=
  (specialSchemes.lookup scheme).join

def isSpecialScheme (scheme : List Char) : Bool :=
  (specialSchemes.lookup scheme).isSome

/-- Whether a scheme names a service, which is at a host. -/
def demandsHost (scheme : List Char) : Bool :=
  (impliedNumber? scheme).isSome

/-- The visible ASCII characters that no query may hold. -/
def queryExceptions : List Char :=
  ['"', '#', '<', '>']

/-- Whether a character stands for itself in a query, of a URL with a special
scheme or with another. -/
def keptInQuery (isSpecial : Bool) (c : Char) : Bool :=
  '!' ≤ c && c ≤ '\x7e' && !queryExceptions.contains c &&
    !(c == '\'' && isSpecial)

/-- A query with the characters it may not hold in percent coding. -/
def encodeQuery (isSpecial : Bool) (query : List Char) : List Char :=
  encodeExcept (keptInQuery isSpecial) query

theorem keptInQuery_upperHexDigit (isSpecial : Bool) {n : Nat} (small : n < 16) :
    keptInQuery isSpecial (Text.upperHexDigit n) = true := by
  revert n isSpecial
  decide

theorem keptInQuery_of_mem_encodeQuery {isSpecial : Bool} {query : List Char}
    {c : Char} (member : c ∈ encodeQuery isSpecial query) :
    keptInQuery isSpecial c = true := by
  refine mem_encodeExcept (P := fun c => keptInQuery isSpecial c = true)
    (fun c kept => kept) ?_ ?_ member
  · cases isSpecial <;> decide
  · intro n small
    exact keptInQuery_upperHexDigit isSpecial small

theorem encodeQuery_of_kept {isSpecial : Bool} {query : List Char}
    (kept : ∀ c ∈ query, keptInQuery isSpecial c = true) :
    encodeQuery isSpecial query = query :=
  encodeExcept_of_kept kept

/-- An absolute URL.  Its query is in percent coding. -/
structure Url where
  scheme : List Char
  authority? : Option Authority
  path : List Char
  query? : Option (List Char)
  fragment? : Option (List Char)
  query_kept : ∀ query, query? = some query →
    ∀ c ∈ query, keptInQuery (isSpecialScheme scheme) c = true
deriving DecidableEq

namespace Url

/-- A text without control characters and spaces at either end, and without
tabs and line breaks anywhere. -/
def cleaned (text : List Char) : List Char :=
  let outer := fun c : Char => decide (c ≤ ' ')
  let trimmed := ((text.dropWhile outer).reverse.dropWhile outer).reverse
  trimmed.filter fun c => c != '\t' && c != '\n' && c != '\x0d'

/-- A text cut before the first character of a kind. -/
def cutBefore (stops : Char → Bool) (text : List Char) :
    List Char × List Char :=
  text.span (fun c => !stops c)

/-- The scheme of a text, in lower case, and the text after its colon. -/
def readScheme? (text : List Char) : Option (List Char × List Char) :=
  match Text.cutAt ':' text with
  | (c :: name, some rest) =>
      if c.isAlpha && name.all (fun c => c.isAlphanum || "+-.".contains c) then
        some ((c :: name).map Char.toLower, rest)
      else none
  | _ => none

/-- The number after a host and a colon.  One that is absent or implied is
none. -/
def readHostNumber (scheme text : List Char) : Except UrlFault (Option Nat) :=
  if text.isEmpty then .ok none
  else match Text.natural? text with
    | none => .error .invalidHostNumber
    | some number =>
        if 65535 < number then .error .invalidHostNumber
        else if impliedNumber? scheme = some number then .ok none
        else .ok (some number)

/-- The host of an authority and the text after its colon, if there is one.  The
colons of a host in square brackets are its own. -/
def cutHost (text : List Char) : List Char × Option (List Char) :=
  let (inner, rest) :=
    if text.head? = some '[' then cutBefore (· == ']') text else ([], text)
  let (outer, number?) := Text.cutAt ':' rest
  (inner ++ outer, number?)

/-- The user information of an authority and what follows its last at sign. -/
def cutUserInfo (text : List Char) : Option (List Char) × List Char :=
  match Text.cutAt '@' text.reverse with
  | (rest, some userInfo) => (some userInfo.reverse, rest.reverse)
  | (_, none) => (none, text)

/-- Reads an authority.  One that has user information or a colon has a host
also where the scheme demands none. -/
def readAuthority (scheme text : List Char) : Except UrlFault Authority := do
  let (userInfo?, rest) := cutUserInfo text
  let (host, number?) := cutHost rest
  if host.isEmpty &&
      (demandsHost scheme || userInfo?.isSome || number?.isSome) then
    .error .emptyHost
  else
    let hostNumber? ← readHostNumber scheme (number?.getD [])
    let host := if isSpecialScheme scheme then host.map Char.toLower else host
    .ok ⟨userInfo?, host, hostNumber?⟩

/-- The authority of a URL for files.  The local host goes unnamed. -/
def fileAuthority (text : List Char) : Authority :=
  let host := text.map Char.toLower
  ⟨none, if host = "localhost".toList then [] else host, none⟩

/-- A path that begins with a slash. -/
def rootedPath (path : List Char) : List Char :=
  if path.head? = some '/' then path else '/' :: path

/-- Reads what follows the scheme of a URL, its query and fragment taken off:
an authority, if there is one, and a path. -/
def readLocation (scheme text : List Char) :
    Except UrlFault (Option Authority × List Char) :=
  let isSlash := fun c : Char => c == '/'
  if demandsHost scheme then do
    let (authorityText, path) := cutBefore isSlash (text.dropWhile isSlash)
    let authority ← readAuthority scheme authorityText
    .ok (some authority, rootedPath path)
  else match isSpecialScheme scheme, text with
    | true, '/' :: '/' :: rest =>
        let (authorityText, path) := cutBefore isSlash rest
        .ok (some (fileAuthority authorityText), rootedPath path)
    | true, path => .ok (some (fileAuthority []), rootedPath path)
    | false, '/' :: '/' :: rest => do
        let (authorityText, path) := cutBefore isSlash rest
        let authority ← readAuthority scheme authorityText
        .ok (some authority, path)
    | false, path => .ok (none, path)

def parse (text : List Char) : Except UrlFault Url :=
  match readScheme? (cleaned text) with
  | none => .error .missingScheme
  | some (scheme, rest) => do
      let (rest, fragment?) := Text.cutAt '#' rest
      let (rest, query?) := Text.cutAt '?' rest
      let (authority?, path) ← readLocation scheme rest
      let encoded := query?.map (encodeQuery (isSpecialScheme scheme))
      .ok ⟨scheme, authority?, path, encoded, fragment?, by
        intro query present c member
        obtain ⟨raw, _, rfl⟩ := Option.map_eq_some_iff.mp present
        exact keptInQuery_of_mem_encodeQuery member⟩

def withQuery (url : Url) (query : List Char) : Url :=
  { url with
    query? := some (encodeQuery (isSpecialScheme url.scheme) query)
    query_kept := by
      intro encoded present c member
      cases present
      exact keptInQuery_of_mem_encodeQuery member }

def authorityText (authority : Authority) : List Char :=
  let userInfo := match authority.userInfo? with
    | none => []
    | some userInfo => userInfo ++ ['@']
  let number := match authority.hostNumber? with
    | none => []
    | some number => ':' :: Text.digits number
  userInfo ++ authority.host ++ number

/-- The text of an optional part, after the mark that begins it. -/
def markedText (mark : List Char) : Option (List Char) → List Char
  | none => []
  | some text => mark ++ text

def text (url : Url) : List Char :=
  url.scheme ++ ':' ::
    (markedText ['/', '/'] (url.authority?.map authorityText) ++ url.path ++
      markedText ['?'] url.query? ++ markedText ['#'] url.fragment?)

/-- The named values of the query of a URL. -/
def queryPairs (url : Url) : List (List Char × List Char) :=
  Uri.queryPairs (url.query?.getD [])

end Url

end KeysetPaging.Uri

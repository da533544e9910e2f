import ChatAssistant.Backend.Url.Site

/-!
Addresses of places on the net, and the place that a reference at another place leads to.
-/

namespace ChatAssistant

open Text

/-- The address of a place that a request can be sent to. Its number within the site is left
out where it goes without saying, and so is the name of a user. -/
structure Url where
  isSecure : Bool
  site : Url.Site
  portNumber : Option Nat := none
  /-- The parts of the path, each behind a slash. -/
  path : List (List Char) := [[]]
  query : Option (List Char) := none
  deriving DecidableEq, Repr

namespace Url

def plainScheme : List Char := "http".toList

def secureScheme : List Char := "https".toList

def scheme (url : Url) : List Char :=
  if url.isSecure then secureScheme else plainScheme

def placeText (url : Url) : List Char :=
  url.path.flatMap ('/' :: ·) ++ (url.query.map ('?' :: ·)).getD []

def text (url : Url) : List Char :=
  url.scheme ++ "://".toList ++ url.site.text ++
    (url.portNumber.map fun number => ':' :: Decimal.digits number).getD [] ++ url.placeText

def isPathCharacter (char : Char) : Bool :=
  0x20 < char.toNat && char.toNat < 0x7F &&
    !(['\"', '<', '>', '\x60', '#', '?', '\x7b', '\x7d'].contains char)

def isQueryCharacter (char : Char) : Bool :=
  0x20 < char.toNat && char.toNat < 0x7F && !(['\"', '<', '>', '#', '\''].contains char)

/-- A backslash is as good as a slash. -/
def isSlash (char : Char) : Bool :=
  char = '/' || char = '\\'

/-- A dot in a part of a path that says where to go. -/
def dotSpellings : List (List Char) := [".", "%2e"].map String.toList

def staysHere (part : List Char) : Bool :=
  dotSpellings.contains (part.map Char.toLower)

def goesBack (part : List Char) : Bool :=
  (dotSpellings.flatMap fun first => dotSpellings.map (first ++ ·)).contains
    (part.map Char.toLower)

/-- Follows the parts of a path. `passed` holds the parts of the way, the last one first; a way
that ends in going somewhere ends in an empty part. -/
def follow (passed : List (List Char)) : List (List Char) → List (List Char)
  | [] => passed.reverse
  | [last] =>
      if goesBack last then ([] :: passed.tail).reverse
      else if staysHere last then ([] :: passed).reverse
      else (percentEncodedUnless isPathCharacter last :: passed).reverse
  | part :: rest =>
      if goesBack part then follow passed.tail rest
      else if staysHere part then follow passed rest
      else follow (percentEncodedUnless isPathCharacter part :: passed) rest

def pathFrom (passed : List (List Char)) (text : List Char) : List (List Char) :=
  follow passed (parts isSlash text)

def encodedQuery (query : List Char) : List Char :=
  percentEncodedUnless isQueryCharacter query

def portLimit : Nat := 0x10000

/-- The number within a site, unless it is the one that goes without saying. -/
def readPort? (usual : Option Nat) (text : List Char) : Option (Option Nat) := do
  let portNumber ← numberInBase? 10 text
  if portNumber < portLimit then
    return if text.isEmpty || some portNumber = usual then none else some portNumber
  else none

/-- The schemes whose addresses are built alike, and the numbers that go without saying. -/
def usualPorts : List (List Char × Nat) :=
  [("http".toList, 80), ("https".toList, 443), ("ws".toList, 80), ("wss".toList, 443),
    ("ftp".toList, 21)]

def behindLast (mark : Char) (text : List Char) : List Char :=
  (text.reverse.takeWhile (· ≠ mark)).reverse

/-- The part before the colon in front of a number. A colon in brackets is none. -/
def siteText (text : List Char) : List Char :=
  match text with
  | '[' :: _ =>
      let inner := text.takeWhile (· ≠ ']')
      inner ++ (text.drop inner.length).takeWhile (· ≠ ':')
  | _ => text.takeWhile (· ≠ ':')

def readAuthority? (scheme text : List Char) : Option (Site × Option Nat) := do
  let text := behindLast '@' text
  let site := siteText text
  let portNumber ←
    match text.drop site.length with
    | ':' :: digits => readPort? (usualPorts.lookup scheme) digits
    | _ => some none
  return (← Site.read? site, portNumber)

/-- What a reference leads to: a place that requests can be sent to, or one of another kind. -/
inductive Destination where
  | place (url : Url)
  | foreign
  deriving DecidableEq, Repr

def readFull? (scheme text : List Char) (query : Option (List Char)) : Option Destination := do
  let (site, portNumber) ← readAuthority? scheme (text.takeWhile (!isSlash ·))
  if scheme = plainScheme ∨ scheme = secureScheme then
    return .place {
      isSecure := scheme = secureScheme
      site, portNumber
      path := pathFrom [] ((text.dropWhile (!isSlash ·)).drop 1)
      query := query.map encodedQuery }
  else return .foreign

def readRelative? (base : Url) (text : List Char) (query : Option (List Char)) :
    Option Destination :=
  let encoded := query.map encodedQuery
  match text with
  | [] => some (.place { base with query := encoded.or base.query })
  | first :: rest =>
      if isSlash first then
        if rest.head?.any isSlash then
          readFull? base.scheme (rest.dropWhile isSlash) query
        else some (.place { base with path := pathFrom [] rest, query := encoded })
      else
        some (.place {
          base with
          path := pathFrom base.path.dropLast.reverse (first :: rest)
          query := encoded })

def isScheme : List Char → Bool
  | [] => false
  | char :: text =>
      char.isAlpha && text.all fun char => char.isAlphanum || ['+', '-', '.'].contains char

def readScheme? (text : List Char) : Option (List Char × List Char) :=
  match cut ':' text with
  | (scheme, some rest) =>
      if isScheme scheme then some (scheme.map Char.toLower, rest) else none
  | (_, none) => none

def isAuthorityLike (text : List Char) : Bool :=
  let named := behindLast '@' text
  !named.isEmpty && (named.filter (· = ':')).length ≤ 1 &&
    text.all fun char =>
      char.toNat < 0x80 && (char = ':' || char = '@' || Site.isNameCharacter char)

/-- Whether an address of another kind counts as one: it names a site behind two slashes, or it
looks like a site itself. -/
def isForeign (scheme rest : List Char) (query fragment : Option (List Char)) : Bool :=
  match rest with
  | '/' :: '/' :: rest =>
      isAuthorityLike (rest.takeWhile (· ≠ '/')) &&
        !(scheme = "file".toList && rest.takeWhile (· ≠ '/') = "localhost".toList)
  | _ =>
      query.isNone && fragment.isNone && scheme ≠ "file".toList &&
        isAuthorityLike (scheme ++ ':' :: rest)

/-- The characters that a reference may begin and end with but that are not part of it. -/
def isPadding (char : Char) : Bool :=
  char.toNat ≤ 0x20

def stripped (text : List Char) : List Char :=
  (((text.dropWhile isPadding).reverse.dropWhile isPadding).reverse).filter
    fun char => !(['\t', '\n', '\r'].contains char)

/-- The destination of a reference at a place, if it is well formed. Its fragment is not part
of a place. -/
def resolve? (base : Url) (reference : List Char) : Option Destination :=
  let (text, fragment) := cut '#' (stripped reference)
  let (text, query) := cut '?' text
  match readScheme? text with
  | none => readRelative? base text query
  | some (scheme, rest) =>
      if (usualPorts.lookup scheme).isSome then
        if scheme = base.scheme && (rest.takeWhile isSlash).length < 2 then
          readRelative? base rest query
        else readFull? scheme (rest.dropWhile isSlash) query
      else if isForeign scheme rest query fragment then some .foreign
      else none

end Url

end ChatAssistant

import ProseCheck.Text.Digits
import ProseCheck.Text.Numeral
import ProseCheck.Url.Host

/-!
# URLs

A URL is read into its parts, each of which is brought to the one form in which it is written: a
port that goes without saying is left out, single and double points in a path are followed, and
characters that may not stand in a part are encoded.
-/

namespace ProseCheck

/-- A URL in parts. -/
structure Url where
  /-- Name of the protocol; empty if there is none. -/
  scheme : Text
  /-- Name and password of a user; empty if there are none. -/
  user : Text
  /-- Host; empty if there is none. -/
  host : Text
  /-- Port, unless it goes without saying. -/
  port : Option Int
  /-- Path. -/
  path : Text
  /-- What follows a question mark. -/
  query : Option Text
  /-- What follows a number sign. -/
  fragment : Option Text
deriving DecidableEq, Repr

namespace Url

/-- The URL of nothing. -/
def empty : Url := ⟨[], [], [], none, [], none, none⟩

/-- The URL of the root of a host. -/
def ofHost (scheme host : String) : Url :=
  { empty with scheme := scheme.toList, host := host.toList }

/-- Most characters of a URL. -/
def lengthLimit : Nat := 65536

/-- Whether a character of ASCII shows. -/
def isVisible (char : Char) : Bool := 0x20 < char.toNat && char.toNat < 0x7F

/-- Whether a character may stand in the part of the user. -/
def isSafeInUser (char : Char) : Bool :=
  isVisible char && !"\"#<>?\x60\x7b\x7d/;=@[\\]^|".toList.contains char

/-- Whether a character may stand in a path. -/
def isSafeInPath (char : Char) : Bool :=
  isVisible char && !"\"#<>?\x60\x7b\x7d".toList.contains char

/-- Whether a character may stand in a query. -/
def isSafeInQuery (char : Char) : Bool := isVisible char && !"\"#<>".toList.contains char

/-- Whether a character may stand in a fragment. -/
def isSafeInFragment (char : Char) : Bool := isVisible char && !"\"<>\x60".toList.contains char

/-- Whether a character may stand in the name of a protocol. -/
def isSchemeChar (char : Char) : Bool := char.isAlphanum || "+.-".toList.contains char

/-- Name of the protocol, which a colon ends, and what follows it. -/
def splitScheme (text : Text) : Text × Text :=
  match text.span isSchemeChar with
  | ([], ':' :: rest) => ([], rest)
  | (first :: name, ':' :: rest) => if first.isAlpha then (first :: name, rest) else ([], text)
  | _ => ([], text)

/-- What stands between two slashes and the path, and what follows it. -/
def splitAuthority (text : Text) : Text × Text :=
  match text with
  | '/' :: '/' :: rest => rest.span fun char => char != '/' && char != '?' && char != '#'
  | _ => ([], text)

/-- What stands before a mark, and what follows it if it is there. -/
def splitAt (mark : Char) (text : Text) : Text × Option Text :=
  match text.span (· != mark) with
  | (before, []) => (before, none)
  | (before, _ :: after) => (before, some after)

/-- What stands before the last at sign, and what follows it. -/
def splitUser (text : Text) : Text × Text :=
  match text.reverse.span (· != '@') with
  | (_, []) => ([], text)
  | (host, _ :: user) => (user.reverse, host.reverse)

/-- The host, which may be in brackets, and what follows it. -/
def splitHost (text : Text) : Text × Text :=
  let bare := text.span (· != ':')
  match text with
  | '[' :: _ =>
    match text.reverse.span (· != ']') with
    | (_, []) => bare
    | (after, before) => (before.reverse, after.reverse)
  | _ => bare

/-- Port that goes without saying. -/
def standardPort? (scheme : String) : Option Int :=
  [("ftp", 21), ("http", 80), ("https", 443), ("ws", 80), ("wss", 443)].lookup scheme

/-- The port after a host, unless it goes without saying; none if it is no number. -/
def port? (scheme text : Text) : Option (Option Int) :=
  let written :=
    match text with
    | ':' :: rest => rest
    | _ => text
  if written.isEmpty then some none
  else
    (Numeral.decimal? written).map fun port =>
      if standardPort? (String.ofList scheme) = some port then none else some port

/-- Follows a part of a path: a point stays, and two points lead back, but not past the root. -/
def follow (place : List Text) (part : Text) : List Text :=
  if part = ['.'] then place
  else if part = ['.', '.'] then if place = [] ∨ place = [[]] then place else place.dropLast
  else place ++ [part]

/-- The path without points. -/
def followed (path : Text) : Text :=
  ['/'].intercalate ((Text.splitOn '/' path).foldl follow [])

/-- Whether a URL says where its path starts. -/
def isPlaced (url : Url) : Bool :=
  !(url.scheme.isEmpty && url.user.isEmpty && url.host.isEmpty && url.port.isNone)

/-- Whether a path may stand alone. -/
def mayStandAlone (path : Text) : Bool :=
  !("//".toList.isPrefixOf path || path.head? == some ':')

/-- The URL with its path in the form in which it is written. -/
def withPath (url : Url) (path : Text) : Url :=
  { url with path := Percent.encode isSafeInPath (if url.isPlaced then followed path else path) }

/-- Reads a URL; none if it is out of order. -/
def read? (text : Text) : Option Url := do
  if lengthLimit < text.length || text.any fun char => char.toNat < 0x20 || char.toNat = 0x7F then
    none
  let (scheme, rest) := splitScheme text
  let (authority, rest) := splitAuthority rest
  let (rest, fragment) := splitAt '#' rest
  let (path, query) := splitAt '?' rest
  let (user, rest) := splitUser authority
  let (host, rest) := splitHost rest
  let url : Url :=
    { scheme := scheme.map Char.toLower
      user := Percent.encode isSafeInUser user
      host := ← Host.normal? host
      port := ← port? scheme rest
      path := []
      query := query.map (Percent.encode isSafeInQuery)
      fragment := fragment.map (Percent.encode isSafeInFragment) }
  if url.isPlaced || mayStandAlone path then pure (url.withPath path) else none

/-- Whether a URL names a protocol and a host. -/
def isAbsolute (url : Url) : Bool := !url.scheme.isEmpty && !url.host.isEmpty

/-- The URL itself if it is absolute, and else its path and query under a base. -/
def under (base url : Url) : Url :=
  if url.isAbsolute then url
  else
    ({ base with query := url.query, fragment := none } : Url).withPath
      (base.path ++ '/' :: url.path.dropWhile (· == '/'))

/-- The part between two slashes and the path. -/
def authority (url : Url) : Text :=
  (if url.user.isEmpty then [] else url.user ++ ['@'])
    ++ (if url.host.contains ':' then '[' :: url.host ++ [']'] else url.host)
    ++ (url.port.map fun port => ':' :: Numeral.write port).getD []

/-- A URL in writing. -/
def write (url : Url) : Text :=
  let authority := url.authority
  (if url.scheme.isEmpty then [] else url.scheme ++ [':'])
    ++ (if authority.isEmpty then [] else '/' :: '/' :: authority)
    ++ url.path
    ++ (url.query.map fun query => '?' :: query).getD []
    ++ (url.fragment.map fun fragment => '#' :: fragment).getD []

end Url
end ProseCheck

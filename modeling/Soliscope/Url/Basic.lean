import Soliscope.Text.Blank
import Soliscope.Text.DecimalDigit
import Soliscope.Url.Host

/-! # Addresses

An address has a scheme, an authority, a path, a query and a fragment, most of which may be missing.
The authority is a host, perhaps with a user before it and a port after it.  `parse` takes a written
address apart and puts each part into the form in which it is kept: schemes in lower case, hosts as
`keptHost` has them, no port where it is the usual one for the scheme, no dot segments in the path,
and every character that may not stand for itself as an escape.
-/

namespace Soliscope.Url

open Soliscope.Text

/-- A part of an address. -/
inductive Part where
  | scheme
  | authority
  | path
  | query
  | fragment
  | host
  deriving DecidableEq, Repr

/-- The name of a part. -/
def Part.name : Part → String
  | .scheme => "scheme"
  | .authority => "authority"
  | .path => "path"
  | .query => "query"
  | .fragment => "fragment"
  | .host => "host"

/-- What is wrong with an address. -/
inductive Flaw where
  | tooLong
  | longPart (part : Part)
  /-- A control character, in the whole address or in a part. -/
  | control (part : Option Part) (c : Char) (position : Nat)
  | host (flaw : HostFlaw) (host : String)
  | port (written : String)
  /-- A path after an authority that does not start with a slash. -/
  | attachedPath
  /-- A path that would be read as an authority. -/
  | pathLikeAuthority
  /-- A path that would be read as an empty scheme. -/
  | pathLikeScheme
  deriving DecidableEq, Repr

/-- The text about a host that is no address or name. -/
def HostFlaw.label : HostFlaw → String
  | .ipv4 => "Invalid IPv4 address: "
  | .ipv6 => "Invalid IPv6 address: "
  | .name => "Invalid IDNA hostname: "

/-- The text of a flaw. -/
def Flaw.message : Flaw → String
  | .tooLong => "URL too long"
  | .longPart part => "URL component '" ++ part.name ++ "' too long"
  | .control part c position =>
    "Invalid non-printable ASCII character in URL" ++
      (match part with
        | some part => " " ++ part.name ++ " component"
        | none => "") ++
      ", " ++ quoted (String.singleton c) ++ " at position " ++ toString position ++ "."
  | .host flaw shown => flaw.label ++ quoted shown
  | .port written => "Invalid port: " ++ quoted written
  | .attachedPath => "For absolute URLs, path must be empty or begin with '/'"
  | .pathLikeAuthority => "Relative URLs cannot have a path starting with '//'"
  | .pathLikeScheme => "Relative URLs cannot have a path starting with ':'"

/-- The parts of an address in writing.  An empty scheme or authority is as good as none. -/
structure Parts where
  scheme : List Char
  authority : List Char
  path : List Char
  query : Option (List Char)
  fragment : Option (List Char)
  deriving DecidableEq, Repr

/-- A character of a scheme. -/
def isSchemeChar (c : Char) : Bool :=
  c.isAlphanum || c == '+' || c == '.' || c == '-'

/-- The scheme at the front of an address, and the rest. -/
def splitScheme (text : List Char) : List Char × List Char :=
  let name := text.takeWhile isSchemeChar
  match text.dropWhile isSchemeChar with
  | ':' :: rest => if name.head?.all Char.isAlpha then (name, rest) else ([], text)
  | _ => ([], text)

/-- A character that ends an authority. -/
def endsAuthority (c : Char) : Bool :=
  c == '/' || c == '?' || c == '#'

/-- The authority at the front of an address without its scheme, and the rest. -/
def splitAuthority (text : List Char) : List Char × List Char :=
  match text with
  | '/' :: '/' :: rest => (rest.takeWhile (!endsAuthority ·), rest.dropWhile (!endsAuthority ·))
  | _ => ([], text)

/-- What follows a mark, if the text starts with it. -/
def afterMark? (mark : Char) (text : List Char) : Option (List Char) :=
  if text.head? == some mark then some (text.drop 1) else none

/-- The parts of a written address. -/
def Parts.ofText (text : List Char) : Parts :=
  let (scheme, text) := splitScheme text
  let (authority, text) := splitAuthority text
  let text' := text.dropWhile fun c => c != '?' && c != '#'
  { scheme := scheme
    authority := authority
    path := text.takeWhile fun c => c != '?' && c != '#'
    query := (afterMark? '?' text').map (·.takeWhile (· != '#'))
    fragment := afterMark? '#' (text'.dropWhile (· != '#')) }

/-- Parts put together. -/
def Parts.render (parts : Parts) : List Char :=
  (if parts.scheme.isEmpty then [] else parts.scheme ++ [':']) ++
    (if parts.authority.isEmpty then [] else '/' :: '/' :: parts.authority) ++ parts.path ++
    parts.query.elim [] ('?' :: ·) ++ parts.fragment.elim [] ('#' :: ·)

/-- An authority in writing. -/
structure Authority where
  userinfo : List Char
  host : List Char
  port : List Char
  deriving DecidableEq, Repr

/-- The text up to the last occurrence of a character, and the text after it. -/
def splitAtLast? (mark : Char) (text : List Char) : Option (List Char × List Char) :=
  if text.contains mark then
    let after := text.reverse.takeWhile (· != mark)
    some (text.take (text.length - after.length - 1), after.reverse)
  else none

/-- The parts of a written authority. -/
def Authority.ofText (text : List Char) : Authority :=
  let (userinfo, text) := (splitAtLast? '@' text).getD ([], text)
  let bracketed := if text.head? == some '[' then splitAtLast? ']' text else none
  let (host, text) :=
    match bracketed with
    | some (before, after) => (before ++ [']'], after)
    | none => text.span (· != ':')
  { userinfo := userinfo, host := host, port := (afterMark? ':' text).getD text }

/-- The least and the greatest character of printable ASCII. -/
def isPrintableAscii (c : Char) : Bool :=
  0x20 ≤ c.toNat && c.toNat < 0x7F

/-- A character that stands for itself in a fragment. -/
def isFragmentSafe (c : Char) : Bool :=
  isPrintableAscii c && !" \"<>\x60".toList.contains c

/-- A character that stands for itself in a query. -/
def isQuerySafe (c : Char) : Bool :=
  isPrintableAscii c && !" \"#<>".toList.contains c

/-- A character that stands for itself in a path. -/
def isPathSafe (c : Char) : Bool :=
  isQuerySafe c && !"?\x60\x7b\x7d".toList.contains c

/-- A character that stands for itself before a host. -/
def isUserinfoSafe (c : Char) : Bool :=
  isPathSafe c && !"/;=@[\\]^|".toList.contains c

/-- An address in the form in which it is kept. -/
structure Address where
  scheme : List Char
  userinfo : List Char
  host : List Char
  port : Option Int
  path : List Char
  query : Option (List Char)
  fragment : Option (List Char)
  deriving DecidableEq, Repr

/-- The usual ports of schemes. -/
def usualPorts : List (List Char × Int) := [
  ("ftp".toList, 21), ("http".toList, 80), ("https".toList, 443), ("ws".toList, 80),
  ("wss".toList, 443)]

/-- The value of digits in any script, which an underscore may stand between.  `value` is that of
the digits before, the last of which may be followed by an underscore if `inner`. -/
def digitsValue? (value : Nat) (inner : Bool) : List Char → Option Nat
  | [] => if inner then some value else none
  | c :: rest =>
    match decimalValue? c with
    | some digit => digitsValue? (10 * value + digit) true rest
    | none => if c == '_' && inner then digitsValue? value false rest else none

/-- The greatest number of digits in a port. -/
def portDigitLimit : Nat := 4300

/-- The number of a written port. -/
def portNumber? (written : List Char) : Option Int :=
  let text := trimWhere isBlank written
  let digits := if text.head? == some '-' || text.head? == some '+' then text.drop 1 else text
  if portDigitLimit < digits.countP (· != '_') then none
  else
    (digitsValue? 0 false digits).map fun value =>
      if text.head? == some '-' then -(value : Int) else value

/-- The port of an address with a scheme, as it is kept. -/
def keptPort (scheme written : List Char) : Except Flaw (Option Int) :=
  if written.isEmpty then .ok none
  else
    match portNumber? written with
    | none => .error (.port (String.ofList written))
    | some number => .ok (if usualPorts.lookup scheme == some number then none else some number)

/-- Follow a segment of a path from those before it, the last one first. -/
def followSegment (before : List (List Char)) (segment : List Char) : List (List Char) :=
  if segment == ['.'] then before
  else if segment == ['.', '.'] then if before == [[]] then before else before.drop 1
  else segment :: before

/-- A path without segments that stand for a place relative to others. -/
def withoutDots (path : List Char) : List Char :=
  ['/'].intercalate ((path.splitOn '/').foldl followSegment []).reverse

/-- What is wrong with a path, if anything. -/
def pathFlaw? (hasScheme hasAuthority : Bool) (path : List Char) : Option Flaw :=
  if hasAuthority then
    if path.isEmpty || path.head? == some '/' then none else some .attachedPath
  else if hasScheme then none
  else if path.take 2 == ['/', '/'] then some .pathLikeAuthority
  else if path.head? == some ':' then some .pathLikeScheme
  else none

/-- The address that written parts stand for. -/
def Address.ofParts (parts : Parts) (authority : Authority) : Except Flaw Address := do
  let userinfo := escape isUserinfoSafe authority.userinfo
  let host ← (keptHost authority.host).mapError (Flaw.host · (String.ofList authority.host))
  let port ← keptPort parts.scheme authority.port
  let hasScheme := !parts.scheme.isEmpty
  let hasAuthority := !userinfo.isEmpty || !host.isEmpty || port.isSome
  match pathFlaw? hasScheme hasAuthority parts.path with
  | some flaw => throw flaw
  | none =>
    let path := if hasScheme || hasAuthority then withoutDots parts.path else parts.path
    pure {
      scheme := parts.scheme.map Char.toLower
      userinfo := userinfo
      host := host
      port := port
      path := escape isPathSafe path
      query := parts.query.map (escape isQuerySafe)
      fragment := parts.fragment.map (escape isFragmentSafe) }

/-- The greatest length of an address, and of a part. -/
def lengthLimit : Nat := 65536

/-- A control character of ASCII. -/
def isControl (c : Char) : Bool :=
  c.toNat < 0x20 || c.toNat == 0x7F

/-- The first control character of a text, and its position. -/
def control? (text : List Char) : Option (Char × Nat) :=
  text.zipIdx.find? fun entry => isControl entry.1

/-- The address that a text stands for. -/
def parse (text : String) : Except Flaw Address := do
  let text := text.toList
  if lengthLimit < text.length then throw .tooLong
  match control? text with
  | some (c, position) => throw (.control none c position)
  | none =>
    let parts := Parts.ofText text
    Address.ofParts parts (Authority.ofText parts.authority)

namespace Address

/-- A host in writing, with the brackets of an IPv6 address. -/
def bracketed (host : List Char) : List Char :=
  if host.contains ':' then '[' :: (host ++ [']']) else host

/-- The host and the port in writing. -/
def location (address : Address) : List Char :=
  bracketed address.host ++
    address.port.elim [] fun number => ':' :: (toString number).toList

/-- The authority in writing. -/
def authority (address : Address) : List Char :=
  (if address.userinfo.isEmpty then [] else address.userinfo ++ ['@']) ++ address.location

/-- The parts of an address. -/
def parts (address : Address) : Parts where
  scheme := address.scheme
  authority := address.authority
  path := address.path
  query := address.query
  fragment := address.fragment

/-- An address in writing. -/
def render (address : Address) : String :=
  String.ofList address.parts.render

/-- An address that says by itself where to go. -/
def isAbsolute (address : Address) : Bool :=
  !address.scheme.isEmpty && !address.host.isEmpty

end Address

/-- What is wrong with a text as a part of an address, if anything. -/
def partFlaw? (part : Part) (text : List Char) : Option Flaw :=
  if lengthLimit < text.length then some (.longPart part)
  else (control? text).map fun (c, position) => .control (some part) c position

/-- What is wrong with the first bad one among parts, if anything. -/
def Parts.flaw? (parts : Parts) : Option Flaw :=
  [partFlaw? .scheme parts.scheme, partFlaw? .authority parts.authority, partFlaw? .path parts.path,
    parts.query.bind (partFlaw? .query), parts.fragment.bind (partFlaw? .fragment)].findSome? id

/-- The address that changed parts stand for. -/
def Parts.address (parts : Parts) : Except Flaw Address :=
  match parts.flaw? with
  | some flaw => .error flaw
  | none => Address.ofParts parts (Authority.ofText parts.authority)

namespace Address

/-- The address with another query. -/
def withQuery (address : Address) (query : Option (List Char)) : Except Flaw Address :=
  { address.parts with query := query }.address

/-- The address with another fragment. -/
def withFragment (address : Address) (fragment : List Char) : Except Flaw Address :=
  { address.parts with fragment := some fragment }.address

/-- The address with another host. -/
def withHost (address : Address) (host : List Char) : Except Flaw Address :=
  let host := bracketed host
  match address.parts.flaw? <|> partFlaw? .host host with
  | some flaw => .error flaw
  | none => ofParts address.parts { Authority.ofText address.authority with host := host }

/-- The path and the query of an address, on a server. -/
def onServer (scheme authority : List Char) (address : Address) : Except Flaw Address :=
  Parts.address {
    scheme := scheme, authority := authority, path := '/' :: address.path.dropWhile (· == '/'),
    query := address.query, fragment := none }

/-- The host as it is shown. -/
def hostName (address : Address) : Except NameFlaw (List Char) :=
  shownHost address.host

/-- The fragment that is meant by the written one. -/
def fragmentText (address : Address) : List Char :=
  unescape (address.fragment.getD [])

end Address

end Soliscope.Url

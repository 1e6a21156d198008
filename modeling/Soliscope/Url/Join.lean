import Soliscope.Url.Basic

/-! # References

A reference is an address that may leave out its scheme, its authority and the start of its path.
Joined to a base address, it takes what it leaves out from the base.  Paths are put together segment
by segment, and a parameter after a semicolon at the end of a path is set aside meanwhile.
-/

namespace Soliscope.Url

/-- The schemes whose references are taken as relative to a base. -/
def relativeSchemes : List String := [
  "ftp", "http", "gopher", "nntp", "imap", "wais", "file", "https", "shttp", "mms", "prospero",
  "rtsp", "rtsps", "rtspu", "sftp", "svn", "svn+ssh", "ws", "wss"]

/-- The relative schemes whose paths have no parameters. -/
def plainSchemes : List String :=
  ["gopher", "nntp", "wais", "file", "svn", "svn+ssh", "ws", "wss"]

/-- A path without its parameter, and the parameter, which starts at the first semicolon of the last
segment. -/
def splitParameter (path : List Char) : List Char × List Char :=
  let last := (path.reverse.takeWhile (· != '/')).reverse
  let before := path.take (path.length - last.length)
  (before ++ last.takeWhile (· != ';'), (last.dropWhile (· != ';')).drop 1)

/-- Follow a segment of a joined path from those before it, the last one first. -/
def joinSegment (before : List (List Char)) (segment : List Char) : List (List Char) :=
  if segment == ['.', '.'] then before.drop 1
  else if segment == ['.'] then before
  else segment :: before

/-- The segments without the empty ones between the first and the last. -/
def withoutInnerGaps : List (List Char) → List (List Char)
  | [] => []
  | first :: rest => first :: (rest.dropLast.filter (!·.isEmpty) ++ rest.getLast?.toList)

/-- A path joined to that of a base. -/
def joinPath (base path : List Char) : List Char :=
  let segments := path.splitOn '/'
  let whole :=
    if path.head? == some '/' then segments
    else
      let folder := base.splitOn '/'
      let folder := if folder.getLast? == some [] then folder else folder.dropLast
      withoutInnerGaps (folder ++ segments)
  let followed := (whole.foldl joinSegment []).reverse
  let isFolder := whole.getLast?.any fun last => last == ['.'] || last == ['.', '.']
  let joined := ['/'].intercalate (if isFolder then followed ++ [[]] else followed)
  if joined.isEmpty then ['/'] else joined

/-- Nothing in the place of an empty part. -/
def given? (part : List Char) : Option (List Char) :=
  if part.isEmpty then none else some part

/-- The parts of an address for a base of a relative scheme, where empty parts are left out. -/
def joinedParts (scheme authority path parameter : List Char)
    (query fragment : Option (List Char)) : Parts :=
  let path := if parameter.isEmpty then path else path ++ ';' :: parameter
  let isBare := !path.isEmpty && path.head? != some '/'
  { scheme := scheme
    authority := authority
    path := if isBare then '/' :: path else path
    query := query.bind given?
    fragment := fragment.bind given? }

/-- A reference joined to a base in writing.  The empty reference is the base itself; one with
another scheme, or to a base whose scheme has no relative references, stays as it is. -/
def joinParts (base reference : Parts) : Parts :=
  let scheme := if reference.scheme.isEmpty then base.scheme else reference.scheme.map Char.toLower
  if reference.render.isEmpty then base
  else if scheme != base.scheme || !relativeSchemes.contains (String.ofList scheme) then reference
  else
    let split := fun path =>
      if plainSchemes.contains (String.ofList scheme) then (path, []) else splitParameter path
    let (path, parameter) := split reference.path
    let (basePath, baseParameter) := split base.path
    if !reference.authority.isEmpty then
      joinedParts scheme reference.authority path parameter reference.query reference.fragment
    else if path.isEmpty && parameter.isEmpty then
      joinedParts scheme base.authority basePath baseParameter
        (reference.query.bind given? <|> base.query) reference.fragment
    else
      joinedParts scheme base.authority (joinPath basePath path) parameter reference.query
        reference.fragment

/-- A reference joined to a base. -/
def Address.join (base reference : Address) : Except Flaw Address :=
  let whole := joinParts (Parts.ofText base.render.toList) (Parts.ofText reference.render.toList)
  parse (String.ofList whole.render)

end Soliscope.Url

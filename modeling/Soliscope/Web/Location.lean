import Soliscope.Url.Percent
import Soliscope.Web.Message

/-! # Where the server is

A request tells in a header where it takes the server to be.  Redirections lead there if what is
told can be a place at all, and else to the place that the request itself was made to.
-/

namespace Soliscope.Web

/-- A character of a host name. -/
def isHostChar (c : Char) : Bool :=
  Url.isUnreserved c || "!$&'()*+,;=".toList.contains c

/-- A host name, which may have escapes. -/
def isHostName : List Char → Bool
  | [] => true
  | '%' :: high :: low :: rest =>
    (Url.hexValue? high).isSome && (Url.hexValue? low).isSome && isHostName rest
  | c :: rest => isHostChar c && isHostName rest

/-- A character of an address between brackets. -/
def isAddressChar (c : Char) : Bool :=
  (Url.hexValue? c).isSome || c == ':' || c == '.'

/-- The greatest port. -/
def lastPort : Nat := 65535

/-- A port after a host, or nothing. -/
def isPortPart : List Char → Bool
  | [] => true
  | ':' :: digits => digits.all Char.isDigit && Nat.ofDigitChars 10 digits 0 ≤ lastPort
  | _ => false

/-- A host, perhaps with a port. -/
def isPlace : List Char → Bool
  | '[' :: text =>
    match text.span (· != ']') with
    | (address, ']' :: port) => !address.isEmpty && address.all isAddressChar && isPortPart port
    | _ => false
  | text =>
    let (name, port) := text.span (· != ':')
    !name.isEmpty && isHostName name && isPortPart port

/-- The place that a request tells. -/
def Request.toldPlace (request : Request) : List Char :=
  match request.header? "host" with
  | some host => host.toList
  | none => request.url.location

/-- The place that a request was made to: the host as it is shown and the port, `None` if there is
none. -/
def Request.askedPlace (request : Request) : List Char :=
  let host := request.url.hostName.toOption.getD request.url.host
  let port := request.url.port.elim "None" toString
  Url.Address.bracketed host ++ ':' :: port.toList

/-- The place where the server is for a request. -/
def Request.place (request : Request) : List Char :=
  if isPlace request.toldPlace then request.toldPlace else request.askedPlace

/-- A character that may stand in the address of a redirection. -/
def isRedirectionPart (c : Char) : Bool :=
  ":/%#?=@[]!$&'()*+,;".toList.contains c

/-- The address of a path on the server for a request, with the query of the request. -/
def redirectionUrl (request : Request) (path : String) : String :=
  let url := request.url.scheme ++ "://".toList ++ request.place ++ path.toList ++
    if request.query.isEmpty then [] else '?' :: request.query
  String.ofList (Url.escape isRedirectionPart url)

end Soliscope.Web

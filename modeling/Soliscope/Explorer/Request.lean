import Soliscope.Compression.Format
import Soliscope.Explorer.Header
import Soliscope.Url.Basic
import Soliscope.Url.Form

/-! # Round trips to a block explorer

What is sent to an explorer, and what comes back.
-/

namespace Soliscope.Explorer

/-- How a request carries its form: in the query of the address, or as its body. -/
inductive Method where
  | get
  | post
  deriving DecidableEq, Repr

/-- The name of a method. -/
def Method.name : Method → String
  | .get => "GET"
  | .post => "POST"

/-- One request: the address, the body, which only a posted form has, and the longest time to wait
for the reply, in seconds. -/
structure Request where
  method : Method
  url : Url.Address
  body : String
  timeout : Float

/-- The content type of a posted form. -/
def formContentType : String := "application/x-www-form-urlencoded"

/-- The content type of a request, if it has a body. -/
def Request.contentType? (request : Request) : Option String :=
  match request.method with
  | .get => none
  | .post => some formContentType

/-- The address that requests to a written address go to.  One that does not tell where to go keeps
only its path and query. -/
def requestAddress (written : String) : Except Url.Flaw Url.Address := do
  let address ← Url.parse written
  if address.isAbsolute then pure address else address.onServer [] []

/-- The request for a form in the query, which takes the place of that of the address. -/
def getRequest (url : String) (entries : List (String × String)) (timeout : Float) :
    Except Url.Flaw Request := do
  let address ← requestAddress url
  let address ← address.withQuery (some (Url.Form.render entries))
  pure { method := .get, url := address, body := "", timeout := timeout }

/-- The request for a posted form. -/
def postRequest (url : String) (entries : List (String × String)) (timeout : Float) :
    Except Url.Flaw Request := do
  let address ← requestAddress url
  pure {
    method := .post, url := address, body := String.ofList (Url.Form.render entries),
    timeout := timeout }

/-- An answer of the explorer. -/
structure Response where
  status : Nat
  headers : Headers
  body : List UInt8
  deriving DecidableEq, Repr

/-- Undo a coding of the content of a response.  What is called deflated has its header or not. -/
def undoCoding (bytes : List UInt8) (coding : String) :
    Except Compression.Flaw (List UInt8) :=
  if coding == "gzip" then Compression.Format.gzip.decompress bytes
  else if coding == "deflate" then
    match Compression.Format.zlib.decompress bytes with
    | .ok content => .ok content
    | .error _ => Compression.Format.raw.decompress bytes
  else .ok bytes

/-- The content of a response.  Its codings are named in the order in which they were applied, and
unknown ones do not count. -/
def Response.content (response : Response) : Except Compression.Flaw (List UInt8) :=
  if response.body.isEmpty then .ok []
  else (response.headers.items "content-encoding").reverse.foldlM undoCoding response.body

/-- How a round trip ends. -/
inductive Reply where
  | answered (response : Response)
  /-- No answer was received. -/
  | failed (message : String)
  /-- The round trip broke down in a way that nobody expects. -/
  | brokeDown (message : String)
  deriving DecidableEq, Repr

end Soliscope.Explorer

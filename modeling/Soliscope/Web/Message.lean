import Soliscope.Explorer.Header
import Soliscope.Json.Basic
import Soliscope.Url.Basic
import Soliscope.Url.Form

/-! # Requests and responses

What the server is asked, and what it answers.  A request is for an address on the server, whose
path is looked up without escapes.
-/

namespace Soliscope.Web

open Soliscope.Explorer

/-- A request to the server. -/
structure Request where
  method : String
  url : Url.Address
  headers : Headers
  body : List UInt8

/-- The scheme of the server. -/
def serverScheme : String := "http"

/-- The host of the server. -/
def serverHost : String := "testserver"

/-- The address that a target stands for.  One that does not tell where to go is on the server. -/
def targetAddress (target : String) : Except Url.Flaw Url.Address := do
  let address ← Url.parse target
  if address.isAbsolute then pure address
  else address.onServer serverScheme.toList serverHost.toList

/-- The path of a request, without escapes. -/
def Request.path (request : Request) : String :=
  let path := if request.url.path.isEmpty then ['/'] else request.url.path
  String.ofList (Url.unescape path)

/-- The query of a request. -/
def Request.query (request : Request) : List Char :=
  request.url.query.getD []

/-- A header of a request; of several under one name the first counts. -/
def Request.header? (request : Request) (name : String) : Option String :=
  (request.headers.values name).head?

/-- A parameter of the query; of several under one name the last counts. -/
def Request.parameter? (request : Request) (name : String) : Option String :=
  (Url.Form.parse request.query).reverse.lookup name

/-- The body of a response. -/
inductive Body where
  | empty
  | json (value : Json)
  | text (text : String)
  /-- A page for people, whose markup is not told. -/
  | page
  /-- The description of the server in JSON, whose content is not told. -/
  | description
  /-- Nothing but a content type. -/
  | typeOnly (contentType : String)

/-- The content type of a body. -/
def Body.contentType? : Body → Option String
  | .empty => none
  | .json _ => some "application/json"
  | .text _ => some "text/plain; charset=utf-8"
  | .page => some "text/html; charset=utf-8"
  | .description => some "application/json"
  | .typeOnly contentType => some contentType

/-- A body with its content left out. -/
def Body.withoutContent : Body → Body
  | .page => .page
  | body => (body.contentType?.map .typeOnly).getD .empty

/-- A response of the server: the headers without the content type, which the body tells. -/
structure Response where
  status : Nat
  headers : List (String × String) := []
  body : Body := .empty

/-- All headers of a response. -/
def Response.allHeaders (response : Response) : List (String × String) :=
  (response.body.contentType?.map fun type => ("content-type", type)).toList ++ response.headers

/-- The response as it is sent: when only the head is asked for, the content is left out. -/
def Response.sentFor (response : Response) (request : Request) : Response :=
  if request.method == "HEAD" then { response with body := response.body.withoutContent }
  else response

/-- A response with further headers. -/
def Response.withHeaders (response : Response) (headers : List (String × String)) : Response :=
  { response with headers := response.headers ++ headers }

end Soliscope.Web

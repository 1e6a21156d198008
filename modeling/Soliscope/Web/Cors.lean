import Soliscope.Settings.Basic
import Soliscope.Web.Message

/-! # Requests from other origins

A browser tells where a page comes from that makes a request.  Only pages of the listed origins may
read the answers; `*` lists all.  Before a request that is not simple, the browser asks whether it
may make it.
-/

namespace Soliscope.Web.Cors

/-- The methods that pages may use. -/
def methods : List String :=
  ["DELETE", "GET", "HEAD", "OPTIONS", "PATCH", "POST", "PUT", "QUERY"]

/-- An origin is listed. -/
def isAllowed (settings : Settings) (origin : String) : Bool :=
  settings.corsOrigins.contains "*" || settings.corsOrigins.contains origin

/-- The header that lets an origin read the answer. -/
def allowOrigin (settings : Settings) (origin : String) : List (String × String) :=
  if isAllowed settings origin then [("access-control-allow-origin", origin)] else []

/-- The header about credentials, which pages may always send. -/
def allowCredentials : String × String :=
  ("access-control-allow-credentials", "true")

/-- The origin and method of a question before a request, if the request is one. -/
def preflight? (request : Request) : Option (String × String) :=
  if request.method == "OPTIONS" then do
    let origin ← request.header? "origin"
    let method ← request.header? "access-control-request-method"
    pure (origin, method)
  else none

/-- A page outside the private network of the server wants to make a request. -/
def crossesNetworks (request : Request) : Bool :=
  (request.header? "access-control-request-private-network").isSome

/-- What stands against a request that a page wants to make. -/
def objections (settings : Settings) (request : Request) (origin method : String) : List String :=
  (if isAllowed settings origin then [] else ["origin"]) ++
    (if methods.contains method then [] else ["method"]) ++
    (if crossesNetworks request then ["private-network"] else [])

/-- The request headers that the answer to a question before a request depends on. -/
def preflightVariants : List String :=
  ["Origin", "Access-Control-Request-Method", "Access-Control-Request-Headers",
    "Access-Control-Request-Private-Network"]

/-- The answer to a question before a request. -/
def preflightResponse (settings : Settings) (request : Request) (origin method : String) :
    Response :=
  let requested := (request.header? "access-control-request-headers").map fun names =>
    ("access-control-allow-headers", names)
  let headers :=
    [("vary", ", ".intercalate preflightVariants),
      ("access-control-allow-methods", ", ".intercalate methods),
      ("access-control-max-age", "600"), allowCredentials] ++
      allowOrigin settings origin ++ requested.toList
  match objections settings request origin method with
  | [] => { status := 200, headers := headers, body := .text "OK" }
  | objections =>
    { status := 400, headers := headers,
      body := .text ("Disallowed CORS " ++ ", ".intercalate objections) }

/-- The headers that every other answer gets. -/
def answerHeaders (settings : Settings) (request : Request) : List (String × String) :=
  ("vary", "Origin") ::
    match request.header? "origin" with
    | some origin => allowCredentials :: allowOrigin settings origin
    | none => []

end Soliscope.Web.Cors

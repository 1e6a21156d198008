import Soliscope.Json.Finite
import Soliscope.Web.Cors
import Soliscope.Web.Location
import Soliscope.Web.Routes

/-! # The server

A request goes to the route of its path.  A path that is known only with or without a slash at its
end is answered by a redirection, an unknown path and a wrong method by an error.  Questions that
browsers ask before a request are answered without looking at the path.
-/

namespace Soliscope.Web

open Soliscope.Schema

/-- A step into a value as JSON. -/
def keyToJson : Key → Json
  | .name text => .str text
  | .index position => .int position

/-- An issue in an answer. -/
def issueToJson (issue : Issue) : Json :=
  .obj [
    ("type", .str issue.flaw.code), ("loc", .arr (issue.location.map keyToJson)),
    ("msg", .str issue.flaw.message)]

/-- An error answer. -/
def errorResponse (status : Nat) (detail : Json) : Response :=
  { status := status, body := .json (.obj [("detail", detail)]) }

/-- The response for an answer; a breakdown has a response of its own. -/
def Answer.response : Answer → Response
  | .json value => { status := 200, body := .json value.finite }
  | .page => { status := 200, body := .page }
  | .description => { status := 200, body := .description }
  | .refused issues => errorResponse 422 (.arr (issues.map issueToJson))
  | .unreadableBody => errorResponse 400 (.str "There was an error parsing the body")
  | .brokeDown => { status := 500, body := .text "Internal Server Error" }

/-- The path with the slashes at its end dropped, or with one put there. -/
def otherSpelling (path : String) : String :=
  match path.toList.reverse with
  | '/' :: rest => String.ofList ((rest.dropWhile (· == '/')).reverse)
  | _ => path ++ "/"

/-- The route takes a path, which may have a line break at its end. -/
def Route.takes (route : Route) (path : String) : Bool :=
  path == route.path || path == route.path ++ "\n"

/-- The route of a path. -/
def route? (settings : Settings) (path : String) : Option Route :=
  (routes settings).find? (·.takes path)

/-- What is done for a request. -/
inductive Dispatch where
  | serve (route : Route)
  | wrongMethod (allowed : List String)
  | redirect (url : String)
  | notFound

/-- Find what is to be done for a request. -/
def dispatch (settings : Settings) (request : Request) : Dispatch :=
  match route? settings request.path with
  | some route =>
    if route.methods.contains request.method then .serve route else .wrongMethod route.methods
  | none =>
    let other := otherSpelling request.path
    if request.path != "/" && (route? settings other).isSome then
      .redirect (redirectionUrl request other)
    else .notFound

/-- The answer to a request that is no question of a browser, without the headers about origins;
none if a service broke down. -/
def respond (context : Context) (request : Request) : Traced (Option Response) :=
  match dispatch context.settings request with
  | .serve route => do
    match ← route.serve context request with
    | .brokeDown => pure none
    | answer => pure (some answer.response)
  | .wrongMethod allowed =>
    pure (some ((errorResponse 405 (.str "Method Not Allowed")).withHeaders
      [("allow", ", ".intercalate allowed)]))
  | .redirect url => pure (some { status := 307, headers := [("location", url)] })
  | .notFound => pure (some (errorResponse 404 (.str "Not Found")))

/-- The answer of the server to a request.  Only after a breakdown do the headers about origins
lack. -/
def handle (context : Context) (request : Request) : Traced Response :=
  match Cors.preflight? request with
  | some (origin, method) =>
    pure (Cors.preflightResponse context.settings request origin method)
  | none => do
    match ← respond context request with
    | some response =>
      pure ((response.withHeaders (Cors.answerHeaders context.settings request)).sentFor request)
    | none => pure (Answer.brokeDown.response.sentFor request)

end Soliscope.Web

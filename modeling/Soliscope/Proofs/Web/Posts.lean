import Soliscope.Proofs.Json.RoundTrip
import Soliscope.Web.App

/-! # Posted documents

A request may post a document to a path. The question of a browser is no such request, and the head
of an answer is not asked for, so that the answer is decided by the route of the path alone: what it
answers is sent with status 200, and if a service breaks down, only the status 500 is told
(`handle_post_json`, `handle_post_brokeDown`).
-/

namespace Soliscope.Web

open Schema

/-- **The body of a request is a document that is posted to a path.** -/
structure Request.Posts (request : Request) (path : String) (document : Json) : Prop where
  method : request.method = "POST"
  path : request.path = path
  isJson : hasJsonBody request = true
  document : Json.readDocument request.body = .ok document

section Dispatch

variable (settings : Settings)

/-- Interfaces are asked for at this one. -/
theorem route?_types : route? settings "/api/analysis/types" =
    some ⟨"/api/analysis/types", ["POST"], writeInterface⟩ := by
  rw [route?, routes, documentationRoutes, pagePaths]
  cases settings.isProduction <;> rfl

end Dispatch

variable {context : Context} {request : Request} {path : String} {document : Json} {route : Route}

/-- A body that reads as a document is not empty. -/
theorem isEmpty_eq_false_of_readDocument {body : List UInt8}
    (read : Json.readDocument body = .ok document) : body.isEmpty = false := by
  cases body with
  | nil => cases read
  | cons first rest => rfl

/-- A posted document that is accepted is served. -/
theorem Request.Posts.answerToBody_eq {α : Type} {reader : Reader α} {value : α}
    (posts : request.Posts path document) (accepted : reader document = .accepted value)
    (serve : α → Traced Answer) : answerToBody reader request serve = serve value := by
  have given := isEmpty_eq_false_of_readDocument posts.document
  simp only [answerToBody, given, posts.isJson, posts.document, accepted, Bool.false_eq_true,
    ↓reduceIte, Bool.not_true]

/-- A posted document reaches the route of its path. -/
theorem Request.Posts.dispatch_eq {settings : Settings} (posts : request.Posts path document)
    (known : route? settings path = some route) (takes : "POST" ∈ route.methods) :
    dispatch settings request = .serve route := by
  rw [dispatch, posts.path, known, posts.method]
  exact if_pos (List.contains_iff_mem.mpr takes)

/-- A post is no preflight request. -/
theorem Request.Posts.preflight?_eq (posts : request.Posts path document) :
    Cors.preflight? request = none := by
  rw [Cors.preflight?, posts.method]
  rfl

/-- The body of a reply to it is kept. -/
theorem Request.Posts.sentFor_eq (posts : request.Posts path document) (response : Response) :
    response.sentFor request = response := by
  rw [Response.sentFor, posts.method]
  rfl

/-- **What a route answers to a post is sent.** -/
theorem handle_post_json {value : Json} (posts : request.Posts path document)
    (known : route? context.settings path = some route) (takes : "POST" ∈ route.methods)
    (answered : (route.serve context request).value = .json value) :
    (handle context request).value =
      { status := 200, headers := Cors.answerHeaders context.settings request,
        body := .json value.finite } := by
  simp only [handle, posts.preflight?_eq, respond, posts.dispatch_eq known takes, Traced.value_bind,
    answered, Traced.value_pure, posts.sentFor_eq]
  rfl

/-- **When a service breaks down, the answer to a post is an error without details.** -/
theorem handle_post_brokeDown (posts : request.Posts path document)
    (known : route? context.settings path = some route) (takes : "POST" ∈ route.methods)
    (broken : (route.serve context request).value = .brokeDown) :
    (handle context request).value = { status := 500, body := .text "Internal Server Error" } := by
  simp only [handle, posts.preflight?_eq, respond, posts.dispatch_eq known takes, Traced.value_bind,
    broken, Traced.value_pure, posts.sentFor_eq]
  rfl

/-- The request that posts a document in UTF-8. -/
def Request.posting (path : String) (document : Json) : Request where
  method := "POST"
  url := ⟨serverScheme.toList, [], serverHost.toList, none, path.toList, none, none⟩
  headers := [("content-type", "application/json")]
  body := Text.utf8 document.write

/-- A plain and shallow document is posted by its own text. -/
theorem Request.posts_posting (plain : Json.IsPlain document)
    (shallow : document.depth ≤ Json.nestingLimit)
    (decoded : Text.decodeDocument (Text.utf8 document.write) = .ok document.write)
    (unescaped : (posting path document).path = path) :
    (posting path document).Posts path document := by
  refine ⟨rfl, unescaped, ?_, Json.readDocument_of_decodeDocument plain shallow decoded⟩
  have typed : (posting path document).header? "content-type" = some "application/json" := by
    have named : ("content-type".toLower == "content-type") = true := by decide +kernel
    simp [header?, Explorer.Headers.values, posting, named]
  have isJson : isJsonType (mediaType "application/json") = true := by decide +kernel
  rw [hasJsonBody, typed]
  exact isJson

/-- A document that can be posted to one path can be posted to any other. -/
theorem Request.Posts.posting {other shown : String}
    (posts : (Request.posting path document).Posts shown document) :
    (Request.posting other document).Posts (Request.posting other document).path document :=
  ⟨rfl, rfl, posts.isJson, posts.document⟩

/-- A context in which every run of the compiler ends alike, and no explorer is reached. -/
def Context.compiling (outcome : Compiler.RunOutcome) : Context where
  settings := .standard
  compiler := fun _ => outcome
  explorer := fun _ => .failed ""
  time := ""
  encodesHalves := fun _ => false

end Soliscope.Web

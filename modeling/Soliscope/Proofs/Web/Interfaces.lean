import Soliscope.Proofs.Web.Posts
import Soliscope.Proofs.Web.TypesRequests

/-! # Interfaces on request

A request for an interface that is accepted is answered with a source that is the interface of the
contract: one line for each function of the ABI, in the order of the ABI, from which its signature
is read back, and no other line than the fixed ones around them (`types_answered`). Whatever names,
types and further fields an accepted ABI holds, none of them reaches beyond its place in a line.
-/

namespace Soliscope.Web

open Schema

variable {context : Context} {request : Request} {document : Json} {types : TypesRequest}

/-- What the route answers to an accepted document, by cases on what the generator gives. -/
theorem value_writeInterface (posts : request.Posts "/api/analysis/types" document)
    (accepted : TypesRequest.read .request document = .accepted types) :
    (writeInterface context request).value =
      match Abi.generateInterface routeCalls types.contractName
          (.arr (types.abi.map (·.toJson))) (.str types.language.name) with
      | .ok source => .json (.obj [("source", .str source)])
      | .error _ => .brokeDown := by
  rw [writeInterface, posts.answerToBody_eq accepted]
  cases Abi.generateInterface routeCalls types.contractName (.arr (types.abi.map (·.toJson)))
    (.str types.language.name) <;> rfl

/-- A source that is generated reaches the client with status 200. -/
theorem handle_post_types {source : String}
    (posts : request.Posts "/api/analysis/types" document)
    (accepted : TypesRequest.read .request document = .accepted types)
    (generated : Abi.generateInterface routeCalls types.contractName
      (.arr (types.abi.map (·.toJson))) (.str types.language.name) = .ok source) :
    (handle context request).value =
      { status := 200, headers := Cors.answerHeaders context.settings request,
        body := .json (.obj [("source", .str source)]) } := by
  have answered : (writeInterface context request).value =
      .json (.obj [("source", .str source)]) := by
    rw [value_writeInterface posts accepted, generated]
  exact handle_post_json posts (route?_types context.settings) List.mem_cons_self answered

/-- A source is answered only if it was generated. -/
theorem generated_of_answered {source : String}
    (posts : request.Posts "/api/analysis/types" document)
    (accepted : TypesRequest.read .request document = .accepted types)
    (answered : (handle context request).value.body = .json (.obj [("source", .str source)])) :
    Abi.generateInterface routeCalls types.contractName (.arr (types.abi.map (·.toJson)))
      (.str types.language.name) = .ok source := by
  cases generated : Abi.generateInterface routeCalls types.contractName
      (.arr (types.abi.map (·.toJson))) (.str types.language.name) with
  | error fault =>
      have broken : (writeInterface context request).value = .brokeDown := by
        rw [value_writeInterface posts accepted, generated]
      rw [handle_post_brokeDown posts (route?_types context.settings) List.mem_cons_self broken]
        at answered
      cases answered
  | ok found =>
      rw [handle_post_types posts accepted generated] at answered
      cases answered
      rfl

/-- **Every accepted request for an interface is answered with the interface that it asks for**, and
the source that is answered is the interface of no other contract. -/
theorem types_answered (posts : request.Posts "/api/analysis/types" document)
    (accepted : TypesRequest.read .request document = .accepted types)
    (shallow : types.IsShallow routeCalls) :
    ∃ source, (handle context request).value =
        { status := 200, headers := Cors.answerHeaders context.settings request,
          body := .json (.obj [("source", .str source)]) } ∧
      Abi.IsInterface types.language types.contractName
        (types.functions.map (·.signature types.language)) source ∧
      ∀ contractName signatures,
        Abi.IsInterface types.language contractName signatures source →
          contractName = types.contractName ∧
            signatures = types.functions.map (·.signature types.language) := by
  have proper := TypesRequest.isProper_of_read accepted
  obtain ⟨source, generated, isInterface⟩ := TypesRequest.exists_isInterface proper shallow
  refine ⟨source, handle_post_types posts accepted generated, isInterface, ?_⟩
  intro contractName signatures other
  exact other.inj isInterface

/-- A document with two functions and an event between them. The first function takes an address and
a list without a name, the second goes by a keyword. -/
def tokenDocument : Json :=
  .obj [("contract_name", .str "Token"), ("language", .str "python"), ("abi", .arr [
    .obj [("name", .str "transfer"),
      ("inputs", .arr [.obj [("name", .str "to"), ("type", .str "address")],
        .obj [("type", .str "uint256[]")]]),
      ("outputs", .arr [.obj [("type", .str "bool")]])],
    .obj [("type", .str "event"), ("name", .str "Transfer")],
    .obj [("name", .str "from"), ("stateMutability", .str "view")]])]

/-- What the document asks for. -/
def tokenTypes : TypesRequest where
  contractName := "Token"
  language := .python
  abi := [
    ⟨"function", some "transfer", [⟨"to", "address", []⟩, ⟨"", "uint256[]", []⟩],
      [⟨"", "bool", []⟩], []⟩,
    ⟨"event", some "Transfer", [], [], []⟩,
    ⟨"function", some "from", [], [], [("stateMutability", .str "view")]⟩]

/-- The example below posts this document. -/
theorem posts_token : (Request.posting "/api/analysis/types" tokenDocument).Posts
    "/api/analysis/types" tokenDocument := by
  have plain : tokenDocument.IsPlain := by
    simp [tokenDocument, Json.IsPlain, Json.FieldsArePlain, Json.ItemsArePlain]
  apply Request.posts_posting plain <;> decide +kernel

/-- The route accepts it as these functions. -/
theorem read_token : TypesRequest.read .request tokenDocument = .accepted tokenTypes := rfl

/-- None of its types has an array suffix. -/
theorem isShallow_token : tokenTypes.IsShallow routeCalls := by
  unfold TypesRequest.IsShallow
  decide +kernel

/-- The theorem at an ABI with all kinds of names. -/
theorem token_answered : ∃ source,
    (handle (.compiling .notFound) (.posting "/api/analysis/types" tokenDocument)).value =
      { status := 200, headers := [("vary", "Origin")],
        body := .json (.obj [("source", .str source)]) } ∧
    Abi.IsInterface .python "Token" [
      ⟨"transfer", [("self", none), ("to", some "str"), ("arg1", some "list[int]")], ["bool"]⟩,
      ⟨"from_", [("self", none)], []⟩] source := by
  obtain ⟨source, answered, isInterface, -⟩ : ∃ source, (handle (.compiling .notFound)
      (.posting "/api/analysis/types" tokenDocument)).value = _ ∧ _ :=
    types_answered posts_token read_token isShallow_token
  have origins : Cors.answerHeaders .standard (.posting "/api/analysis/types" tokenDocument) =
      [("vary", "Origin")] := by
    decide +kernel
  have signatures : tokenTypes.functions.map (·.signature .python) = [
      ⟨"transfer", [("self", none), ("to", some "str"), ("arg1", some "list[int]")], ["bool"]⟩,
      ⟨"from_", [("self", none)], []⟩] := by
    decide +kernel
  refine ⟨source, ?_, ?_⟩
  · rw [answered, ← origins]
    rfl
  · rw [← signatures]
    exact isInterface

end Soliscope.Web

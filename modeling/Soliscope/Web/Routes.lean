import Soliscope.Abi.Interface
import Soliscope.Compiler.Compile
import Soliscope.Compiler.Version
import Soliscope.Json.Finite
import Soliscope.Json.Reader
import Soliscope.Scan.Catalog
import Soliscope.Solidity.Declaration
import Soliscope.Solidity.Structure
import Soliscope.Web.AnswerDocuments
import Soliscope.Web.Message
import Soliscope.Web.RequestDocuments

/-! # Routes

What the server does for each path.  A route first reads all that it needs from the request; only
then does it call a service, so that a request that is refused has no effect.
-/

namespace Soliscope.Web

open Soliscope.Schema

/-- What the server works with: its settings, the compiler, the explorer, and the time. -/
structure Context where
  settings : Settings
  compiler : Compiler.Invocation → Compiler.RunOutcome
  explorer : Explorer.Request → Explorer.Reply
  time : String
  /-- Whether the answer for a run can be encoded if the compiler escapes half a surrogate pair.  It
  cannot if the half gets into the answer. -/
  encodesHalves : Compiler.Invocation → Bool

/-- What a route answers. -/
inductive Answer where
  | json (value : Json)
  /-- A page about the server. -/
  | page
  /-- The description that the pages show. -/
  | description
  /-- The request does not have the right form. -/
  | refused (issues : List Issue)
  /-- The body cannot be read at all. -/
  | unreadableBody
  /-- A service broke down. -/
  | brokeDown

/-- The answer for a validated request, or the refusal. -/
def answerTo {α : Type} (request : Validation α) (serve : α → Traced Answer) : Traced Answer :=
  match request with
  | .accepted value => serve value
  | .refused issues => pure (.refused issues)

/-- The media type of a content type, without parameters. -/
def mediaType (contentType : String) : String :=
  (Text.trimBlanks (String.ofList (contentType.toList.takeWhile (· != ';')))).toLower

/-- A media type is one of JSON. -/
def isJsonType (mediaType : String) : Bool :=
  match mediaType.toList.splitOn '/' with
  | [main, sub] =>
    String.ofList main == "application" && (sub == "json".toList || "+json".toList.isSuffixOf sub)
  | _ => false

/-- The body of a request is to be read as JSON. -/
def hasJsonBody (request : Request) : Bool :=
  match request.header? "content-type" with
  | some contentType => isJsonType (mediaType contentType)
  | none => false

/-- What lies at a place in a value, or else around it. -/
def reached : List Key → Json → Json
  | .name name :: place, .obj fields =>
    match fields.lookup name with
    | some value => reached place value
    | none => .obj fields
  | .index position :: place, .arr items =>
    match items[position]? with
    | some value => reached place value
    | none => .arr items
  | _, value => value

/-- The answer to a refused document.  The values refused have to be shown in it, which breaks down
for doubles that are not finite. -/
def refusal (document : Json) (issues : List Issue) : Answer :=
  if issues.all fun issue => (reached issue.location document).isFinite then
    .refused (issues.map fun issue => { issue with location := .name "body" :: issue.location })
  else .brokeDown

/-- The answer to a request for the document in its body. -/
def answerToBody {α : Type} (reader : Reader α) (request : Request)
    (serve : α → Traced Answer) : Traced Answer :=
  let refusedBody (flaw : Flaw) : Traced Answer := pure (.refused [⟨[.name "body"], flaw⟩])
  if request.body.isEmpty then refusedBody .missing
  else if !hasJsonBody request then refusedBody .notObject
  else
    match Json.readDocument request.body with
    | .ok value =>
      match reader value with
      | .accepted document => serve document
      | .refused issues => pure (refusal value issues)
    | .error (.unreadable (.malformed _ position _ _)) =>
      pure (.refused [⟨[.name "body", .index position], .notJson⟩])
    | .error _ => pure .unreadableBody

/-- A parameter of the query that has to be there. -/
def neededParameter {α : Type} (request : Request) (name : String) (reader : Reader α) :
    Validation α :=
  (required name reader ((request.parameter? name).map fun value => (name, Json.str value)).toList
    ).under (.name "query")

/-- A parameter of the query that may be missing. -/
def parameter? (request : Request) (name : String) : Validation (Option String) :=
  .accepted (request.parameter? name)

/-- Scan a source. -/
def scanSource (context : Context) (request : Request) : Traced Answer :=
  answerToBody (SourceRequest.read .request) request fun source => do
    let report ← Scan.scan Scan.builtinCatalog source.sourceCode
    pure (.json (ScanAnswer.ofReport report context.time).toJson)

/-- Check the structure of a source. -/
def validateSource (_ : Context) (request : Request) : Traced Answer :=
  answerToBody (SourceRequest.read .request) request fun source =>
    let errors := (Solidity.structureFlaws source.sourceCode).map (·.message)
    pure (.json (CheckAnswer.toJson ⟨errors.isEmpty, errors⟩))

/-- The calls under way when a route writes an interface: three of the worker thread, two that pass
the request on, and that of the route. -/
def routeCalls : Nat := 6

/-- The interface of the first contract of a successful compilation. -/
def firstInterface (result : Compiler.Result) : Except Abi.Fault (Option String) :=
  match result.success, result.contracts with
  | true, first :: _ =>
    (Abi.generateInterface routeCalls first.contractName (.arr (first.abi.map .obj))
      (.str Abi.Language.typescript.name)).map some
  | _, _ => .ok none

/-- The names of the contracts compiled, or else of those declared in the source. -/
def contractNames (result : Compiler.Result) (source : String) : List String :=
  if result.success then result.contracts.map (·.contractName) else Solidity.declaredNames source

/-- The answer for the result of a compilation. -/
def compileAnswer (result : Compiler.Result) (source : String) :
    Except Abi.Fault CompileAnswer :=
  (firstInterface result).map fun interface =>
    { success := result.success, contracts := result.contracts, errors := result.errors,
      warnings := result.warnings, contractNames := contractNames result source,
      typescriptInterface := interface }

/-- How many values may lie within each other in a field of an ABI entry. -/
def entryDepthLimit : Nat := 255

/-- A field of an ABI entry is too deep to be answered. -/
def isTooDeep (result : Compiler.Result) : Bool :=
  result.contracts.any fun artifact =>
    artifact.abi.any fun entry => entry.any fun field => entryDepthLimit < field.2.depth

/-- Half a surrogate pair that the compiler escapes gets into the answer. -/
def spillsHalf (context : Context) (compilation : CompileRequest) : Bool :=
  let run := Compiler.invocation context.settings compilation.sourceCode compilation.fileName
  !Compiler.importsPackages compilation.sourceCode && (context.compiler run).escapesHalf &&
    !context.encodesHalves run

/-- Compile a source. -/
def compileSource (context : Context) (request : Request) : Traced Answer :=
  answerToBody (CompileRequest.read .request) request fun compilation => do
    match ← Compiler.compile context.settings context.compiler compilation.sourceCode
        (.ofText compilation.fileName) with
    | .error _ => pure .brokeDown
    | .ok result =>
      match compileAnswer result compilation.sourceCode with
      | .error _ => pure .brokeDown
      | .ok answer =>
        pure (if isTooDeep result || spillsHalf context compilation then .brokeDown
          else .json answer.toJson)

/-- Write an interface for an ABI. -/
def writeInterface (_ : Context) (request : Request) : Traced Answer :=
  answerToBody (TypesRequest.read .request) request fun types =>
    match Abi.generateInterface routeCalls types.contractName
        (.arr (types.abi.map (·.toJson))) (.str types.language.name) with
    | .ok source => pure (.json (TypesAnswer.toJson ⟨source⟩))
    | .error _ => pure .brokeDown

/-- List the chains whose contracts can be verified. -/
def listNetworks (_ : Context) (_ : Request) : Traced Answer :=
  pure (.json (.arr (Explorer.Registry.builtin.filterMap fun endpoint =>
    (NetworkAnswer.ofEndpoint? endpoint).map (·.toJson))))

/-- List the compiler versions. -/
def listVersions (_ : Context) (_ : Request) : Traced Answer :=
  pure (.json (Json.texts Compiler.supportedVersions))

/-- The submission for a verification request. -/
def VerifyRequest.submission (request : VerifyRequest) : Explorer.Submission where
  chain := .number request.chainId
  contractAddress := .ofText request.contractAddress
  sourceCode := .ofText request.sourceCode
  contractName := .ofText request.contractName
  compilerVersion := .ofText request.compilerVersion
  optimizationUsed := request.optimizationUsed
  runs := .int request.runs
  constructorArguments := .ofText (request.constructorArguments.getD "")
  apiKey := .ofText (request.apiKey.getD "")

/-- The answer for the result of a call to the explorer. -/
def answerOf {α : Type} (toJson : α → Json) : Except Explorer.Breakdown α → Answer
  | .ok result => .json (toJson result)
  | .error _ => .brokeDown

/-- Submit a contract for verification. -/
def submitVerification (context : Context) (request : Request) : Traced Answer :=
  answerToBody (VerifyRequest.read .request) request fun verification => do
    let result ← Explorer.submit Explorer.Registry.builtin context.settings context.explorer
      verification.submission
    pure (answerOf submitResultToJson result)

/-- The parameters of a poll. -/
structure PollParameters where
  chainId : Int
  jobId : String
  apiKey : String
  deriving DecidableEq, Repr

/-- Read the parameters of a poll. -/
def PollParameters.read (request : Request) : Validation PollParameters :=
  PollParameters.mk <$> neededParameter request "chain_id" integer <*>
    neededParameter request "job_id" someText <*> neededParameter request "api_key" someText

/-- Poll a verification job. -/
def pollVerification (context : Context) (request : Request) : Traced Answer :=
  answerTo (PollParameters.read request) fun parameters => do
    let result ← Explorer.pollStatus Explorer.Registry.builtin context.settings context.explorer
      (.number parameters.chainId) (.ofText parameters.jobId) (.ofText parameters.apiKey)
    pure (answerOf (fun result => (StatusAnswer.ofResult result).toJson) result)

/-- The parameters of a lookup. -/
structure LookupParameters where
  chainId : Int
  address : String
  apiKey : Option String
  deriving DecidableEq, Repr

/-- Read the parameters of a lookup. -/
def LookupParameters.read (request : Request) : Validation LookupParameters :=
  LookupParameters.mk <$> neededParameter request "chain_id" integer <*>
    neededParameter request "address" someText <*> parameter? request "api_key"

/-- Look for verified source. -/
def lookUpVerified (context : Context) (request : Request) : Traced Answer :=
  answerTo (LookupParameters.read request) fun parameters => do
    let result ← Explorer.lookUpSource Explorer.Registry.builtin context.settings
      context.explorer (.number parameters.chainId) (.ofText parameters.address)
      (.ofText (parameters.apiKey.getD ""))
    pure (answerOf sourceResultToJson result)

/-- The version of the application. -/
def version : String := "0.1.0"

/-- Tell that the server is up. -/
def tellHealth (_ : Context) (_ : Request) : Traced Answer :=
  pure (.json (.obj [("status", .str "healthy"), ("version", .str version)]))

/-- Show what explains the server. -/
def explain (answer : Answer) (_ : Context) (_ : Request) : Traced Answer :=
  pure answer

/-- A path, the methods it takes, and what is done for it. -/
structure Route where
  path : String
  methods : List String
  serve : Context → Request → Traced Answer

/-- The paths of the pages that explain the server; there are none in production. -/
def pagePaths (settings : Settings) : List String :=
  if settings.isProduction then [] else ["/docs", "/docs/oauth2-redirect", "/redoc"]

/-- The description of the server and the pages that show it. -/
def documentationRoutes (settings : Settings) : List Route :=
  ⟨"/openapi.json", ["GET", "HEAD"], explain .description⟩ ::
    (pagePaths settings).map fun path => ⟨path, ["GET", "HEAD"], explain .page⟩

/-- The routes of the server. -/
def routes (settings : Settings) : List Route :=
  documentationRoutes settings ++ [
    ⟨"/api/analysis/scan", ["POST"], scanSource⟩,
    ⟨"/api/analysis/validate", ["POST"], validateSource⟩,
    ⟨"/api/analysis/compile", ["POST"], compileSource⟩,
    ⟨"/api/analysis/types", ["POST"], writeInterface⟩,
    ⟨"/api/verification/networks", ["GET"], listNetworks⟩,
    ⟨"/api/verification/compiler-versions", ["GET"], listVersions⟩,
    ⟨"/api/verification/submit", ["POST"], submitVerification⟩,
    ⟨"/api/verification/status", ["GET"], pollVerification⟩,
    ⟨"/api/verification/source", ["GET"], lookUpVerified⟩,
    ⟨"/health", ["GET"], tellHealth⟩]

end Soliscope.Web

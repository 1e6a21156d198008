import Soliscope.Proofs.Compiler.Handover
import Soliscope.Proofs.Effects
import Soliscope.Proofs.Web.Compilations

/-! # What requests make happen

A request makes the server run the compiler or call an explorer only if it asks for that: with the
method and the path of a route that does so, and with a body or a query that the route accepts. It
then happens once at most, and only one of the two happens. A request that is redirected or refused
makes nothing happen at all (`handle_hasOrderlyEffects`).

The path of a route may have a line break at its end, and nothing else may follow it
(`run_at_other_path`).
-/

namespace Soliscope.Web

open Schema

/-- A request is made to the place of a route, with its method. -/
structure Request.IsAt (request : Request) (method path : String) : Prop where
  method : request.method = method
  path : request.path = path ∨ request.path = path ++ "\n"

/-- The body of a request is a document that a reader accepts. -/
def Request.Bears {α : Type} (request : Request) (reader : Reader α) (value : α) : Prop :=
  hasJsonBody request = true ∧
    ∃ document, Json.readDocument request.body = .ok document ∧ reader document = .accepted value

/-- **A request asks for a compilation**, in the right form. -/
structure Request.AsksToCompile (request : Request) : Prop where
  place : request.IsAt "POST" "/api/analysis/compile"
  accepted : ∃ compilation, request.Bears (CompileRequest.read .request) compilation

/-- **A request asks for what only an explorer can tell**, in the right form. -/
inductive Request.AsksExplorer (request : Request) : Prop
  | submission (place : request.IsAt "POST" "/api/verification/submit")
      (accepted : ∃ verification, request.Bears (VerifyRequest.read .request) verification)
  | poll (place : request.IsAt "GET" "/api/verification/status")
      (accepted : ∃ parameters, PollParameters.read request = .accepted parameters)
  | lookup (place : request.IsAt "GET" "/api/verification/source")
      (accepted : ∃ parameters, LookupParameters.read request = .accepted parameters)

/-- **The effects of a request are in order**: what it makes happen it asked for, in the right form,
and a redirection or a refusal has no effects. -/
structure Request.HasOrderlyEffects (request : Request) (trace : Traced Response) : Prop where
  refusedQuietly : trace.value.status ∈ [307, 400, 404, 405, 422] →
    trace.invocations = [] ∧ trace.requests = []
  oneRun : trace.invocations.length ≤ 1
  runs : trace.invocations ≠ [] → request.AsksToCompile
  oneCall : trace.requests.length ≤ 1
  calls : trace.requests ≠ [] → request.AsksExplorer
  notBoth : trace.invocations = [] ∨ trace.requests = []

/-- An answer is given by a service, or a service broke down over it. -/
def Answer.IsOfService : Answer → Prop
  | .json _ | .page | .description | .brokeDown => True
  | .refused _ | .unreadableBody => False

/-- What a route may do for a request: nothing, or what the request asks for. -/
inductive Request.Causes (request : Request) (trace : Traced Answer) : Prop
  | nothing (limits : trace.MakesAtMost 0 0)
  | compilation (asked : request.AsksToCompile) (limits : trace.MakesAtMost 1 0)
      (answered : trace.value.IsOfService)
  | verification (asked : request.AsksExplorer) (limits : trace.MakesAtMost 0 1)
      (answered : trace.value.IsOfService)

section Routes

variable (context : Context) {request : Request}

/-- A body is served when it is accepted, and else answered at once. -/
theorem answerToBody_cases {α : Type} (reader : Reader α) (request : Request)
    (serve : α → Traced Answer) :
    (∃ answer, answerToBody reader request serve = pure answer) ∨
      ∃ value, request.Bears reader value ∧ answerToBody reader request serve = serve value := by
  unfold answerToBody
  dsimp only
  split
  · exact .inl ⟨_, rfl⟩
  split
  · exact .inl ⟨_, rfl⟩
  rename_i isJson
  split
  · rename_i document read
    split
    · rename_i value accepted
      have typed : hasJsonBody request = true := by simpa using isJson
      exact .inr ⟨value, ⟨typed, document, read, accepted⟩, rfl⟩
    · exact .inl ⟨_, rfl⟩
  · exact .inl ⟨_, rfl⟩
  · exact .inl ⟨_, rfl⟩

/-- A route for a document causes nothing unless its service does. -/
theorem causes_of_body {α : Type} {reader : Reader α} {serve : α → Traced Answer}
    (served : ∀ value, request.Bears reader value → request.Causes (serve value)) :
    request.Causes (answerToBody reader request serve) := by
  rcases answerToBody_cases reader request serve with ⟨answer, refused⟩ | ⟨value, bears, same⟩
  · rw [refused]
    exact .nothing (Traced.makesAtMost_pure answer 0 0)
  · rw [same]
    exact served value bears

/-- Refused parameters cause nothing, so that only accepted ones have to be looked at. -/
theorem causes_of_parameters {α : Type} {parameters : Validation α} {serve : α → Traced Answer}
    (served : ∀ value, parameters = .accepted value → request.Causes (serve value)) :
    request.Causes (answerTo parameters serve) := by
  cases parameters with
  | accepted value => exact served value rfl
  | refused issues => exact .nothing (Traced.makesAtMost_pure _ 0 0)

/-- Scanning a source has no effect. -/
theorem scanSource_causes : request.Causes (scanSource context request) := by
  apply causes_of_body
  intro source _
  exact .nothing ((Scan.scan_makesAtMost _ _).bind_quiet fun _ => Traced.makesAtMost_pure _ 0 0)

theorem validateSource_causes : request.Causes (validateSource context request) := by
  apply causes_of_body
  intro source _
  exact .nothing (Traced.makesAtMost_pure _ 0 0)

theorem writeInterface_causes : request.Causes (writeInterface context request) := by
  apply causes_of_body
  intro types _
  apply Request.Causes.nothing
  split
  · exact Traced.makesAtMost_pure _ 0 0
  · exact Traced.makesAtMost_pure _ 0 0

/-- A compilation runs the compiler at most once. -/
theorem compileSource_causes (place : request.IsAt "POST" "/api/analysis/compile") :
    request.Causes (compileSource context request) := by
  apply causes_of_body
  intro compilation bears
  refine .compilation ⟨place, compilation, bears⟩ ?_ ?_
  · apply (Compiler.compile_makesAtMost _ _ _ _).bind_quiet
    intro outcome
    split
    · exact Traced.makesAtMost_pure _ 0 0
    · split
      · exact Traced.makesAtMost_pure _ 0 0
      · exact Traced.makesAtMost_pure _ 0 0
  · rw [Traced.value_bind]
    split
    · trivial
    · split
      · trivial
      · rw [Traced.value_pure]
        split <;> trivial

/-- What the explorer gives is answered with a document, and what breaks down with status 500. -/
theorem answerOf_isOfService {α : Type} (toJson : α → Json)
    (result : Except Explorer.Breakdown α) : (answerOf toJson result).IsOfService := by
  cases result <;> trivial

/-- A submission posts to the explorer at most once. -/
theorem submitVerification_causes (place : request.IsAt "POST" "/api/verification/submit") :
    request.Causes (submitVerification context request) := by
  apply causes_of_body
  intro verification bears
  refine .verification (.submission place ⟨verification, bears⟩) ?_ (answerOf_isOfService _ _)
  exact (Explorer.submit_makesAtMost _ _ _ _).bind_quiet fun _ => Traced.makesAtMost_pure _ 0 0

/-- A poll asks the explorer at most once. -/
theorem pollVerification_causes (place : request.IsAt "GET" "/api/verification/status") :
    request.Causes (pollVerification context request) := by
  apply causes_of_parameters
  intro parameters accepted
  refine .verification (.poll place ⟨parameters, accepted⟩) ?_ (answerOf_isOfService _ _)
  exact (Explorer.pollStatus_makesAtMost _ _ _ _ _ _).bind_quiet fun _ =>
    Traced.makesAtMost_pure _ 0 0

theorem lookUpVerified_causes (place : request.IsAt "GET" "/api/verification/source") :
    request.Causes (lookUpVerified context request) := by
  apply causes_of_parameters
  intro parameters accepted
  refine .verification (.lookup place ⟨parameters, accepted⟩) ?_ (answerOf_isOfService _ _)
  exact (Explorer.lookUpSource_makesAtMost _ _ _ _ _ _).bind_quiet fun _ =>
    Traced.makesAtMost_pure _ 0 0

/-- **A route causes what is asked for at its place, or nothing.** -/
theorem route_causes {route : Route} (known : route ∈ routes context.settings)
    (place : ∃ method ∈ route.methods, request.IsAt method route.path) :
    request.Causes (route.serve context request) := by
  have quiet (answer : Answer) : request.Causes (pure answer) :=
    .nothing (Traced.makesAtMost_pure answer 0 0)
  rcases List.mem_append.mp known with documentation | service
  · rcases List.mem_cons.mp documentation with rfl | page
    · exact quiet _
    · obtain ⟨path, -, rfl⟩ := List.mem_map.mp page
      exact quiet _
  · simp only [List.mem_cons, List.not_mem_nil, or_false] at service
    rcases service with rfl | rfl | rfl | rfl | rfl | rfl | rfl | rfl | rfl | rfl <;>
      simp only [List.mem_singleton, exists_eq_left] at place
    · exact scanSource_causes context
    · exact validateSource_causes context
    · exact compileSource_causes context place
    · exact writeInterface_causes context
    · exact quiet _
    · exact quiet _
    · exact submitVerification_causes context place
    · exact pollVerification_causes context place
    · exact lookUpVerified_causes context place
    · exact quiet _

end Routes

section Server

variable {context : Context} {request : Request}

/-- A request is served only by a route in the table, by one of its methods and under its path. -/
theorem dispatch_eq_serve {route : Route}
    (served : dispatch context.settings request = .serve route) :
    route ∈ routes context.settings ∧ ∃ method ∈ route.methods, request.IsAt method route.path := by
  unfold dispatch at served
  split at served
  · rename_i found known
    split at served
    · rename_i takes
      cases served
      have here := List.find?_some known
      simp only [Route.takes, Bool.or_eq_true, beq_iff_eq] at here
      exact ⟨List.mem_of_find?_eq_some known, request.method, List.contains_iff_mem.mp takes, rfl,
        here⟩
    · cases served
  · dsimp only at served
    split at served <;> cases served

/-- A route answers with status 200 or 500. -/
theorem status_response_of_isOfService {answer : Answer} (answered : answer.IsOfService) :
    answer.response.status = 200 ∨ answer.response.status = 500 := by
  cases answer with
  | json value => exact .inl rfl
  | page => exact .inl rfl
  | description => exact .inl rfl
  | brokeDown => exact .inr rfl
  | refused issues => cases answered
  | unreadableBody => cases answered

/-- A reply to a request for headers keeps its status. -/
theorem status_sentFor (response : Response) (request : Request) :
    (response.sentFor request).status = response.status := by
  unfold Response.sentFor
  split <;> rfl

/-- What is served is sent with its status, and nothing else is done. -/
theorem handle_of_serve {route : Route} (ordinary : Cors.preflight? request = none)
    (served : dispatch context.settings request = .serve route) :
    (handle context request).value.status = (route.serve context request).value.response.status ∧
      (handle context request).events = (route.serve context request).events := by
  cases answered : (route.serve context request).value <;>
    simp only [handle, ordinary, respond, served, Traced.value_bind, Traced.events_bind, answered,
      Traced.value_pure, Traced.events_pure, List.append_nil, status_sentFor,
      Response.withHeaders, and_self]

/-- A request that no route serves has no effects. -/
theorem handle_quiet (unserved : ∀ route, Cors.preflight? request = none →
    dispatch context.settings request ≠ .serve route) :
    (handle context request).MakesAtMost 0 0 := by
  unfold handle
  split
  · exact Traced.makesAtMost_pure _ 0 0
  · rename_i ordinary
    apply Traced.MakesAtMost.bind_quiet
    · unfold respond
      split
      · rename_i route served
        exact (unserved route ordinary served).elim
      · exact Traced.makesAtMost_pure _ 0 0
      · exact Traced.makesAtMost_pure _ 0 0
      · exact Traced.makesAtMost_pure _ 0 0
    · intro response
      split <;> exact Traced.makesAtMost_pure _ 0 0

/-- A trace without effects is orderly whatever the request is. -/
theorem hasOrderlyEffects_of_quiet {trace : Traced Response} (quiet : trace.MakesAtMost 0 0) :
    request.HasOrderlyEffects trace where
  refusedQuietly _ := ⟨quiet.no_runs, quiet.no_calls⟩
  oneRun := quiet.runs.trans (Nat.zero_le 1)
  runs happened := (happened quiet.no_runs).elim
  oneCall := quiet.calls.trans (Nat.zero_le 1)
  calls happened := (happened quiet.no_calls).elim
  notBoth := .inl quiet.no_runs

/-- What a route causes is in order when it is sent with the status of its answer. -/
theorem Request.Causes.hasOrderlyEffects {served : Traced Answer} {trace : Traced Response}
    (causes : request.Causes served)
    (status : trace.value.status = served.value.response.status)
    (events : trace.events = served.events) : request.HasOrderlyEffects trace := by
  have sameRuns : trace.invocations = served.invocations := congrArg (List.filterMap _) events
  have sameCalls : trace.requests = served.requests := congrArg (List.filterMap _) events
  have sent (answered : served.value.IsOfService)
      (refused : trace.value.status ∈ [307, 400, 404, 405, 422]) : False := by
    rw [status] at refused
    rcases status_response_of_isOfService answered with fine | broken
    · rw [fine] at refused
      revert refused
      decide
    · rw [broken] at refused
      revert refused
      decide
  cases causes with
  | nothing limits =>
      apply hasOrderlyEffects_of_quiet
      exact ⟨sameRuns ▸ limits.runs, sameCalls ▸ limits.calls⟩
  | compilation asked limits answered =>
      have noCalls : trace.requests = [] := sameCalls.trans limits.no_calls
      exact {
        refusedQuietly := fun refused => (sent answered refused).elim
        oneRun := sameRuns ▸ limits.runs
        runs := fun _ => asked
        oneCall := by simp [noCalls]
        calls := fun happened => (happened noCalls).elim
        notBoth := .inr noCalls }
  | verification asked limits answered =>
      have noRuns : trace.invocations = [] := sameRuns.trans limits.no_runs
      exact {
        refusedQuietly := fun refused => (sent answered refused).elim
        oneRun := by simp [noRuns]
        runs := fun happened => (happened noRuns).elim
        oneCall := sameCalls ▸ limits.calls
        calls := fun _ => asked
        notBoth := .inl noRuns }

/-- **The effects of every request are in order**, whatever the compiler and the explorer do. -/
theorem handle_hasOrderlyEffects (context : Context) (request : Request) :
    request.HasOrderlyEffects (handle context request) := by
  by_cases unserved : ∀ route, Cors.preflight? request = none →
      dispatch context.settings request ≠ .serve route
  · exact hasOrderlyEffects_of_quiet (handle_quiet unserved)
  · push Not at unserved
    obtain ⟨route, ordinary, served⟩ := unserved
    obtain ⟨known, place⟩ := dispatch_eq_serve served
    obtain ⟨status, events⟩ := handle_of_serve ordinary served
    exact (route_causes context known place).hasOrderlyEffects status events

end Server

/-- The path that is asked for ends in a line break, written as an escape. -/
theorem posts_brokenPath :
    (Request.posting "/api/analysis/compile%0A" contractDocument).Posts
      "/api/analysis/compile\n" contractDocument := by
  have unescaped : (Request.posting "/api/analysis/compile%0A" contractDocument).path =
      "/api/analysis/compile\n" := by
    decide +kernel
  have posts := @Request.Posts.posting _ _ "/api/analysis/compile%0A" _ posts_contract
  rwa [unescaped] at posts

/-- The pattern of a path admits a line break at the end. -/
theorem route?_brokenPath (settings : Settings) : route? settings "/api/analysis/compile\n" =
    some ⟨"/api/analysis/compile", ["POST"], compileSource⟩ := by
  rw [route?, routes, documentationRoutes, pagePaths]
  cases settings.isProduction <;> rfl

/-- A contract is compiled also when it is posted to another path than that of compilations. -/
theorem run_at_other_path :
    (Request.posting "/api/analysis/compile%0A" contractDocument).path ≠ "/api/analysis/compile" ∧
    (handle (.compiling .notFound)
      (.posting "/api/analysis/compile%0A" contractDocument)).invocations.length = 1 := by
  have posts := posts_brokenPath
  have served := posts.dispatch_eq (route?_brokenPath Settings.standard) List.mem_cons_self
  have single : Compiler.importsPackages contractCompilation.sourceCode = false := by
    decide +kernel
  constructor
  · rw [posts.path]
    decide
  · have events := (@handle_of_serve (.compiling .notFound) _ _ posts.preflight?_eq served).2
    have same := congrArg (List.filterMap Event.invocation?) events
    have run : (compileSource (.compiling .notFound)
        (.posting "/api/analysis/compile%0A" contractDocument)).invocations.length = 1 := by
      rw [compileSource, posts.answerToBody_eq read_contract, Traced.invocations_bind,
        Compiler.invocations_compile single]
      split
      · rfl
      · split <;> rfl
    exact (congrArg List.length same).trans run

end Soliscope.Web

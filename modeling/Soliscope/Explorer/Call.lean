import Soliscope.Explorer.Envelope
import Soliscope.Explorer.Redirection
import Soliscope.Explorer.Request
import Soliscope.Trace

/-! # Calls to an explorer

One call is one round trip: a form is sent, and the answer is read as an envelope.
-/

namespace Soliscope.Explorer

/-- The document in the content of a response. -/
def contentDocument (content : List UInt8) : Except Setback Json :=
  match Json.readDocument content with
  | .ok value => .ok value
  | .error (.unreadable (.tooDeep container)) => .error (.brokeDown (.deepDocument container))
  | .error error => .error (.failed (.notJson error))

/-- The envelope in a document. -/
def documentEnvelope (document : Json) : Except Setback Envelope :=
  match Envelope.read document with
  | .accepted envelope => .ok envelope
  | .refused issues => .error (.failed (.otherForm "ExplorerResponse" issues))

/-- The content of a response that came from where it was asked for. -/
def receivedContent (url : Url.Address) (response : Response) : Except Setback (List UInt8) :=
  match response.content with
  | .error flaw => .error (.failed (.badContent flaw))
  | .ok content =>
    if url.isAbsolute then .ok content else .error (.failed (.noScheme url.render))

/-- The envelope of a response. -/
def envelopeOfResponse (url : Url.Address) (response : Response) : Except Setback Envelope := do
  let content ← receivedContent url response
  match redirection? response.status response.headers with
  | some location => do
    let _ ← redirectionTarget url location
    pure ()
  | none => pure ()
  if isSuccess response.status then do
    let document ← contentDocument content
    documentEnvelope document
  else
    throw (.failed (.status ⟨response.status, url.render,
      redirection? response.status response.headers⟩))

/-- The envelope of a reply. -/
def envelopeOfReply (url : Url.Address) : Reply → Except Setback Envelope
  | .answered response => envelopeOfResponse url response
  | .failed message => .error (.failed (.noAnswer message))
  | .brokeDown message => .error (.brokeDown (.roundTrip message))

/-- What keeps a request from being made, if anything: where it goes has to be told in ASCII, and
the host has to be one that can be shown. -/
def obstacle? (url : Url.Address) : Option CallFailure :=
  match Text.foreignRun? url.location, url.hostName with
  | some run, _ => some (.foreignLocation run)
  | none, .error flaw => some (.badHost flaw)
  | none, .ok _ => none

/-- Make a call, if its request can be made at all, and read its envelope. -/
def call (explorer : Request → Reply) (request : Except Url.Flaw Request) :
    Traced (Except Setback Envelope) :=
  match request with
  | .error flaw => pure (.error (.brokeDown (.badUrl flaw)))
  | .ok request =>
    match obstacle? request.url with
    | some failure => pure (.error (.failed failure))
    | none => do
      let reply ← callExplorer explorer request
      pure (envelopeOfReply request.url reply)

end Soliscope.Explorer

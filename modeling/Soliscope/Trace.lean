import Soliscope.Compiler.Invocation
import Soliscope.Explorer.Request

/-! # Traces

A service answers and, on the way, writes log records, runs the compiler or calls an explorer.
`Traced α` is an answer together with everything that happened, in order.  What the compiler and
the explorer reply is given to a service as a function, so that a service is a plain function of
its arguments and these replies.
-/

namespace Soliscope

/-- How important a log record is. -/
inductive LogLevel where
  | debug
  | info
  | warning
  | error
  deriving DecidableEq, Repr

/-- The name of a level in a log record. -/
def LogLevel.name : LogLevel → String
  | .debug => "DEBUG"
  | .info => "INFO"
  | .warning => "WARNING"
  | .error => "ERROR"

/-- A log record. -/
structure LogRecord where
  level : LogLevel
  message : String
  deriving DecidableEq, Repr

/-- Something that a service did. -/
inductive Event where
  | logged (record : LogRecord)
  | compilerRun (invocation : Compiler.Invocation)
  | explorerCall (request : Explorer.Request)

/-- The log record of an event, if it is one. -/
def Event.record? : Event → Option LogRecord
  | .logged record => some record
  | _ => none

/-- The compiler run of an event, if it is one. -/
def Event.invocation? : Event → Option Compiler.Invocation
  | .compilerRun invocation => some invocation
  | _ => none

/-- The explorer request of an event, if it is one. -/
def Event.request? : Event → Option Explorer.Request
  | .explorerCall request => some request
  | _ => none

/-- An answer and the events on the way to it. -/
structure Traced (α : Type) where
  value : α
  events : List Event

namespace Traced

/-- An answer with nothing done for it. -/
protected def pure {α : Type} (value : α) : Traced α := ⟨value, []⟩

/-- Go on from an answer; what was done for it comes first. -/
protected def bind {α β : Type} (first : Traced α) (next : α → Traced β) : Traced β :=
  ⟨(next first.value).value, first.events ++ (next first.value).events⟩

instance : Monad Traced where
  pure := Traced.pure
  bind := Traced.bind

/-- The log records, in order. -/
def log {α : Type} (traced : Traced α) : List LogRecord :=
  traced.events.filterMap Event.record?

/-- The compiler runs, in order. -/
def invocations {α : Type} (traced : Traced α) : List Compiler.Invocation :=
  traced.events.filterMap Event.invocation?

/-- The explorer requests, in order. -/
def requests {α : Type} (traced : Traced α) : List Explorer.Request :=
  traced.events.filterMap Event.request?

@[simp] theorem value_pure {α : Type} (value : α) : (pure value : Traced α).value = value := rfl

@[simp] theorem events_pure {α : Type} (value : α) : (pure value : Traced α).events = [] := rfl

@[simp] theorem value_bind {α β : Type} (first : Traced α) (next : α → Traced β) :
    (first >>= next).value = (next first.value).value := rfl

@[simp] theorem events_bind {α β : Type} (first : Traced α) (next : α → Traced β) :
    (first >>= next).events = first.events ++ (next first.value).events := rfl

@[simp] theorem log_pure {α : Type} (value : α) : (pure value : Traced α).log = [] := rfl

@[simp] theorem log_bind {α β : Type} (first : Traced α) (next : α → Traced β) :
    (first >>= next).log = first.log ++ (next first.value).log :=
  List.filterMap_append

@[simp] theorem invocations_pure {α : Type} (value : α) :
    (pure value : Traced α).invocations = [] := rfl

@[simp] theorem invocations_bind {α β : Type} (first : Traced α) (next : α → Traced β) :
    (first >>= next).invocations = first.invocations ++ (next first.value).invocations :=
  List.filterMap_append

@[simp] theorem requests_pure {α : Type} (value : α) :
    (pure value : Traced α).requests = [] := rfl

@[simp] theorem requests_bind {α β : Type} (first : Traced α) (next : α → Traced β) :
    (first >>= next).requests = first.requests ++ (next first.value).requests :=
  List.filterMap_append

end Traced

/-- Write a log record. -/
def record (level : LogLevel) (message : String) : Traced Unit :=
  ⟨(), [.logged ⟨level, message⟩]⟩

/-- Run the compiler. -/
def runCompiler (compiler : Compiler.Invocation → Compiler.RunOutcome)
    (invocation : Compiler.Invocation) : Traced Compiler.RunOutcome :=
  ⟨compiler invocation, [.compilerRun invocation]⟩

/-- Call an explorer. -/
def callExplorer (explorer : Explorer.Request → Explorer.Reply) (request : Explorer.Request) :
    Traced Explorer.Reply :=
  ⟨explorer request, [.explorerCall request]⟩

@[simp] theorem log_record (level : LogLevel) (message : String) :
    (record level message).log = [⟨level, message⟩] := rfl

@[simp] theorem invocations_record (level : LogLevel) (message : String) :
    (record level message).invocations = [] := rfl

@[simp] theorem requests_record (level : LogLevel) (message : String) :
    (record level message).requests = [] := rfl

@[simp] theorem value_runCompiler (compiler : Compiler.Invocation → Compiler.RunOutcome)
    (invocation : Compiler.Invocation) :
    (runCompiler compiler invocation).value = compiler invocation := rfl

@[simp] theorem log_runCompiler (compiler : Compiler.Invocation → Compiler.RunOutcome)
    (invocation : Compiler.Invocation) : (runCompiler compiler invocation).log = [] := rfl

@[simp] theorem invocations_runCompiler (compiler : Compiler.Invocation → Compiler.RunOutcome)
    (invocation : Compiler.Invocation) :
    (runCompiler compiler invocation).invocations = [invocation] := rfl

@[simp] theorem requests_runCompiler (compiler : Compiler.Invocation → Compiler.RunOutcome)
    (invocation : Compiler.Invocation) : (runCompiler compiler invocation).requests = [] := rfl

@[simp] theorem value_callExplorer (explorer : Explorer.Request → Explorer.Reply)
    (request : Explorer.Request) :
    (callExplorer explorer request).value = explorer request := rfl

@[simp] theorem log_callExplorer (explorer : Explorer.Request → Explorer.Reply)
    (request : Explorer.Request) : (callExplorer explorer request).log = [] := rfl

@[simp] theorem invocations_callExplorer (explorer : Explorer.Request → Explorer.Reply)
    (request : Explorer.Request) : (callExplorer explorer request).invocations = [] := rfl

@[simp] theorem requests_callExplorer (explorer : Explorer.Request → Explorer.Reply)
    (request : Explorer.Request) : (callExplorer explorer request).requests = [request] := rfl

end Soliscope

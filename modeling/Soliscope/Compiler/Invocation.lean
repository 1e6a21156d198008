/-! # Compiler runs

What the compiler is started with, and how a run ends.
-/

namespace Soliscope.Compiler

/-- One run of the compiler: the command, the text on its standard input and the longest time that
it may take, in seconds. -/
structure Invocation where
  command : List String
  input : String
  timeout : Float

/-- How a run ends. -/
inductive RunOutcome where
  /-- The process ended.  Its error stream may be missing. -/
  | finished (output : String) (errorOutput : Option String) (exitCode : Int)
  /-- There is no such program. -/
  | notFound
  | timedOut
  /-- The output is no text in the expected encoding. -/
  | undecodable (reason : String)
  /-- The system refused to run the program. -/
  | refused (reason : String)
  /-- Running the program broke down in a way that nobody expects. -/
  | brokeDown (message : String)
  deriving DecidableEq, Repr

end Soliscope.Compiler

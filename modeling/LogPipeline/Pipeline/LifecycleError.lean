import LogPipeline.ConfigError

/-!
# Errors of starting and stopping

A controller or an input was used in the wrong order, or something went wrong while it ran.
-/

namespace LogPipeline

inductive LifecycleError where
  | notStarted (name : String)
  | alreadyStarted (name : String)
  | alreadyClosed (name : String)
  /-- Events could not be handed on, because nobody takes them any more. -/
  | downstreamClosed (controller : String) (count : Nat)
  | workerPanicked (controller : String)
  | input (name message : String)
  deriving DecidableEq, Repr

def LifecycleError.message : LifecycleError → String
  | .notStarted name => "Controller '" ++ name ++ "' was closed before it was started"
  | .alreadyStarted name => "Controller '" ++ name ++ "' is already running"
  | .alreadyClosed name => "Controller '" ++ name ++ "' is already closed"
  | .downstreamClosed controller count =>
    "Controller '" ++ controller ++ "' could not deliver " ++ natText count ++
      " event(s): downstream phase closed first"
  | .workerPanicked controller => "A worker of controller '" ++ controller ++ "' panicked"
  | .input name message => "Input '" ++ name ++ "' failed: " ++ message

end LogPipeline

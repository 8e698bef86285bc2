import LogPipeline.Stage.Basic

/-!
# Failure policies

What a filter does with an event that it could not process.
-/

namespace LogPipeline

namespace Filter

inductive FailurePolicy where
  /-- The event goes on with a tag. -/
  | tag
  | drop
  /-- The event goes on as it is. -/
  | pass
  deriving DecidableEq, Repr

def FailurePolicy.ofName? (name : String) : Option FailurePolicy :=
  if name = "tag" then some .tag
  else if name = "drop" then some .drop
  else if name = "pass" then some .pass
  else none

def FailurePolicy.name : FailurePolicy → String
  | .tag => "tag"
  | .drop => "drop"
  | .pass => "pass"

def FailurePolicy.apply (policy : FailurePolicy) (event : Event) (tag : String) : Flow :=
  match policy with
  | .tag => .continue (event.addTag tag)
  | .drop => .drop
  | .pass => .continue event

end Filter

end LogPipeline

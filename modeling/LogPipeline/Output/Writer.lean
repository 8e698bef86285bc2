import LogPipeline.Stage.Basic

/-!
# Writers

An output writes each event as a JSON object on a line of its own, or spread over lines in the wide form. An
event that cannot be written is discarded.
-/

namespace LogPipeline

/-- Where an output writes to, by what it refuses. -/
structure Device where
  /-- Why nothing can be written. -/
  writeFault : Option String := none
  /-- Why what was written cannot be made to last. -/
  flushFault : Option String := none
  deriving Repr

namespace Writer

def lineText (pretty : Bool) (event : Event) : String :=
  (if pretty then event.toDoc.wide else event.toJson) ++ "\n"

def process (device : Device) (pretty : Bool) (event : Event) : Effect :=
  match device.writeFault with
  | none => .flow (.continue event) (lineText pretty event)
  | some _ => .flow .drop ""

def finish (name : String) (device : Device) : Except ProcessingError Unit :=
  match device.flushFault with
  | none => .ok ()
  | some cause => .error (.write name cause)

def stage (name : String) (device : Device) (pretty : Bool) : Stage :=
  ⟨name, process device pretty, finish name device⟩

end Writer

end LogPipeline

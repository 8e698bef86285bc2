import LogPipeline.Filter.Policy
import LogPipeline.Grok.Matcher

/-!
# Extraction

The grok filter matches the line of an event, or a text field, and merges what it captures into the fields.
-/

namespace LogPipeline.Filter

structure GrokConfig where
  /-- The expression to match. -/
  pattern : String
  onFailure : FailurePolicy
  /-- The field to match instead of the line. -/
  source : Option String := none
  tag : Option String := none
  deriving Repr

structure Grok where
  matcher : Grok.Matcher
  source : Option String
  onFailure : FailurePolicy
  tag : String
  deriving Repr

namespace Grok

def defaultTag : String := "_grokparsefailure"

/-- The filter of a configuration, and the compiler with the matcher it needs. -/
def build (config : GrokConfig) (compiler : LogPipeline.Grok.Compiler) :
    Except ConfigError Grok × LogPipeline.Grok.Compiler :=
  if config.pattern = "" then (.error (.missingOption "grok" "pattern"), compiler)
  else
    let (matcher, compiler) := compiler.compile config.pattern
    (matcher.map fun matcher =>
      ⟨matcher, config.source, config.onFailure, config.tag.getD defaultTag⟩, compiler)

def name : String := "grok"

/-- The text that is matched, if the event has it. -/
def text? (filter : Grok) (event : Event) : Option String :=
  match filter.source with
  | some field => event.getText? field
  | none => event.raw

/-- The event with the captures merged into its fields, if there is a text and it matches. -/
def extract? (filter : Grok) (event : Event) : Option Event :=
  ((filter.text? event).bind filter.matcher.captures?).map fun captures =>
    { event with fields := event.fields.insertAll captures }

def process (filter : Grok) (event : Event) : Flow :=
  match filter.extract? event with
  | some event => .continue event
  | none => filter.onFailure.apply event filter.tag

end Grok

end LogPipeline.Filter

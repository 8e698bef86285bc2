import LogPipeline.ConfigError
import LogPipeline.Filter.Policy
import LogPipeline.Time.Layout

/-!
# Timestamps

The date filter reads the text of a field by the first of its layouts that accepts it and puts the instant
into its target field.
-/

namespace LogPipeline.Filter

structure DateConfig where
  field : String
  /-- The layouts, in the order in which they are tried. -/
  patterns : List String
  /-- The zone of values without an offset. -/
  timezone : String := "UTC"
  target : Option String := none
  onFailure : FailurePolicy
  tag : Option String := none
  deriving Repr

structure Date where
  field : String
  target : String
  layouts : List Time.Layout
  zone : Time.Zone
  onFailure : FailurePolicy
  tag : String
  deriving Repr

namespace Date

def defaultTarget : String := "@timestamp"

def defaultTag : String := "_dateparsefailure"

def parseLayout (layout : String) : Except ConfigError Time.Layout :=
  (Time.Layout.parse layout).mapError fun e => .invalidLayout e.layout e.message

def build (config : DateConfig) : Except ConfigError Date :=
  if config.field = "" then .error (.missingOption "date" "field")
  else if config.patterns = [] then .error (.missingOption "date" "patterns")
  else do
    let layouts ← config.patterns.mapM parseLayout
    match Time.Zone.named? config.timezone with
    | none => .error (.unknownTimezone config.timezone)
    | some zone =>
      return ⟨config.field, config.target.getD defaultTarget, layouts, zone, config.onFailure,
        config.tag.getD defaultTag⟩

def name (filter : Date) : String := "date:" ++ filter.field

/-- The instant of a text by the first layout that accepts it, with the position of the layout. -/
def parseFrom (filter : Date) (currentYear : Int) (text : String) (index : Nat) :
    List Time.Layout → Option (Nat × Time.Instant)
  | [] => none
  | layout :: rest =>
    match layout.read? currentYear filter.zone text with
    | some instant => some (index, instant)
    | none => filter.parseFrom currentYear text (index + 1) rest

def parse? (filter : Date) (currentYear : Int) (text : String) : Option (Nat × Time.Instant) :=
  filter.parseFrom currentYear text 0 filter.layouts

/-- The event with the instant in the target field. An instant is taken as it is. -/
def normalize (filter : Date) (currentYear : Int) (event : Event) : Except ProcessingError Event :=
  match event.get? filter.field with
  | none => .error (.fieldMissing filter.field)
  | some (.timestamp instant) => .ok (event.insert filter.target (.timestamp instant))
  | some value =>
    match filter.parse? currentYear value.display with
    | some (_, instant) => .ok (event.insert filter.target (.timestamp instant))
    | none => .error (.noMatchingLayout filter.field value.display)

def process (filter : Date) (currentYear : Int) (event : Event) : Flow :=
  match filter.normalize currentYear event with
  | .ok event => .continue event
  | .error _ => filter.onFailure.apply event filter.tag

end Date

end LogPipeline.Filter

import LogPipeline.ConfigError
import LogPipeline.Filter.Policy
import LogPipeline.Text.Case

/-!
# Mutation

The mutate filter changes fields and tags by one of eight actions. What an action names and the event does
not have is skipped, and a value that cannot be converted stays as it is.
-/

namespace LogPipeline.Filter

/-- The options of the filter. Which of them is read depends on the action. -/
structure MutateConfig where
  action : String
  fields : List String := []
  values : Keyed Value := []
  rename : Keyed String := []
  tags : List String := []
  convert : Keyed String := []
  deriving Repr

inductive Conversion where
  | integer
  | float
  | text
  | boolean
  deriving DecidableEq, Repr

namespace Conversion

def ofName? (name : String) : Option Conversion :=
  if name = "integer" ∨ name = "int" then some .integer
  else if name = "float" then some .float
  else if name = "string" then some .text
  else if name = "boolean" ∨ name = "bool" then some .boolean
  else none

/-- The nearest integer of 64 bits. -/
def clamp (i : Int) : Int := max Number.leastInteger (min Number.greatestInteger i)

/-- The integer of a float, cut off at the point and at the limits of 64 bits; what is not a number
is zero. -/
def integerOf (x : Binary64) : Int :=
  match x with
  | .nan => 0
  | .infinite negative => if negative then Number.leastInteger else Number.greatestInteger
  | x => clamp (x.truncate.getD 0)

def trimmed (value : Value) : List Char := Text.trim value.display.toList

def booleanOf? (word : String) : Option Bool :=
  if ["true", "t", "yes", "y", "1"].contains word then some true
  else if ["false", "f", "no", "n", "0"].contains word then some false
  else none

/-- The converted value, if there is one. -/
def convert? (conversion : Conversion) (value : Value) : Option Value :=
  match conversion, value with
  | .integer, .integer _ => some value
  | .integer, .float x => some (.integer (integerOf x))
  | .integer, .bool b => some (.integer (if b then 1 else 0))
  | .integer, _ => (Number.readInteger? (trimmed value)).map .integer
  | .float, .float _ => some value
  | .float, .integer i => some (.float (.ofInt i))
  | .float, _ => (Number.readDecimal? (trimmed value)).map .float
  | .text, _ => some (.text value.display)
  | .boolean, .bool _ => some value
  | .boolean, _ =>
    (booleanOf? (String.ofList ((trimmed value).map Char.toLower))).map .bool

end Conversion

/-- An action with what it is applied to. -/
inductive Mutation where
  | removeField (fields : List String)
  | addField (values : Keyed Value)
  | renameField (renames : Keyed String)
  | addTag (tags : List String)
  | removeTag (tags : List String)
  | uppercase (fields : List String)
  | lowercase (fields : List String)
  | convert (conversions : Keyed Conversion)
  deriving Repr

namespace Mutation

def name : Mutation → String
  | .removeField _ => "remove_field"
  | .addField _ => "add_field"
  | .renameField _ => "rename_field"
  | .addTag _ => "add_tag"
  | .removeTag _ => "remove_tag"
  | .uppercase _ => "uppercase"
  | .lowercase _ => "lowercase"
  | .convert _ => "convert"

/-- The option that an action reads. -/
def operand : Mutation → String
  | .removeField _ | .uppercase _ | .lowercase _ => "fields"
  | .addField _ => "values"
  | .renameField _ => "rename"
  | .addTag _ | .removeTag _ => "tags"
  | .convert _ => "convert"

/-- An operand must not be empty. -/
def required {α : Type} (option : String) (operand : List α) (action : List α → Mutation) :
    Except ConfigError Mutation :=
  if operand.isEmpty then .error (.missingOption "mutate" option) else .ok (action operand)

def parseConversion (entry : String × String) : Except ConfigError (String × Conversion) :=
  match Conversion.ofName? entry.2 with
  | some conversion => .ok (entry.1, conversion)
  | none => .error (.invalidOption "mutate" "convert" ("unknown type '" ++ entry.2 ++ "' for field '" ++
      entry.1 ++ "': use integer, float, string or boolean"))

/-- The action that a configuration names. -/
def ofAction (config : MutateConfig) : Except ConfigError Mutation :=
  match config.action with
  | "remove_field" => required "fields" config.fields .removeField
  | "add_field" => required "values" config.values .addField
  | "rename_field" => required "rename" config.rename .renameField
  | "add_tag" => required "tags" config.tags .addTag
  | "remove_tag" => required "tags" config.tags .removeTag
  | "uppercase" => required "fields" config.fields .uppercase
  | "lowercase" => required "fields" config.fields .lowercase
  | "convert" =>
    if config.convert.isEmpty then .error (.missingOption "mutate" "convert")
    else (config.convert.mapM parseConversion).map .convert
  | other => .error (.unknownAction other)

/-- The options that are given, in a fixed order. -/
def givenOptions (config : MutateConfig) : List String :=
  ([("fields", config.fields.isEmpty), ("values", config.values.isEmpty),
    ("rename", config.rename.isEmpty), ("tags", config.tags.isEmpty),
    ("convert", config.convert.isEmpty)].filter fun option => !option.2).map Prod.fst

/-- The action of a configuration, which gives the option that the action reads and no other. -/
def build (config : MutateConfig) : Except ConfigError Mutation := do
  let action ← ofAction config
  match (givenOptions config).find? (· != action.operand) with
  | some option =>
    .error (.invalidOption "mutate" option ("not used by action '" ++ config.action ++ "'"))
  | none => .ok action

/-- Changes a field that holds a text. -/
def mapText (f : List Char → List Char) (event : Event) (field : String) : Event :=
  match event.get? field with
  | some (.text s) => event.insert field (.text (String.ofList (f s.toList)))
  | _ => event

def renameOne (event : Event) (entry : String × String) : Event :=
  match event.get? entry.1 with
  | some value => (event.remove entry.1).insert entry.2 value
  | none => event

def convertOne (event : Event) (entry : String × Conversion) : Event :=
  match (event.get? entry.1).bind entry.2.convert? with
  | some value => event.insert entry.1 value
  | none => event

def apply (mutation : Mutation) (event : Event) : Event :=
  match mutation with
  | .removeField fields => fields.foldl Event.remove event
  | .addField values => { event with fields := event.fields.insertAll values }
  | .renameField renames => renames.foldl renameOne event
  | .addTag tags => tags.foldl Event.addTag event
  | .removeTag tags => tags.foldl Event.removeTag event
  | .uppercase fields => fields.foldl (mapText Text.toUpper) event
  | .lowercase fields => fields.foldl (mapText Text.toLower) event
  | .convert conversions => conversions.foldl convertOne event

def stageName (mutation : Mutation) : String := "mutate:" ++ mutation.name

end Mutation

end LogPipeline.Filter

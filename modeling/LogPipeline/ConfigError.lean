import LogPipeline.Regex.Lexeme
import LogPipeline.Json.Doc

/-!
# Configuration errors

What can be wrong with a configuration. None of this can happen once events flow.
-/

namespace LogPipeline

/-- Why a file cannot be opened or read. -/
inductive FileError where
  | notFound
  | isDirectory
  | notDirectory
  | denied
  | badName
  | nameTooLong
  | notText
  deriving DecidableEq, Repr

/-- The words of the operating system. -/
def FileError.message : FileError → String
  | .notFound => "No such file or directory (os error 2)"
  | .isDirectory => "Is a directory (os error 21)"
  | .notDirectory => "Not a directory (os error 20)"
  | .denied => "Permission denied (os error 13)"
  | .badName => "file name contained an unexpected NUL byte"
  | .nameTooLong => "File name too long (os error 36)"
  | .notText => "stream did not contain valid UTF-8"

inductive ConfigError where
  | unknownPattern (name referencedFrom : String)
  /-- The names on the way from the root to the one that is met again. -/
  | cyclicPattern (chain : List String)
  | invalidExpression (expression : String) (fault : Regex.Fault)
  | invalidPatternName (name : String)
  | invalidCaptureType (capture kind : String)
  | invalidPatternDefinition (line : Nat) (message : String)
  | unknownAction (name : String)
  | missingOption (stage option : String)
  | invalidOption (stage option message : String)
  | unknownTimezone (name : String)
  | invalidLayout (layout message : String)
  | invalidWorkerCount (count : Nat)
  /-- The text of the configuration is not one. -/
  | parse
  | file (path : String) (error : FileError)
  deriving DecidableEq, Repr

def natText (n : Nat) : String := String.ofList (Nat.toDigits 10 n)

/-- Where an error comes from that has a cause of its own, the cause is not part of the text. -/
def ConfigError.message : ConfigError → String
  | .unknownPattern name origin => "Unknown pattern '" ++ name ++ "' referenced from '" ++ origin ++ "'"
  | .cyclicPattern chain => "Cyclic pattern reference: " ++ " -> ".intercalate chain
  | .invalidExpression expression _ => "Invalid expression for pattern '" ++ expression ++ "'"
  | .invalidPatternName name =>
    "Invalid pattern name '" ++ name ++ "': use letters, digits and underscores"
  | .invalidCaptureType capture kind =>
    "Unknown capture type '" ++ kind ++ "' for capture '" ++ capture ++ "': use int or float"
  | .invalidPatternDefinition line message =>
    "Invalid pattern definition at line " ++ natText line ++ ": " ++ message
  | .unknownAction name => "Unknown mutate action '" ++ name ++ "'"
  | .missingOption stage option =>
    "Missing required option '" ++ option ++ "' for " ++ stage ++ " stage"
  | .invalidOption stage option message =>
    "Invalid value for option '" ++ option ++ "' of " ++ stage ++ " stage: " ++ message
  | .unknownTimezone name => "Unknown timezone '" ++ name ++ "'"
  | .invalidLayout layout message => "Invalid date layout '" ++ layout ++ "': " ++ message
  | .invalidWorkerCount count => "Worker count must be a positive integer, got " ++ natText count
  | .parse => "Configuration parse error"
  | .file path error => "IO error reading '" ++ path ++ "': " ++ error.message

end LogPipeline

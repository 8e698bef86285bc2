import LogPipeline.Number.Reading

/-!
# Arguments

The arguments of the command line. They are read from left to right, up to the first fault or the first request
for help or for the version. An option is given at most once. Behind two hyphens everything is an input.
-/

namespace LogPipeline.Cli

structure Options where
  /-- The file with the configuration. -/
  config : Option String := none
  input : Option String := none
  /-- Whether the configuration is only looked at. -/
  testConfig : Bool := false
  debug : Bool := false
  filterWorkers : Option Nat := none
  outputWorkers : Option Nat := none
  deriving DecidableEq, Repr

inductive Request where
  | run (config : String) (options : Options)
  | version
  | help
  deriving DecidableEq, Repr

/-- Why arguments are refused. -/
inductive UsageError where
  | unknown (argument : String)
  | repeated (option : String)
  | noValue (option : String)
  | unwantedValue (option : String)
  | badValue (option value : String)
  | missing (option : String)
  deriving DecidableEq, Repr

def UsageError.message : UsageError → String
  | .unknown argument => "error: unexpected argument '" ++ argument ++ "' found"
  | .repeated option => "error: the argument '" ++ option ++ "' cannot be used multiple times"
  | .noValue option => "error: a value is required for '" ++ option ++ "' but none was supplied"
  | .unwantedValue option => "error: unexpected value for '" ++ option ++ "' found"
  | .badValue option value => "error: invalid value '" ++ value ++ "' for '" ++ option ++ "'"
  | .missing option => "error: the required argument " ++ option ++ " was not provided"

inductive Flag where
  | testConfig
  | debug
  | help
  | version
  deriving DecidableEq, Repr

/-- What takes a value. -/
inductive Parameter where
  | config
  | input
  | filterWorkers
  | outputWorkers
  deriving DecidableEq, Repr

def Parameter.name : Parameter → String
  | .config => "--config <FILE>"
  | .input => "[INPUT]"
  | .filterWorkers => "--filter-workers <N>"
  | .outputWorkers => "--output-workers <N>"

def longFlag? (name : String) : Option Flag :=
  [("test-config", Flag.testConfig), ("debug", .debug), ("help", .help), ("version", .version)].lookup
    name

def longParameter? (name : String) : Option Parameter :=
  [("config", Parameter.config), ("filter-workers", .filterWorkers),
    ("output-workers", .outputWorkers)].lookup name

def shortFlag? (c : Char) : Option Flag :=
  [('t', Flag.testConfig), ('h', .help), ('V', .version)].lookup c

/-- A path is not empty, and given once. -/
def setPath (old : Option String) (parameter : Parameter) (value : String) :
    Except UsageError (Option String) :=
  if value = "" then .error (.noValue parameter.name)
  else if old.isSome then .error (.repeated parameter.name)
  else .ok (some value)

/-- A number has 64 bits, and is given once. -/
def setCount (old : Option Nat) (parameter : Parameter) (value : String) :
    Except UsageError (Option Nat) :=
  match Number.readNatural? Number.wordLimit value.toList with
  | none => .error (.badValue parameter.name value)
  | some n => if old.isSome then .error (.repeated parameter.name) else .ok (some n)

def Options.set (options : Options) (parameter : Parameter) (value : String) :
    Except UsageError Options :=
  match parameter with
  | .config =>
    (setPath options.config parameter value).map fun v => { options with config := v }
  | .input => (setPath options.input parameter value).map fun v => { options with input := v }
  | .filterWorkers =>
    (setCount options.filterWorkers parameter value).map fun v => { options with filterWorkers := v }
  | .outputWorkers =>
    (setCount options.outputWorkers parameter value).map fun v => { options with outputWorkers := v }

/-- What an argument leads to: an answer, or options with which reading goes on. -/
inductive Step where
  | answer (request : Request)
  | options (options : Options)

def Options.raise (options : Options) (flag : Flag) : Except UsageError Step :=
  match flag with
  | .help => .ok (.answer .help)
  | .version => .ok (.answer .version)
  | .testConfig =>
    if options.testConfig then .error (.repeated "--test-config")
    else .ok (.options { options with testConfig := true })
  | .debug =>
    if options.debug then .error (.repeated "--debug")
    else .ok (.options { options with debug := true })

def isOptionLike (argument : String) : Bool :=
  argument.toList.head? == some '-' && argument != "-"

/-- The value of an option from the next argument, which must not look like an option. -/
def takeValue (options : Options) (parameter : Parameter) (rest : List String) :
    Except UsageError (Options × List String) :=
  match rest with
  | value :: rest =>
    if isOptionLike value then .error (.noValue parameter.name)
    else (options.set parameter value).map (·, rest)
  | [] => .error (.noValue parameter.name)

/-- Reads the letters behind a hyphen. -/
def readLetters (options : Options) (rest : List String) :
    List Char → Except UsageError (Step × List String)
  | [] => .ok (.options options, rest)
  | 'c' :: [] => (takeValue options .config rest).map fun (options, rest) => (.options options, rest)
  | 'c' :: value =>
    let value := if value.head? = some '=' then value.tail else value
    (options.set .config (String.ofList value)).map fun options => (.options options, rest)
  | c :: letters =>
    match shortFlag? c with
    | none => .error (.unknown (String.ofList ['-', c]))
    | some flag =>
      match options.raise flag with
      | .error e => .error e
      | .ok (.answer request) => .ok (.answer request, rest)
      | .ok (.options options) => readLetters options rest letters

/-- Reads a word behind two hyphens, which may have its value behind an equals sign. -/
def readLong (options : Options) (rest : List String) (word : List Char) :
    Except UsageError (Step × List String) :=
  let name := String.ofList (word.takeWhile (· ≠ '='))
  let value := (word.dropWhile (· ≠ '=')).tail?
  match longFlag? name, longParameter? name, value with
  | some flag, _, none => (options.raise flag).map (·, rest)
  | some _, _, some _ => .error (.unwantedValue name)
  | none, some parameter, some value =>
    (options.set parameter (String.ofList value)).map fun options => (.options options, rest)
  | none, some parameter, none =>
    (takeValue options parameter rest).map fun (options, rest) => (.options options, rest)
  | none, none, _ => .error (.unknown ("--" ++ name))

/-- Reads one argument, which may take the next one along. -/
def readArgument (options : Options) (argument : String) (rest : List String) :
    Except UsageError (Step × List String) :=
  if !isOptionLike argument then
    (options.set .input argument).map fun options => (.options options, rest)
  else
    match argument.toList with
    | '-' :: '-' :: word => readLong options rest word
    | _ :: letters => readLetters options rest letters
    | [] => .ok (.options options, rest)

/-- What the options ask for, when there are no more. -/
def Options.complete (options : Options) : Except UsageError Request :=
  match options.config with
  | some config => .ok (.run config options)
  | none => .error (.missing Parameter.config.name)

/-- Reads as many arguments as `limit` allows. -/
def readAll : (limit : Nat) → Options → List String → Except UsageError Request
  | 0, options, _ | _, options, [] => options.complete
  | limit + 1, options, argument :: rest =>
    if argument = "--" then do
      let options ← rest.foldlM (fun options value => options.set .input value) options
      options.complete
    else
      match readArgument options argument rest with
      | .error e => .error e
      | .ok (.answer request, _) => .ok request
      | .ok (.options options, rest) => readAll limit options rest

def Request.parse (arguments : List String) : Except UsageError Request :=
  readAll arguments.length {} arguments

end LogPipeline.Cli

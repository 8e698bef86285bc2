import LogPipeline.Config.Yaml
import LogPipeline.Files.Tree
import LogPipeline.Filter.Basic
import LogPipeline.Output.Writer

/-!
# Pipeline configurations

What a pipeline is made of: worker counts, the capacity of its channels, patterns, filters and outputs. Later
patterns replace earlier ones: first come the built-in ones, then those of the pattern files, then those
of the configuration itself.
-/

namespace LogPipeline

structure WorkerCounts where
  filters : Nat := 10
  outputs : Nat := 10
  deriving DecidableEq, Repr

inductive OutputConfig where
  | stdout (pretty : Bool)
  | file (path : String) (append : Bool)
  deriving DecidableEq, Repr

structure PipelineConfig where
  workers : WorkerCounts := {}
  channelCapacity : Nat := 64
  /-- Patterns by name. -/
  patterns : Keyed String := []
  patternFiles : List String := []
  filters : List FilterConfig := []
  outputs : List OutputConfig := []
  /-- The directory that relative paths are taken from. -/
  baseDirectory : Option String := none
  deriving Repr

open Config Config.Readable

section

variable {α : Type} [Readable α]

def WorkerCounts.read? (doc : α) : Option WorkerCounts := do
  let record ← Record.read? ["filters", "outputs"] doc
  return {
    filters := ← record.default? "filters" 10 count?
    outputs := ← record.default? "outputs" 10 count? }

/-- An output is written as a table with the kind of the output for its only key. -/
def OutputConfig.read? (doc : α) : Option OutputConfig := do
  let (kind, options) ← single? doc
  if kind = "stdout" then
    let record ← Record.read? ["pretty"] options
    return .stdout (← record.default? "pretty" false flag?)
  else if kind = "file" then
    let record ← Record.read? ["path", "append"] options
    return .file (← record.required? "path" text?) (← record.default? "append" false flag?)
  else none

def PipelineConfig.read? (doc : α) : Option PipelineConfig := do
  let record ← Record.read?
    ["workers", "channel_capacity", "patterns", "pattern_files", "filters", "outputs"] doc
  return {
    workers := ← record.default? "workers" {} WorkerCounts.read?
    channelCapacity := ← record.default? "channel_capacity" 64 count?
    patterns := ← record.default? "patterns" [] (table? text?)
    patternFiles := ← record.default? "pattern_files" [] (list? text?)
    filters := ← record.default? "filters" [] (list? FilterConfig.read?)
    outputs := ← record.default? "outputs" [] (list? OutputConfig.read?) }

end

namespace PipelineConfig

/-- The configuration that a text in YAML describes. -/
def parse (text : String) : Except ConfigError PipelineConfig :=
  match Yaml.Node.parse text with
  | .ok node =>
    match PipelineConfig.read? node with
    | some config => .ok config
    | none => .error .parse
  | .error _ => .error .parse

/-- The configuration in a file, whose directory is the one that its paths are taken from. -/
def load (tree : FileTree) (path : String) : Except ConfigError PipelineConfig :=
  match tree.readText path with
  | .ok text => (parse text).map fun config => { config with baseDirectory := Path.parent? path }
  | .error e => .error (.file path e)

/-- A path of the configuration, as seen from outside. -/
def resolve (config : PipelineConfig) (path : String) : String :=
  match config.baseDirectory with
  | some directory => Path.join directory path
  | none => path

/-- The paths of all files that the configuration names. -/
def paths (config : PipelineConfig) : List String :=
  config.patternFiles.map config.resolve ++
    config.outputs.filterMap fun output =>
      match output with
      | .file path _ => some (config.resolve path)
      | .stdout _ => none

def loadFile (tree : FileTree) (registry : Grok.Registry) (path : String) :
    Except ConfigError Grok.Registry :=
  match tree.readText path with
  | .error e => .error (.file path e)
  | .ok text =>
    match registry.load text with
    | (registry, .ok _) => .ok registry
    | (_, .error e) => .error e

/-- The patterns of the configuration. -/
def buildRegistry (config : PipelineConfig) (tree : FileTree) : Except ConfigError Grok.Registry := do
  let registry ← config.patternFiles.foldlM
    (fun registry path => loadFile tree registry (config.resolve path)) Grok.Registry.withBuiltins
  config.patterns.foldlM (fun registry entry => registry.define entry.1 entry.2) registry

def buildCompiler (config : PipelineConfig) (tree : FileTree) : Except ConfigError Grok.Compiler :=
  (config.buildRegistry tree).map fun registry => { registry := registry }

def buildFilters (config : PipelineConfig) (compiler : Grok.Compiler) :
    Except ConfigError (List Filter) :=
  (Filter.buildAll config.filters compiler).1

/-- The outputs; without any, events are written to the standard output. -/
def effectiveOutputs (config : PipelineConfig) : List OutputConfig :=
  if config.outputs.isEmpty then [.stdout false] else config.outputs

def outputStage (config : PipelineConfig) : OutputConfig → Stage
  | .stdout pretty => Writer.stage "stdout" {} pretty
  | .file path _ => Writer.stage ("file:" ++ config.resolve path) {} false

/-- Opens the files of outputs, in order, up to the first that cannot be opened. -/
def openOutputs (config : PipelineConfig) :
    List OutputConfig → FileTree → FileTree × Except ConfigError Unit
  | [], tree => (tree, .ok ())
  | .stdout _ :: rest, tree => config.openOutputs rest tree
  | .file path append :: rest, tree =>
    match tree.openToWrite (config.resolve path) append with
    | .ok tree => config.openOutputs rest tree
    | .error e => (tree, .error (.file (config.resolve path) e))

def outputChain (config : PipelineConfig) : Chain :=
  ⟨config.effectiveOutputs.map config.outputStage⟩

/-- Whether there are as many workers as are needed: at least one for each phase. -/
def checkWorkers (config : PipelineConfig) : Except ConfigError Unit :=
  if config.workers.filters = 0 ∨ config.workers.outputs = 0 then .error (.invalidWorkerCount 0)
  else .ok ()

def checkOutputs (config : PipelineConfig) : Except ConfigError Unit :=
  if config.outputs.any fun output =>
      match output with
      | .file path _ => path = ""
      | .stdout _ => false
  then .error (.missingOption "file" "path")
  else .ok ()

/-- Looks for everything that can be wrong without opening an output. The result is the number of filters. -/
def validate (config : PipelineConfig) (tree : FileTree) : Except ConfigError Nat := do
  config.checkWorkers
  config.checkOutputs
  let compiler ← config.buildCompiler tree
  let filters ← config.buildFilters compiler
  return filters.length

end PipelineConfig

end LogPipeline

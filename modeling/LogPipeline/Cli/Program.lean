import LogPipeline.Cli.Arguments
import LogPipeline.Files.Handle
import LogPipeline.Pipeline.Run

/-!
# The program

What the program does, from its arguments to its exit: it loads a configuration, looks for everything that
can be wrong with it, and then runs the pipeline on a file or on its standard input.
-/

namespace LogPipeline.Cli

/-- What the program leaves behind. -/
structure Report where
  exitCode : Nat
  stdout : String := ""
  stderr : String := ""
  files : FileTree

/-- What the program comes to: a report, or one that depends on the bytes of the standard input. -/
inductive Plan where
  | report (report : Report)
  | reading (report : List UInt8 → Report)

def versionText : String := "spartan 0.1.0\n"

def helpText : String := "\n".intercalate [
  "Parse, normalize and reshape log lines into JSON events",
  "",
  "Usage: spartan [OPTIONS] --config <FILE> [INPUT]",
  "",
  "Arguments:",
  "  [INPUT]  Input file (default: stdin)",
  "",
  "Options:",
  "  -c, --config <FILE>       Pipeline configuration file (YAML)",
  "  -t, --test-config         Validate the configuration and exit",
  "      --debug               Debug mode - log stage failures and lifecycle details to stderr",
  "      --filter-workers <N>  Override the filter worker pool size",
  "      --output-workers <N>  Override the output worker pool size",
  "  -h, --help                Print help",
  "  -V, --version             Print version",
  ""]

/-- A failure, from what was being done down to the cause. -/
abbrev Failure := List String

def Failure.text (failure : Failure) : String := "Error: " ++ ": ".intercalate failure ++ "\n"

/-- The message of an error, and that of its cause if it has one of its own. -/
def configFailure (e : ConfigError) : Failure :=
  match e with
  | .file _ cause => [e.message, cause.message]
  | _ => [e.message]

/-- The input that reads a file as it is now. A directory can be opened, but not read. -/
def fileInput (files : FileTree) (path : String) : Input :=
  match files.read path with
  | .ok bytes => .ofBytes ("file:" ++ path) bytes
  | .error e => .ofBytes ("file:" ++ path) [] (some e.message)

/-- The input that reads a file, if that can be opened. -/
def openInput (files : FileTree) (path : String) : Except ConfigError Input :=
  match files.read path with
  | .ok _ | .error .isDirectory => .ok (fileInput files path)
  | .error e => .error (.file path e)

def override (config : PipelineConfig) (options : Options) : PipelineConfig :=
  { config with
    workers :=
      ⟨options.filterWorkers.getD config.workers.filters,
        options.outputWorkers.getD config.workers.outputs⟩ }

/-- The texts written by the outputs that satisfy a condition, in order. -/
def written (config : PipelineConfig) (outputs : Controller) (p : OutputConfig → Bool) : String :=
  String.join (outputs.calls.reverse.map fun call =>
    match call with
    | .processed stage text => if config.effectiveOutputs[stage]?.any p then text else ""
    | .finished _ => "")

/-- The handles of the files that outputs have opened. -/
def handles (config : PipelineConfig) (files : FileTree) : List (Option FileHandle) :=
  config.effectiveOutputs.map fun output =>
    match output with
    | .stdout _ => none
    | .file path append => FileHandle.ofPath? files (config.resolve path) append

/-- What a call on an output does to its file. -/
def applyCall (state : List (Option FileHandle) × FileTree) (call : Call) :
    List (Option FileHandle) × FileTree :=
  let (handles, files) := state
  let (stage, act) : Nat × (FileHandle → FileTree → FileHandle × FileTree) :=
    match call with
    | .processed stage line => (stage, fun handle => handle.putLine line)
    | .finished stage => (stage, FileHandle.flush)
  match handles[stage]? with
  | some (some handle) =>
    let (handle, files) := act handle files
    (handles.set stage (some handle), files)
  | _ => state

/-- Carries out the calls on the outputs. What waits at the end is written as well. -/
def storeOutputs (config : PipelineConfig) (outputs : Controller) (files : FileTree) : FileTree :=
  let (handles, files) := outputs.calls.reverse.foldl applyCall (handles config files, files)
  handles.foldl (fun files handle =>
    match handle with
    | some handle => (handle.flush files).2
    | none => files) files

def isStdout : OutputConfig → Bool
  | .stdout _ => true
  | .file .. => false

/-- The report of a run. -/
def report (config : PipelineConfig) (files : FileTree) (run : Run) : Report :=
  let outputs := run.pipeline.outputs
  let stdout := written config outputs isStdout
  let files := storeOutputs config outputs files
  match run.outcome? with
  | some (.error e) =>
    { exitCode := 1
      stdout := stdout
      stderr := Failure.text ["Pipeline failed", e.message]
      files := files }
  | _ => { exitCode := 0, stdout := stdout, files := files }

def failed (files : FileTree) (failure : Failure) : Plan :=
  .report { exitCode := 1, stderr := failure.text, files := files }

/-- Builds the pipeline and runs it on a file, or on the standard input if there is none. The outputs are opened
before the file is read. -/
def runPipeline (config : PipelineConfig) (input : Option String) (currentYear : Int)
    (files : FileTree) : Plan :=
  match Pipeline.ofConfig config currentYear files with
  | (files, .error e) => failed files ("Failed to build pipeline" :: configFailure e)
  | (files, .ok pipeline) =>
    match input with
    | some path => .report (report config files (pipeline.run (fileInput files path)))
    | none => .reading fun bytes => report config files (pipeline.run (.ofBytes "stdin" bytes))

def runOptions (path : String) (options : Options) (currentYear : Int) (files : FileTree) : Plan :=
  match PipelineConfig.load files path with
  | .error e =>
    failed files (("Failed to load configuration '" ++ path ++ "'") :: configFailure e)
  | .ok config =>
    let config := override config options
    match config.validate files with
    | .error e => failed files ("Invalid configuration" :: configFailure e)
    | .ok _ =>
      if options.testConfig then
        .report { exitCode := 0, stdout := "Configuration looks good\n", files := files }
      else
        match options.input.mapM (openInput files) with
        | .error e => failed files (configFailure e)
        | .ok _ => runPipeline config options.input currentYear files

/-- The whole program. -/
def program (arguments : List String) (currentYear : Int) (files : FileTree) : Plan :=
  match Request.parse arguments with
  | .error e => .report { exitCode := 2, stderr := e.message ++ "\n", files := files }
  | .ok .version => .report { exitCode := 0, stdout := versionText, files := files }
  | .ok .help => .report { exitCode := 0, stdout := helpText, files := files }
  | .ok (.run path options) => runOptions path options currentYear files

/-- The files that arguments name. -/
def argumentPaths (arguments : List String) : List String :=
  match Request.parse arguments with
  | .ok (.run path options) => path :: options.input.toList
  | _ => []

/-- The files that the configuration names, given the file that it is in. -/
def configPaths (arguments : List String) (files : FileTree) : List String :=
  match Request.parse arguments with
  | .ok (.run path _) => (PipelineConfig.load files path).toOption.elim [] PipelineConfig.paths
  | _ => []

end LogPipeline.Cli

import LogPipeline.Cli.Program
import Std.Time.DateTime.Timestamp

/-!
# The command

The program on a machine: the files that the arguments and the configuration name are looked at, what the
program comes to is found out, and what it has written is stored.
-/

namespace LogPipeline.Cli

/-- What is at a place. -/
def look (place : List String) : IO (Option Entry) := do
  match ← (IO.FS.readBinFile (Path.ofPlace place)).toBaseIO with
  | .ok bytes => return some (.file bytes.data.toList)
  | .error (.noFileOrDirectory ..) => return none
  | .error (.inappropriateType ..) => return some .directory
  | .error _ => return some (.blocked .denied)

/-- Adds what is found on the way of paths to a tree. -/
def survey (tree : FileTree) (paths : List String) : IO FileTree :=
  (paths.flatMap Path.places).eraseDups.foldlM (fun tree place => do
    match ← look place with
    | some entry => return tree.set place entry
    | none => return tree) tree

def currentYear : IO Int := do
  let now ← Std.Time.Timestamp.now
  return (Time.Date.ofDay (now.toSecondsSinceUnixEpoch.val / Time.secondsPerDay)).year

/-- Reads a stream to its end. -/
partial def drain (stream : IO.FS.Stream) (bytes : ByteArray) : IO ByteArray := do
  let more ← stream.read 65536
  if more.isEmpty then return bytes
  drain stream (bytes ++ more)

/-- Stores the files that were changed, prints the texts of a report and yields its exit code. -/
def deliver (before : FileTree) (report : Report) : IO UInt32 := do
  for (place, bytes) in before.changes report.files do
    IO.FS.writeBinFile (Path.ofPlace place) ⟨bytes.toArray⟩
  IO.print report.stdout
  IO.eprint report.stderr
  return report.exitCode.toUInt32

end LogPipeline.Cli

open LogPipeline LogPipeline.Cli

def main (arguments : List String) : IO UInt32 := do
  let files ← survey {} (argumentPaths arguments)
  let files ← survey files (configPaths arguments files)
  match program arguments (← currentYear) files with
  | .report report => deliver files report
  | .reading report =>
    let bytes ← drain (← IO.getStdin) ByteArray.empty
    deliver files (report bytes.data.toList)

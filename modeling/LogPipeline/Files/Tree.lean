import LogPipeline.ConfigError
import LogPipeline.Files.Path
import LogPipeline.Keyed
import LogPipeline.Text.Utf8

/-!
# Trees of files

What is stored under paths: files with their bytes, and directories. A path is followed name by name, so that
every name but the last has to be that of a directory.
-/

namespace LogPipeline

inductive Entry where
  | file (bytes : List UInt8)
  | directory
  /-- A file that stays empty, whatever is written into it. -/
  | sink
  /-- Something that can be neither read nor written, for a reason. -/
  | blocked (error : FileError)
  deriving DecidableEq, Repr

/-- Files and directories by their places. The root and the directory in which relative paths begin need no
entry, nor do the directories above that. -/
structure FileTree where
  entries : List (List String × Entry) := []
  deriving DecidableEq, Repr

namespace FileTree

/-- What every system has. -/
def system : FileTree :=
  ⟨[(["", "dev"], .directory), (["", "dev", "null"], .sink), (["", "tmp"], .directory)]⟩

def get? (tree : FileTree) (place : List String) : Option Entry :=
  if place = [""] ∨ place.all (· == "..") then some .directory else tree.entries.lookup place

def set (tree : FileTree) (place : List String) (entry : Entry) : FileTree :=
  ⟨(place, entry) :: tree.entries.filter fun other => other.1 != place⟩

/-- Where a path leads. -/
inductive Target where
  | found (place : List String) (entry : Entry)
  /-- Nothing is there, but a file can be made. -/
  | free (place : List String)
  deriving DecidableEq, Repr

/-- How many bytes a name may have. -/
def nameLimit : Nat := 255

/-- How many bytes a path may have. -/
def pathLimit : Nat := 4095

/-- Follows names from a place. -/
def follow (tree : FileTree) (place : List String) : List String → Except FileError Target
  | [] =>
    match tree.get? place with
    | some entry => .ok (.found place entry)
    | none => .error .notFound
  | name :: rest =>
    match tree.get? place with
    | none => .error .notFound
    | some (.file _) | some .sink => .error .notDirectory
    | some (.blocked e) => .error e
    | some .directory =>
      let next := Path.next place name
      if nameLimit < name.utf8ByteSize then .error .nameTooLong
      else if rest = [] ∧ (tree.get? next).isNone then .ok (.free next) else tree.follow next rest

/-- Refuses what can be no path. -/
def checkPath (path : String) : Except FileError Unit :=
  if path = "" then .error .notFound
  else if path.toList.contains '\x00' then .error .badName
  else if pathLimit < path.utf8ByteSize then .error .nameTooLong
  else .ok ()

def find (tree : FileTree) (path : String) : Except FileError Target := do
  checkPath path
  tree.follow (Path.start path) (Path.segments path)

/-- The bytes of a file. -/
def read (tree : FileTree) (path : String) : Except FileError (List UInt8) :=
  match tree.find path with
  | .ok (.found _ (.file bytes)) => .ok bytes
  | .ok (.found _ .sink) => .ok []
  | .ok (.found _ .directory) => .error .isDirectory
  | .ok (.found _ (.blocked e)) => .error e
  | .ok (.free _) => .error .notFound
  | .error e => .error e

/-- The text of a file. -/
def readText (tree : FileTree) (path : String) : Except FileError String := do
  match Text.decode? (← tree.read path) with
  | some cs => return String.ofList cs
  | none => .error .notText

/-- Where a path leads that is to be written. With a slash at its end it calls for a directory, whether there
is one or not. -/
def findToWrite (tree : FileTree) (path : String) : Except FileError Target := do
  checkPath path
  let names := Path.segments path
  if names.getLast? = some "" then
    match ← tree.follow (Path.start path) (names.reverse.dropWhile (· = "")).tail.reverse with
    | .found _ .directory => .error .isDirectory
    | .found _ (.file _) | .found _ .sink => .error .notDirectory
    | .found _ (.blocked e) => .error e
    | .free _ => .error .notFound
  else tree.follow (Path.start path) names

/-- Opens a file for writing. It is made if it is not there, and emptied unless it is to be continued. -/
def openToWrite (tree : FileTree) (path : String) (append : Bool) : Except FileError FileTree :=
  match tree.findToWrite path with
  | .ok (.found place (.file _)) => .ok (if append then tree else tree.set place (.file []))
  | .ok (.found _ .sink) => .ok tree
  | .ok (.found _ .directory) => .error .isDirectory
  | .ok (.found _ (.blocked e)) => .error e
  | .ok (.free place) => .ok (tree.set place (.file []))
  | .error e => .error e

/-- The files that are not as they were. -/
def changes (before after : FileTree) : List (List String × List UInt8) :=
  after.entries.filterMap fun (place, entry) =>
    match entry with
    | .file bytes => if before.get? place = some (.file bytes) then none else some (place, bytes)
    | _ => none

/-- Puts a file under a path, with the directories on the way to it. -/
def store (tree : FileTree) (path : String) (bytes : List UInt8) : FileTree :=
  let place := Path.segments path
  let tree := (List.range place.length).foldl (fun tree count =>
    if count = 0 then tree else tree.set (place.take count) .directory) tree
  tree.set place (.file bytes)

end FileTree

end LogPipeline

import LogPipeline.Files.Tree

/-!
# Handles

A file that is open for writing. What is put into it waits until there is enough of it, or until it is
flushed; so of two handles of one file, the one whose turn comes first need not be the one that writes first.
-/

namespace LogPipeline

structure FileHandle where
  place : List String
  /-- Whether every piece goes behind what is in the file at that time. -/
  append : Bool
  /-- How many bytes have been written. -/
  offset : Nat := 0
  /-- The pieces that wait, last first. -/
  waiting : List (List UInt8) := []
  /-- How many bytes wait. -/
  waitingSize : Nat := 0
  deriving Repr

namespace FileHandle

/-- How many bytes may wait. -/
def capacity : Nat := 8192

/-- A handle of a file that has been opened. -/
def ofPath? (tree : FileTree) (path : String) (append : Bool) : Option FileHandle :=
  match tree.find path with
  | .ok (.found place (.file _)) => some { place := place, append := append }
  | _ => none

/-- Writes bytes at once: behind what is in the file, or over it. -/
def write (handle : FileHandle) (bytes : List UInt8) (tree : FileTree) : FileHandle × FileTree :=
  match tree.get? handle.place with
  | some (.file old) =>
    let new := if handle.append then old ++ bytes
      else old.take handle.offset ++ bytes ++ old.drop (handle.offset + bytes.length)
    ({ handle with offset := handle.offset + bytes.length }, tree.set handle.place (.file new))
  | _ => (handle, tree)

/-- Writes what waits. -/
def flush (handle : FileHandle) (tree : FileTree) : FileHandle × FileTree :=
  { handle with waiting := [], waitingSize := 0 }.write handle.waiting.reverse.flatten tree

/-- Puts a piece into the file. A piece that is too large to wait is written at once. -/
def put (handle : FileHandle) (piece : List UInt8) (tree : FileTree) : FileHandle × FileTree :=
  let size := piece.length
  let (handle, tree) :=
    if capacity < handle.waitingSize + size then handle.flush tree else (handle, tree)
  if capacity ≤ size then handle.write piece tree
  else
    ({ handle with
        waiting := piece :: handle.waiting
        waitingSize := handle.waitingSize + size }, tree)

/-- Puts a line into the file: first its text, then its end. -/
def putLine (handle : FileHandle) (line : String) (tree : FileTree) : FileHandle × FileTree :=
  let bytes := line.toUTF8.data.toList
  let (handle, tree) := handle.put bytes.dropLast tree
  handle.put (bytes.drop (bytes.length - 1)) tree

end FileHandle

end LogPipeline

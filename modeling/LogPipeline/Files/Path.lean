/-!
# Paths

Paths are texts in which slashes separate names. A path that begins with a slash is absolute; any other is
taken from the directory it is written in.
-/

namespace LogPipeline.Path

def isRelative (path : String) : Bool := path.toList.head? != some '/'

/-- A path taken from a directory. -/
def join (directory path : String) : String :=
  if !isRelative path || directory = "" then path
  else if directory.toList.getLast? = some '/' then directory ++ path
  else directory ++ "/" ++ path

/-- The names between slashes. -/
def segmentsFrom (name : List Char) : List Char → List String
  | [] => [String.ofList name.reverse]
  | '/' :: rest => String.ofList name.reverse :: segmentsFrom [] rest
  | c :: rest => segmentsFrom (c :: name) rest

def segments (path : String) : List String := segmentsFrom [] path.toList

/-- The place above a place, where places are lists of names and the root has an empty name. Nothing is above
the root; above the directory in which relative paths begin, places have names of two dots. -/
def above (place : List String) : List String :=
  if place = [""] then place
  else if place.all (· == "..") then place ++ [".."]
  else place.dropLast

/-- The place that a name leads to from another one. -/
def next (place : List String) (name : String) : List String :=
  if name = "" ∨ name = "." then place
  else if name = ".." then above place
  else place ++ [name]

/-- The place where a path begins. -/
def start (path : String) : List String := if isRelative path then [] else [""]

def placesFrom (place : List String) : List String → List (List String)
  | [] => []
  | name :: rest => next place name :: placesFrom (next place name) rest

/-- The places that a path leads to, name by name. -/
def places (path : String) : List (List String) := placesFrom (start path) (segments path)

/-- The path of a place. -/
def ofPlace (place : List String) : String :=
  if place = [] then "."
  else if place = [""] then "/"
  else "/".intercalate place

/-- A reversed path without slashes, and names that stand for the directory itself, at its end. -/
def dropEnd : List Char → List Char
  | '/' :: rest => dropEnd rest
  | '.' :: '/' :: rest => dropEnd ('/' :: rest)
  | cs => cs
termination_by cs => cs.length

/-- The directory of a path. The root has none. -/
def parent? (path : String) : Option String :=
  let absolute := !isRelative path
  match dropEnd path.toList.reverse with
  | [] => none
  | trimmed =>
    match dropEnd (trimmed.dropWhile (· ≠ '/')) with
    | [] => some (if absolute then "/" else "")
    | directory => some (String.ofList directory.reverse)

end LogPipeline.Path

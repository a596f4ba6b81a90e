import ProseCheck.Text.Basic

/-!
# Paths and directories

A path is a text with parts between slashes; empty parts and parts of a single point do not
count.  The name is the last part, and the suffix starts at the last point of the name, unless
the name starts or ends there.

A directory holds files under paths, and a directory stands wherever the path of a file goes on.
A path is followed part by part from the directory itself; a part of two points leads back, and a
path that starts with a slash leads out of the directory, where nothing is known but the root.
-/

namespace ProseCheck

namespace Path

/-- Parts of a path that count. -/
def parts (path : String) : List Text :=
  (Text.splitOn '/' path.toList).filter fun part => part != [] && part != ['.']

/-- Slashes that a path starts with: none, one, or two; more than two count as one. -/
def root (path : String) : Text :=
  match path.toList.takeWhile (· == '/') with
  | [] => []
  | ['/', '/'] => ['/', '/']
  | _ => ['/']

/-- The path without parts that do not count; a single point if no part does. -/
def normal (path : String) : String :=
  let joined := root path ++ ['/'].intercalate (parts path)
  if joined.isEmpty then "." else String.ofList joined

/-- Last part. -/
def name (path : String) : String := String.ofList ((parts path).getLastD [])

/-- The text from the last point on, if something stands before and after that point. -/
def suffix (path : String) : String :=
  let reversed := ((parts path).getLastD []).reverse
  let ending := reversed.takeWhile (· ≠ '.')
  let before := (reversed.dropWhile (· ≠ '.')).drop 1
  if ending = [] ∨ before = [] then "" else String.ofList ('.' :: ending.reverse)

/-- Suffix in lower case. -/
def lowerSuffix (path : String) : String := (suffix path).toLower

end Path
/-- What stands at a path. -/
inductive PathEntry where
  | nothing
  | directory
  | file (octets : List Nat)
deriving DecidableEq, Repr

namespace PathEntry

/-- Octets of a file. -/
def octets? : PathEntry → Option (List Nat)
  | .file octets => some octets
  | .nothing | .directory => none

end PathEntry

/-- Octets of files by their paths. -/
structure Directory where
  /-- Paths and octets of the files. -/
  files : List (String × List Nat)
deriving DecidableEq, Repr

namespace Directory

/-- What stands at a place that parts lead to, none of which leads back. -/
def entryAt (directory : Directory) (place : List Text) : PathEntry :=
  match directory.files.find? fun file => Path.parts file.1 == place with
  | some file => .file file.2
  | none =>
    if place.isEmpty || directory.files.any fun file => place.isPrefixOf (Path.parts file.1) then
      .directory
    else .nothing

/-- What stands where parts lead to from a place. -/
def follow (directory : Directory) (place : List Text) : List Text → PathEntry
  | [] => directory.entryAt place
  | part :: rest =>
    match directory.entryAt place with
    | .directory =>
      if part ≠ ['.', '.'] then follow directory (place ++ [part]) rest
      else if place.isEmpty then .nothing
      else follow directory place.dropLast rest
    | .file _ | .nothing => .nothing

/-- What stands at a path. -/
def find (directory : Directory) (path : String) : PathEntry :=
  if path.toList.head? = some '/' then
    if (Path.parts path).isEmpty then .directory else .nothing
  else directory.follow [] (Path.parts path)

end Directory
end ProseCheck

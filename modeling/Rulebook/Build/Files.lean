import Rulebook.Diagnostic

/-!
# Files

The files of a project as a value: texts under paths, and the folders that exist. Paths are
relative and their parts are separated by slashes; empty parts and single points do not count, and
two points lead back.
-/

namespace Rulebook

open Text

namespace FilePath

/-- The parts of a path that count. -/
def parts (path : String) : List String :=
  ((splitOn (· == '/') path.toList).map String.ofList).filter fun p => p != "" && p != "."

/-- A path as it is shown: without the parts that do not count. -/
def clean (path : String) : String :=
  let start := if path.startsWith "/" then "/" else ""
  match parts path with
  | [] => if start == "" then "." else start
  | ps => start ++ "/".intercalate ps

/-- A path inside a folder; an empty one is the folder of the project. -/
def join (folder path : String) : String :=
  if folder == "" || path.startsWith "/" then clean path else clean (folder ++ "/" ++ path)

/-- The place that a path leads to. -/
def resolve (path : String) : List String :=
  (parts path).foldl (fun acc p => if p == ".." then acc.dropLast else acc ++ [p]) []

end FilePath

/-- The files and folders of a project. -/
structure Files where
  texts : List (List String × String) := []
  folders : List (List String) := []
  deriving DecidableEq

namespace Files

/-- The text at a place. -/
def at? (fs : Files) (place : List String) : Option String := fs.texts.lookup place

/-- A folder stands at a place; the folder of the project always does. -/
def hasFolder (fs : Files) (place : List String) : Bool :=
  place.isEmpty || fs.folders.contains place

/-- Something stands at a path. -/
def has (fs : Files) (path : String) : Bool :=
  let place := FilePath.resolve path
  (fs.at? place).isSome || fs.hasFolder place

/-- The folders above a place. -/
def above (place : List String) : List (List String) :=
  (List.range place.length).filterMap fun n => if n = 0 then none else some (place.take n)

/-- Puts a text under a path, in folders that are made if they do not exist. -/
def put (fs : Files) (path text : String) : Files :=
  let place := FilePath.resolve path
  { texts := fs.texts.filter (fun (p, _) => p != place) ++ [(place, text)]
    folders := fs.folders ++ (above place).filter fun f => !fs.folders.contains f }

/-- The failure to find a file under a path. -/
def noFile {α : Type} (fs : Files) (path : String) : Outcome α :=
  .error (if fs.hasFolder (FilePath.resolve path) then .isFolder
    else .missingFile (FilePath.clean path))

/-- Puts a text under a path in a folder that exists. -/
def write (fs : Files) (path text : String) : Outcome Files :=
  let place := FilePath.resolve path
  if fs.hasFolder place.dropLast && !fs.hasFolder place then .ok (fs.put path text)
    else fs.noFile path

/-- Removes a file. -/
def remove (fs : Files) (path : String) : Outcome Files :=
  let place := FilePath.resolve path
  if (fs.at? place).isSome then .ok { fs with texts := fs.texts.filter fun (p, _) => p != place }
  else fs.noFile path

/-- Reads a file; every line end in it counts as a line feed. -/
def read (fs : Files) (path : String) : Outcome (List Char) :=
  match fs.at? (FilePath.resolve path) with
  | some text => .ok (unifyLineEnds text.toList)
  | none => fs.noFile path

/-- The ending of the names of rule documents. -/
def documentEnding : String := ".feature"

/-- The paths of the rule documents below a folder, part by part in order. They go by their names,
so that a folder with such a name is among them. -/
def documentsBelow (fs : Files) (folder : String) : List String :=
  let place := FilePath.resolve folder
  let found := (fs.texts.map (·.1) ++ fs.folders).filterMap fun p =>
    if place.isPrefixOf p && place.length < p.length &&
      (p.getLast?.any fun n => n.endsWith documentEnding) then
      some (p.drop place.length)
    else none
  (found.mergeSort fun a b => !decide (b < a)).map fun p => FilePath.join folder ("/".intercalate p)

end Files
end Rulebook

import FleetHealth.Fault.Basic
import FleetHealth.Text.Blank

/-!
# Log — Storage

Where log files are kept: a folder, and the files and folders in it.  Opening a file for appending creates it and the folders above it; a folder cannot be opened as a file, and nothing can be created below a file.  Paths outside the folder are of no concern here and always open.
-/

namespace FleetHealth.Log

/-- The files and folders in a folder, each by the names on the way to it. -/
structure Storage where
  root : String
  files : List (List String) := []
  folders : List (List String) := []

namespace Storage

/-- The names on a path, where a dot stays and two dots go up. -/
def resolve : List String → List String → List String
  | way, []      => way
  | way, n :: ns =>
    if n.isEmpty || n = "." then resolve way ns
    else if n = ".." then resolve way.dropLast ns
    else resolve (way ++ [n]) ns

/-- The names on the way from the root to a path in the storage. -/
def way? (s : Storage) (path : String) : Option (List String) :=
  if path = s.root then some []
  else if path.startsWith (s.root ++ "/") then
    some (resolve [] (Text.split '/' (String.ofList (path.toList.drop s.root.length))))
  else none

/-- The path of names on a way from the root. -/
def pathOf (s : Storage) (way : List String) : String :=
  String.intercalate "/" (s.root :: way)

/-- The name of a file in the storage. -/
def nameOf (way : List String) : String := String.intercalate "/" way

/-- The ways that lead to a way, itself included, the root not. -/
def above (way : List String) : List (List String) :=
  (List.range way.length).map fun n => way.take (n + 1)

/-- Whether a way leads to a folder. -/
def isFolder (s : Storage) (way : List String) : Bool := way.isEmpty || s.folders.contains way

/-- The storage with a folder and the folders above it, or why there is none. -/
def createFolder (s : Storage) (way : List String) : Except Fault Storage :=
  if s.files.contains way then .error (.file .fileExists 17 "File exists" (s.pathOf way))
  else if (above way).any s.files.contains then
    .error (.file .notDirectory 20 "Not a directory" (s.pathOf way))
  else .ok { s with folders := s.folders ++ (above way).filter fun w => !s.folders.contains w }

/-- A file opened for appending: the storage after it and whether it could be opened. -/
def openFile (s : Storage) (path : String) : Storage × Except Fault Unit :=
  match s.way? path with
  | none     => (s, .ok ())
  | some way =>
    match s.createFolder way.dropLast with
    | .error f => (s, .error f)
    | .ok s    =>
      if s.isFolder way then
        (s, .error (.file .isDirectory 21 "Is a directory" (s.pathOf way)))
      else if s.files.contains way then (s, .ok ())
      else ({ s with files := s.files ++ [way] }, .ok ())

end Storage
end FleetHealth.Log

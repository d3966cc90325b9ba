import PaperHtml.Text.Quoted
import PaperHtml.Text.Utf8

/-!
# The working folder

Papers are read from files below the working folder, and pages are written
there.  What is outside of it counts as folders without files.
-/

namespace PaperHtml.Source

open Text

/-- The place of a file below the working folder, by the names of the folders on the way. -/
abbrev Path := List Text

/-- Why a file cannot be opened. -/
inductive FileProblem where
  | missing
  | isFolder
  | notFolder
  | occupied
  deriving DecidableEq

/-- The number of a problem and its words. -/
def FileProblem.words : FileProblem → String
  | .missing => "[Errno 2] No such file or directory: "
  | .isFolder => "[Errno 21] Is a directory: "
  | .notFolder => "[Errno 20] Not a directory: "
  | .occupied => "[Errno 17] File exists: "

/-- A problem with the path it arose for. -/
structure FileError where
  problem : FileProblem
  path : Text

/-- The error in words. -/
def FileError.message (error : FileError) : Text :=
  error.problem.words.toList ++ quoted error.path

/-- The working folder: its own path, the files below it, and the folders without files. -/
structure Folder where
  home : Text
  files : List (Path × List Byte)
  folders : List Path := []

namespace Folder

/-- The content of a file. -/
def file? (path : Path) (folder : Folder) : Option (List Byte) := folder.files.lookup path

/-- Whether there is a folder at a place. -/
def hasFolder (path : Path) (folder : Folder) : Bool :=
  path.isEmpty || folder.folders.contains path ||
    folder.files.any fun file => path.isPrefixOf file.1 && path != file.1

/-- What a path leads to. -/
inductive Target where
  | file (path : Path)
  | folder (path : Path)
  /-- A folder that is not below the working folder. -/
  | outside
  /-- A name that is free in an existing folder. -/
  | free (path : Path)

/-- Goes down from a folder, or from outside, by names. -/
def follow (folder : Folder) : Option Path → List Text → Except FileProblem Target
  | none, [] => .ok .outside
  | some here, [] => .ok (.folder here)
  | none, name :: rest =>
    if name = [] ∨ name = ['.'] ∨ name = ['.', '.'] then follow folder none rest
    else .error .missing
  | some here, name :: rest =>
    if name = [] ∨ name = ['.'] then follow folder (some here) rest
    else if name = ['.', '.'] then
      follow folder (if here = [] then none else some here.dropLast) rest
    else
      let place := here ++ [name]
      if (folder.file? place).isSome then
        if rest = [] then .ok (.file place) else .error .notFolder
      else if folder.hasFolder place then follow folder (some place) rest
      else if rest = [] then .ok (.free place)
      -- nothing but slashes is behind the name
      else if rest.all (· = []) then .error .isFolder
      else .error .missing

/-- What a path leads to.  A path from the root is understood below the working folder only. -/
def target (folder : Folder) (path : Text) : Except FileProblem Target :=
  match dropPrefix? (folder.home ++ ['/']) path with
  | some rest => folder.follow (some []) (splitOn '/' rest)
  | none =>
    match path with
    | [] => .error .missing
    | '/' :: rest => folder.follow none (splitOn '/' rest)
    | path => folder.follow (some []) (splitOn '/' path)

/-- The content of the file that a path leads to. -/
def read (folder : Folder) (path : Text) : Except FileError (List Byte) :=
  match folder.target path with
  | .ok (.file place) => .ok ((folder.file? place).getD [])
  | .ok (.folder _) | .ok .outside => .error ⟨.isFolder, path⟩
  | .ok (.free _) => .error ⟨.missing, path⟩
  | .error .isFolder => .error ⟨.missing, path⟩
  | .error problem => .error ⟨problem, path⟩

/-- Whether a path leads to a file. -/
def isFile (folder : Folder) (path : Text) : Bool :=
  match folder.target path with
  | .ok (.file _) => true
  | _ => false

/-- The working folder with a file put at a place. -/
def put (folder : Folder) (place : Path) (content : List Byte) : Folder :=
  if (folder.file? place).isSome then
    { folder with
      files := folder.files.map fun file => if file.1 = place then (place, content) else file }
  else { folder with files := folder.files ++ [(place, content)] }

/-- The working folder without the file at a place. -/
def remove (folder : Folder) (path : Text) : Folder :=
  match folder.target path with
  | .ok (.file place) =>
    { folder with
      files := folder.files.filter fun file => file.1 ≠ place
      folders := place.dropLast :: folder.folders }
  | _ => folder

/-- A path freed of what can be left out of it, as names below the working folder; none if it
leads outside. -/
def plainPath? : (here : Path) → List Text → Option Path
  | here, [] => some here
  | here, name :: rest =>
    if name = [] ∨ name = ['.'] then plainPath? here rest
    else if name = ['.', '.'] then if here = [] then none else plainPath? here.dropLast rest
    else plainPath? (here ++ [name]) rest

/-- The absolute path of a place. -/
def absolute (folder : Folder) (place : Path) : Text :=
  folder.home ++ place.flatMap fun name => '/' :: name

/-- Makes the folders on the way to a place, one after another below `here`. -/
def makeFolders (folder : Folder) (here : Path) : List Text → Except FileError Folder
  | [] => .ok folder
  | name :: rest =>
    let place := here ++ [name]
    if (folder.file? place).isSome then
      match rest with
      | [] => .error ⟨.occupied, folder.absolute place⟩
      | next :: _ => .error ⟨.notFolder, folder.absolute (place ++ [next])⟩
    else if folder.hasFolder place then makeFolders folder place rest
    else makeFolders { folder with folders := folder.folders ++ [place] } place rest

/-- The names below the working folder that a path consists of. -/
def names (folder : Folder) (path : Text) : List Text :=
  splitOn '/' ((dropPrefix? (folder.home ++ ['/']) path).getD path)

/-- Writes a file, with the folders on the way made if they are missing; gives what went
wrong, and the folder as it is left. -/
def write (folder : Folder) (path : Text) (content : List Byte) : Option FileError × Folder :=
  let made :=
    match plainPath? [] (folder.names path) with
    | some place => makeFolders folder [] place.dropLast
    | none => .ok folder
  match made with
  | .error error => (some error, folder)
  | .ok folder =>
    match folder.target path with
    | .ok (.file place) | .ok (.free place) => (none, folder.put place content)
    | .ok (.folder _) | .ok .outside => (some ⟨.isFolder, path⟩, folder)
    | .error problem => (some ⟨problem, path⟩, folder)

end Folder

end PaperHtml.Source

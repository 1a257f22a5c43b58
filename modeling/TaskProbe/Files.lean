import TaskProbe.Text.Digits
import TaskProbe.Text.Utf8

/-!
# Files

What reading a path gives: the content of a file, or why there is none. A folder is a set of files that
are known by their paths from it; a path is followed name by name, and a directory is there if some
file lies below it.
-/

namespace TaskProbe

/-- Why a path cannot be read. -/
inductive FileFault where
  | missing
  | notDirectory
  | isDirectory
  | nameTooLong
  | nulInName
  | notUtf8
  /-- Another fault, in the words and with the number that the system gives it. -/
  | other (text : String) (code : Nat)
  deriving DecidableEq, Repr

/-- The words and the number of a fault that the system reports. -/
def systemMessage (text : String) (code : Nat) : String :=
  text ++ " (os error " ++ String.ofList (Text.decimal code) ++ ")"

/-- The fault in words. -/
def FileFault.message : FileFault → String
  | .missing => systemMessage "No such file or directory" 2
  | .notDirectory => systemMessage "Not a directory" 20
  | .isDirectory => systemMessage "Is a directory" 21
  | .nameTooLong => systemMessage "File name too long" 36
  | .nulInName => "file name contained an unexpected NUL byte"
  | .notUtf8 => "stream did not contain valid UTF-8"
  | .other text code => systemMessage text code

/-- The files that a run can read: what reading each path gives. -/
abbrev Files := List Char → Except FileFault (List UInt8)

/-- The content of the file at a path, as text. -/
def Files.readText (files : Files) (path : List Char) : Except FileFault (List Char) :=
  match files path with
  | .error e => .error e
  | .ok content => (Text.Utf8.decode? content).elim (.error .notUtf8) .ok

/-! ## Folders -/

/-- The names in a path, which slashes separate. -/
def pathNames (path : List Char) : List (List Char) :=
  match path with
  | [] => [[]]
  | c :: s =>
    match pathNames s with
    | [] => [[c]]
    | name :: names => if c = '/' then [] :: name :: names else (c :: name) :: names

/-- What a path leads to. -/
inductive Place where
  | directory
  | file (content : List UInt8)
  deriving DecidableEq, Repr

/-- A folder: the names on the way to each file, and its content. -/
abbrev Folder := List (List (List Char) × List UInt8)

namespace Folder

/-- The folder of files with the given paths. -/
def ofList (files : List (String × List UInt8)) : Folder :=
  files.map fun (path, content) =>
    ((pathNames path.toList).filter (fun name => name ≠ [] ∧ name ≠ ['.']), content)

/-- The greatest number of bytes in one name. -/
def maxName : Nat := 255

/-- The number of bytes that a path must stay below. -/
def maxPath : Nat := 4096

/-- What lies in the folder under `names`. -/
def at? (folder : Folder) (names : List (List Char)) : Option Place :=
  match folder.find? (·.1 = names) with
  | some (_, content) => some (.file content)
  | none => if names = [] ∨ folder.any (names.isPrefixOf ·.1) then some .directory else none

/-- Follows the names of a path from the directory `here`. Outside of the folder no files are known. -/
def follow (folder : Folder) (here : List (List Char)) :
    List (List Char) → Except FileFault Place
  | [] => (folder.at? here).elim (.error .missing) .ok
  | name :: names =>
    match folder.at? here with
    | some (.file _) => .error .notDirectory
    | none => .error .missing
    | some .directory =>
      if maxName < (Text.Utf8.encode name).length then .error .nameTooLong
      else if name = [] ∨ name = ['.'] then follow folder here names
      else if name = ['.', '.'] then
        if here = [] then follow [] [] names else follow folder here.dropLast names
      else follow folder (here ++ [name]) names

/-- Follows a path from the folder, or from the root if it starts with a slash. -/
def followPath (folder : Folder) (path : List Char) : Except FileFault Place :=
  match path with
  | '/' :: _ => follow [] [] (pathNames path)
  | _ => follow folder [] (pathNames path)

/-- The files that can be read by someone who works in the folder. -/
def files (folder : Folder) : Files := fun path =>
  if '\x00' ∈ path then .error .nulInName
  else if path = [] then .error .missing
  else if maxPath ≤ (Text.Utf8.encode path).length then .error .nameTooLong
  else
    match folder.followPath path with
    | .error e => .error e
    | .ok .directory => .error .isDirectory
    | .ok (.file content) => .ok content

end Folder

end TaskProbe

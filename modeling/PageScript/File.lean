/-!
# Files

What stands at a path, why it cannot be read as a text, and the files of a directory.
-/

namespace PageScript

/-- What stands at a path. -/
inductive FileContent where
  | absent
  | text (s : String)
  | binary (bytes : ByteArray)
  | directory
  /-- A file stands where a directory of the path should be. -/
  | blocked

/-- Why a path cannot be read as a text, or written. -/
inductive FileError where
  | notFound
  | notText
  | isDirectory
  | notDirectory
  /-- Any other error, in the words of the system. -/
  | other (text : String)
deriving DecidableEq, Repr

/-- The wording of a file error. -/
def FileError.message : FileError → String
  | .notFound => "No such file or directory (os error 2)"
  | .notText => "stream did not contain valid UTF-8"
  | .isDirectory => "Is a directory (os error 21)"
  | .notDirectory => "Not a directory (os error 20)"
  | .other text => text

namespace FileContent

/-- The content of a file of some bytes. -/
def ofBytes (bytes : ByteArray) : FileContent :=
  match String.fromUTF8? bytes with
  | some s => .text s
  | none => .binary bytes

/-- The text of a file. -/
def read : FileContent → Except FileError String
  | .absent => .error .notFound
  | .text s => .ok s
  | .binary _ => .error .notText
  | .directory => .error .isDirectory
  | .blocked => .error .notDirectory

/-- The file after a text has been written to it. -/
def write (s : String) : FileContent → Except FileError FileContent
  | .directory => .error .isDirectory
  | .blocked => .error .notDirectory
  | _ => .ok (.text s)

/-- The file after a text has been added at its end. -/
def append (s : String) : FileContent → Except FileError FileContent
  | .absent => .ok (.text s)
  | .text start => .ok (.text (start ++ s))
  | .binary bytes => .ok (ofBytes (bytes ++ s.toUTF8))
  | .directory => .error .isDirectory
  | .blocked => .error .notDirectory

/-- Something stands at the path. -/
def isPresent : FileContent → Bool
  | .absent => false
  | .blocked => false
  | _ => true

end FileContent

/-- The path of a file in a directory. -/
def joinPath (directory file : String) : String :=
  if directory.isEmpty then file
  else if directory.endsWith "/" then directory ++ file
  else directory ++ "/" ++ file

/-- The directory that a path leads into, unless that is the one where it begins. -/
def parentPath? (path : String) : Option String :=
  match (path.splitOn "/").reverse with
  | _ :: first :: rest =>
    let parent := "/".intercalate (first :: rest).reverse
    if parent.isEmpty then none else some parent
  | _ => none

/-- The steps of a path from the root or from here. Steps that lead nowhere are left out. -/
def pathSteps (path : String) : List String :=
  let steps := (path.splitOn "/").filter fun step => step ≠ "" ∧ step ≠ "."
  if path.startsWith "/" then "" :: steps else steps

/-- The files of a directory under their paths. A directory is there if there is a file in it. -/
abbrev Files := List (String × FileContent)

namespace Files

/-- What stands at a path. -/
def look (files : Files) (path : String) : FileContent :=
  let steps := pathSteps path
  match files.find? fun file => pathSteps file.1 = steps with
  | some file => file.2
  | none =>
    if path.isEmpty then .absent
    else if files.any fun file => steps.isPrefixOf (pathSteps file.1) then .directory
    else if files.any fun file => (pathSteps file.1).isPrefixOf steps then .blocked
    else .absent

/-- The files after something else stands at a path. -/
def put (files : Files) (path : String) (content : FileContent) : Files :=
  (path, content) :: files.filter fun file => pathSteps file.1 ≠ pathSteps path

end Files

end PageScript

import PluginLisp.Error

/-!
The files that a program can see: texts at paths below a working directory. Programs read, write and
look for files; they do not make directories.
-/

namespace PluginLisp

/-- Why a path could not be used. -/
inductive FileFault where
  | notFound
  | notDirectory
  | isDirectory
  | nameTooLong
  | zeroByte
deriving DecidableEq, Repr

namespace FileFault

/-- The text of a fault. -/
def message : FileFault → String
  | notFound => "No such file or directory (os error 2)"
  | notDirectory => "Not a directory (os error 20)"
  | isDirectory => "Is a directory (os error 21)"
  | nameTooLong => "File name too long (os error 36)"
  | zeroByte => "file name contained an unexpected NUL byte"

/-- The fault as an error of a program. -/
def error (f : FileFault) : Error := .file f.message

end FileFault

/-- A path from the root, outermost name last. -/
abbrev Path := List String

/-- Files by path, and the directories that exist besides those that files lie in. -/
structure Files where
  contents : List (Path × String) := []
  workingDirectory : Path := ["work", "tmp"]
deriving Inhabited

namespace Files

/-- Whether a path is a directory: it is the working directory or the root, lies on the way there, or
    has a file below it. -/
def isDirectory (files : Files) (path : Path) : Bool :=
  path.isSuffixOf files.workingDirectory
    || files.contents.any fun (file, _) => path.length < file.length && path.isSuffixOf file

/-- The content of the file at a path. -/
def content? (files : Files) (path : Path) : Option String := files.contents.lookup path

/-- Walks from a directory along names. All but the last have to be directories; an empty name, which
    two slashes or one at the end leave, stands for the directory itself, as a point does. -/
def walk (files : Files) (directory : Path) : List String → Except FileFault Path
  | [] => .ok directory
  | name :: rest =>
      if 255 < name.utf8ByteSize then .error .nameTooLong
      else
        let next :=
          if name = "" ∨ name = "." then directory
          else if name = ".." then directory.drop 1
          else name :: directory
        if rest.isEmpty then .ok next
        else if files.isDirectory next then files.walk next rest
        else if (files.content? next).isSome then .error .notDirectory
        else .error .notFound

/-- The path that a text leads to. -/
def resolve (files : Files) (text : String) : Except FileFault Path :=
  if text.contains '\x00' then .error .zeroByte
  else if text = "" then .error .notFound
  else if 4096 ≤ text.utf8ByteSize then .error .nameTooLong
  else
    match text.toList.splitOn '/' with
    | [] :: names => files.walk [] (names.map String.ofList)
    | names => files.walk files.workingDirectory (names.map String.ofList)

/-- The content of a file. -/
def read (files : Files) (text : String) : Except FileFault String := do
  let path ← files.resolve text
  match files.content? path with
  | some content => return content
  | none => if files.isDirectory path then .error .isDirectory else .error .notFound

/-- A text without the slashes at its end. -/
def dropSlashes (text : String) : String :=
  String.ofList (text.toList.reverse.dropWhile (· == '/')).reverse

/-- Writes a file, in place of the one that was there. A slash at the end asks for a directory, which
    is never written. -/
def write (files : Files) (text content : String) : Except FileFault Files := do
  let stem := dropSlashes text
  if text != "" && stem = "" then .error .isDirectory
  else
    let path ← files.resolve stem
    if files.isDirectory path || text.endsWith "/" then .error .isDirectory
    else
      return { files with
        contents := (path, content) :: files.contents.filter fun (other, _) => other != path }

/-- Whether a path leads to a file or a directory. -/
def present (files : Files) (text : String) : Bool :=
  match files.resolve text with
  | .ok path => files.isDirectory path || (files.content? path).isSome
  | .error _ => false

/-- The path of a name in the working directory. -/
def pathOf (files : Files) (name : String) : Path :=
  let names := (name.toList.splitOn '/').map String.ofList
  (names.filter fun n => n != "" && n != ".").reverse ++ files.workingDirectory

/-- Files in the working directory, by name. -/
def ofList (entries : List (String × String)) : Files :=
  let files : Files := {}
  { files with contents := entries.map fun (name, content) => (files.pathOf name, content) }

end Files

end PluginLisp

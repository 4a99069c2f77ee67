import SettingsConsole.Text.Split

/-!
# Files

Reading a file by its path: what can go wrong, and a tree of files in memory. A path leads through
directories from the root; a dot stays, and two dots go back. Names and whole paths have a greatest
length, counted in bytes.
-/

namespace SettingsConsole

open Text

/-- Why a file cannot be read. -/
inductive FileError where
  | notFound
  | notDirectory
  | isDirectory
  | nameTooLong
  | nullInName
  /-- Another reason. -/
  | other (text : String)
  deriving DecidableEq, Repr

/-- The words for a file that cannot be read. -/
def FileError.message : FileError → String
  | notFound => "No such file or directory (os error 2)"
  | notDirectory => "Not a directory (os error 20)"
  | isDirectory => "Is a directory (os error 21)"
  | nameTooLong => "File name too long (os error 36)"
  | nullInName => "file name contained an unexpected NUL byte"
  | other text => text

/-- What can be read by its path. -/
abbrev Files := String → Except FileError String

/-- Whether there is a file or a directory. -/
def Files.exists? (files : Files) (path : String) : Bool :=
  match files path with
  | .error .notFound | .error .notDirectory | .error .nameTooLong | .error .nullInName => false
  | _ => true

/-- A file, or a directory with what is in it. -/
inductive FileTree where
  | file (text : String)
  | directory (entries : List (String × FileTree))
  deriving Inhabited

namespace FileTree

/-- An empty directory. -/
def empty : FileTree := directory []

/-- Put a node under the names of a path. Directories on the way come about by this, and take the
place of files. -/
def insert (t : FileTree) (path : List String) (node : FileTree) : FileTree :=
  match path with
  | [] => node
  | name :: rest =>
    let entries :=
      match t with
      | directory es => es
      | file _ => []
    let sub := insert ((entries.lookup name).getD empty) rest node
    directory ((name, sub) :: entries.filter (·.1 != name))

/-- The names of a path. -/
def names (path : String) : List String := (split '/' path).filter (· != "")

/-- The greatest number of bytes of a name. -/
def maxNameBytes : Nat := 255

/-- The greatest number of bytes of a path. -/
def maxPathBytes : Nat := 4095

/-- Follow names from a node; `above` holds the directories on the way, last one first. -/
def follow : List String → FileTree → List FileTree → Except FileError FileTree
  | [], t, _ => .ok t
  | name :: rest, t, above =>
    match t with
    | file _ => .error .notDirectory
    | directory entries =>
      if name = "." then follow rest t above
      else if name = ".." then
        match above with
        | parent :: above => follow rest parent above
        | [] => follow rest t []
      else if maxNameBytes < name.utf8ByteSize then .error .nameTooLong
      else
        match entries.lookup name with
        | some sub => follow rest sub (t :: above)
        | none => .error .notFound

/-- Read a file. A path that ends in a slash leads to a directory. -/
def read (t : FileTree) : Files := fun path =>
  if path.toList.any fun c => c.toNat == 0 then .error .nullInName
  else if path = "" then .error .notFound
  else if maxPathBytes < path.utf8ByteSize then .error .nameTooLong
  else
    match follow (names path) t [] with
    | .error e => .error e
    | .ok (directory _) => .error .isDirectory
    | .ok (file text) => if path.toList.getLast? = some '/' then .error .notDirectory else .ok text

end FileTree

end SettingsConsole

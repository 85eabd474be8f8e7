import CoreArray.Text.Pieces
set_option autoImplicit false

/-!
# A tree of files

The program reads files below its working directory and creates some.  A file
tree says what the names in that directory stand for; nothing outside of it
exists.  Reading and creating fail for the causes, and with the reports, of a
file system.
-/

namespace CoreArray

/-- The names on the way to a file. -/
abbrev FilePath : Type := List String

/-- What a name stands for. -/
inductive FileEntry where
  | directory
  | file (content : ByteArray)
  deriving Inhabited

/-- Why a file cannot be read or created. -/
inductive FileFault where
  | notFound
  | notDirectory
  | isDirectory
  | nameTooLong
  | nulInName
  | notText
  /-- Any other cause, with its report. -/
  | other (report : String)
  deriving DecidableEq, Repr, Inhabited

/-- The report of a fault. -/
def FileFault.message : FileFault → String
  | notFound => "No such file or directory (os error 2)"
  | notDirectory => "Not a directory (os error 20)"
  | isDirectory => "Is a directory (os error 21)"
  | nameTooLong => "File name too long (os error 36)"
  | nulInName => "file name contained an unexpected NUL byte"
  | notText => "stream did not contain valid UTF-8"
  | other report => report

/-- What reading a path as text gives. -/
abbrev TextReader : Type := String → Except FileFault String

/-- The entries of a working directory.  The directories on the way to an entry
exist without entries of their own. -/
structure FileTree where
  entries : List (FilePath × FileEntry)
  deriving Inhabited

namespace FileTree

/-- The tree without entries. -/
def empty : FileTree := ⟨[]⟩

/-- What stands at a place. -/
def at? (tree : FileTree) (place : FilePath) : Option FileEntry :=
  match tree.entries.find? fun (path, _) => path == place with
  | some (_, entry) => some entry
  | none =>
      if place.isEmpty || tree.entries.any fun (path, _) => place.isPrefixOf path then
        some .directory
      else none

/-- Put an entry at a place. -/
def put (tree : FileTree) (place : FilePath) (entry : FileEntry) : FileTree :=
  ⟨(place, entry) :: tree.entries.filter fun (path, _) => !(path == place)⟩

/-- Where a walk has come: a directory inside the tree, or a directory outside,
so many levels above. -/
inductive Position where
  | inside (place : FilePath)
  | above (levels : Nat)
  | root
  deriving DecidableEq, Repr, Inhabited

/-- The longest name of an entry, in bytes. -/
def longestName : Nat := 255

/-- The longest path, in bytes. -/
def longestPath : Nat := 4095

/-- What a name leads to from a directory. -/
def follow (tree : FileTree) (position : Position) (name : String) :
    Except FileFault (Position × FileEntry) :=
  if name = "." then .ok (position, .directory)
  else if name = ".." then
    match position with
    | .inside [] => .ok (.above 1, .directory)
    | .inside place => .ok (.inside place.dropLast, .directory)
    | .above levels => .ok (.above (levels + 1), .directory)
    | .root => .ok (.root, .directory)
  else if longestName < name.utf8ByteSize then .error .nameTooLong
  else
    match position with
    | .inside place =>
        match tree.at? (place ++ [name]) with
        | some entry => .ok (.inside (place ++ [name]), entry)
        | none => .error .notFound
    | _ => .error .notFound

/-- Follow names one after the other. -/
def walk (tree : FileTree) (position : Position) (entry : FileEntry) :
    List String → Except FileFault (Position × FileEntry)
  | [] => .ok (position, entry)
  | name :: names =>
      match entry with
      | .file _ => .error .notDirectory
      | .directory =>
          match tree.follow position name with
          | .error fault => .error fault
          | .ok (position, entry) => tree.walk position entry names

/-- The names in a path. -/
def namesOf (path : String) : List String :=
  (Text.fieldsOf '/' path).filter fun name => !name.isEmpty

/-- Whether a slash ends a path, which asks for a directory. -/
def endsInSlash (path : String) : Bool := path.toList.getLast? = some '/'

/-- Where the names of a path begin. -/
def startOf (path : String) : Position :=
  if path.toList.head? = some '/' then .root else .inside []

/-- What is wrong with a path as such. -/
def pathFault? (path : String) : Option FileFault :=
  if path.isEmpty then some .notFound
  else if path.toList.contains '\x00' then some .nulInName
  else if longestPath < path.utf8ByteSize then some .nameTooLong
  else none

/-- What a path leads to.  A slash at the end is like a point after it. -/
def resolve (tree : FileTree) (path : String) : Except FileFault (Position × FileEntry) :=
  match pathFault? path with
  | some fault => .error fault
  | none =>
      tree.walk (startOf path) .directory
        (namesOf path ++ if endsInSlash path then ["."] else [])

/-- Read a file as text. -/
def readText (tree : FileTree) : TextReader := fun path =>
  match tree.resolve path with
  | .error fault => .error fault
  | .ok (_, .directory) => .error .isDirectory
  | .ok (_, .file content) =>
      match String.fromUTF8? content with
      | some text => .ok text
      | none => .error .notText

/-- Create a file in a directory, or empty one that exists. -/
def createIn (tree : FileTree) (position : Position) (name : String) :
    Except FileFault (FilePath × FileTree) :=
  if name = "." || name = ".." then .error .isDirectory
  else if longestName < name.utf8ByteSize then .error .nameTooLong
  else
    match position with
    | .inside place =>
        match tree.at? (place ++ [name]) with
        | some .directory => .error .isDirectory
        | _ => .ok (place ++ [name], tree.put (place ++ [name]) (.file ByteArray.empty))
    | _ => .error .notFound

/-- Create a file, or empty one that exists: the place of the file, and the tree
with it.  No file can be created at a path that asks for a directory. -/
def create (tree : FileTree) (path : String) : Except FileFault (FilePath × FileTree) :=
  match pathFault? path, (namesOf path).getLast? with
  | some fault, _ => .error fault
  | none, none => .error .isDirectory
  | none, some last =>
      match tree.walk (startOf path) .directory (namesOf path).dropLast with
      | .error fault => .error fault
      | .ok (_, .file _) => .error .notDirectory
      | .ok (position, .directory) =>
          if endsInSlash path then .error .isDirectory else tree.createIn position last

/-- Make a directory inside the working directory. -/
def makeDirectory (tree : FileTree) (name : String) : FileTree :=
  if (tree.at? [name]).isSome then tree else tree.put [name] .directory

/-- Write a text to the file at a place. -/
def write (tree : FileTree) (place : FilePath) (text : String) : FileTree :=
  tree.put place (.file text.toUTF8)

end FileTree

/-- A path after another.  A second path that begins with a slash replaces the
first; otherwise one slash stands between the two, unless the first is empty. -/
def joinPath (first second : String) : String :=
  if second.toList.head? = some '/' then second
  else if first.isEmpty || first.toList.getLast? = some '/' then first ++ second
  else first ++ "/" ++ second

/-- The name of the file in a path, without its last extension. -/
def fileStem? (path : String) : Option String :=
  let names := (Text.fieldsOf '/' path).filter fun name => !name.isEmpty && name != "."
  match names.getLast? with
  | none => none
  | some ".." => none
  | some name =>
      let chars := name.toList
      match Text.cutOnce (· == '.') chars.reverse with
      | some (_, stem) => if stem.isEmpty then some name else some (String.ofList stem.reverse)
      | none => some name

end CoreArray

import QueryLexer.Files.Path
import QueryLexer.Files.System

/-!
The state of a file system: which places hold a file or a directory, and which directory relative paths
start from. A place is the list of the names on the way to it from the root.

A path goes part by part from its start. `.` and an empty part stay where they are, `..` goes up, and
every part but the first can only be taken from a directory.
-/

namespace QueryLexer

inductive Entry where
  | file (content : ByteArray)
  /-- A file that can be neither read nor written; `error` is what the system answers. -/
  | locked (error : FileError)
  | directory
  /-- A place that reads as empty and forgets what is written to it. It is not a file. -/
  | void

structure FileTree where
  workingDirectory : List String
  entries : List (List String × Entry)

namespace FileTree

def empty (workingDirectory : List String) : FileTree :=
  ⟨workingDirectory, (List.range (workingDirectory.length + 1)).map fun depth =>
    (workingDirectory.take depth, .directory)⟩

def entryAt? (tree : FileTree) (place : List String) : Option Entry := tree.entries.lookup place

def put (tree : FileTree) (place : List String) (entry : Entry) : FileTree :=
  { tree with entries := (place, entry) :: tree.entries }

def start (tree : FileTree) (path : String) : List String :=
  if Path.isAbsolute path then [] else tree.workingDirectory

def walk (tree : FileTree) : (here parts : List String) → Except FileError (List String)
  | here, [] => .ok here
  | here, part :: rest =>
      match tree.entryAt? here with
      | none => .error .notFound
      | some (.file _) | some (.locked _) | some .void => .error .notADirectory
      | some .directory =>
          if Path.staysPut part then walk tree here rest
          else if part = ".." then walk tree here.dropLast rest
          else match tree.entryAt? (here ++ [part]) with
            | none => .error (Path.missing part)
            | some _ => walk tree (here ++ [part]) rest

def locate (tree : FileTree) (path : String) : Except FileError (List String × Entry) := do
  Path.accept path
  let place ← tree.walk (tree.start path) (Path.parts path)
  match tree.entryAt? place with
  | some entry => .ok (place, entry)
  | none => .error .notFound

def exists? (tree : FileTree) (path : String) : Bool :=
  match tree.locate path with
  | .ok _ => true
  | .error _ => false

def isFile (tree : FileTree) (path : String) : Bool :=
  match tree.locate path with
  | .ok (_, .file _) | .ok (_, .locked _) => true
  | _ => false

def read (tree : FileTree) (path : String) : Except FileError ByteArray :=
  match tree.locate path with
  | .error error | .ok (_, .locked error) => .error error
  | .ok (_, .directory) => .error .isADirectory
  | .ok (_, .void) => .ok .empty
  | .ok (_, .file content) => .ok content

def system (tree : FileTree) : FileSystem := ⟨tree.exists?, tree.isFile, tree.read⟩

def create (tree : FileTree) (directory : List String) (name : String) (entry : Entry) :
    Except FileError FileTree :=
  if Path.isTooLong name then .error .nameTooLong else .ok (tree.put (directory ++ [name]) entry)

def ensureDirectory (tree : FileTree) (start above : List String) (part : String) :
    Except FileError FileTree := do
  let directory ← tree.walk start (above ++ ["."])
  if part = ".." then .ok tree
  else match tree.entryAt? (directory ++ [part]) with
    | some .directory => .ok tree
    | some (.file _) | some (.locked _) | some .void => .error .alreadyExists
    | none => tree.create directory part .directory

/-- Makes the directory that the parts lead to, given from the last part back. It is tried at once, and
the directories above it are made only if one of them turns out to be missing. -/
def makeDirectories (tree : FileTree) (start : List String) :
    (backwards : List String) → Except FileError FileTree
  | [] => .ok tree
  | part :: above =>
      if Path.staysPut part then makeDirectories tree start above
      else match tree.ensureDirectory start above.reverse part with
        | .error .notFound => do
            let made ← makeDirectories tree start above
            made.ensureDirectory start above.reverse part
        | outcome => outcome

def makeParents (tree : FileTree) (path : String) : Except FileError FileTree :=
  match Path.above (Path.parts path) with
  | [] => .ok tree
  | above => do
      Path.accept (String.intercalate "/" above)
      tree.makeDirectories (tree.start path) above.reverse

/-- Writes a file whose directory exists, over a file that is there already. A path that ends in a slash
names a directory, even where there is nothing yet. -/
def write (tree : FileTree) (path : String) (content : ByteArray) : Except FileError FileTree := do
  Path.accept path
  match (Path.parts path).reverse.dropWhile (· == "") with
  | [] => .error .isADirectory
  | name :: above =>
      let directory ← tree.walk (tree.start path) (above.reverse ++ ["."])
      if Path.endsInSlash path || name = "." || name = ".." then .error .isADirectory
      else match tree.entryAt? (directory ++ [name]) with
        | some .directory => .error .isADirectory
        | some .void => .ok tree
        | some (.locked error) => .error error
        | some (.file _) => .ok (tree.put (directory ++ [name]) (.file content))
        | none => tree.create directory name (.file content)

end FileTree

end QueryLexer

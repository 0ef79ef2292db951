import QueryLexer.Files.Error

/-!
A file system as its readers see it: for every path, whether it leads anywhere, whether it leads to a file,
and what reading there gives. A file that is there may still refuse to be read, with any error.
-/

namespace QueryLexer

structure FileSystem where
  exists? : String → Bool
  isFile : String → Bool
  read : String → Except FileError ByteArray

def FileSystem.readText (files : FileSystem) (path : String) : Except FileError String :=
  match files.read path with
  | .error error => .error error
  | .ok content =>
      match String.fromUTF8? content with
      | some text => .ok text
      | none => .error .notText

end QueryLexer

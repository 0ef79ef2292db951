import QueryLexer.Files.Tree
import QueryLexer.Tool.Session

namespace QueryLexer.Program

def variableNames : List String :=
  ["BQLT_VERBOSE", "BQLT_NO_COLOR", "BQLT_CONFIG", "HOME", "XDG_CONFIG_HOME"]

def environment : IO Environment := do
  let found ← variableNames.filterMapM fun name => do
    return (← IO.getEnv name).map fun value => (name, value)
  return ⟨found⟩

def systemError : IO.Error → FileError
  | .alreadyExists _ code words | .otherError code words | .resourceBusy code words
  | .resourceVanished code words | .unsupportedOperation code words | .hardwareFault code words
  | .unsatisfiedConstraints code words | .illegalOperation code words | .protocolError code words
  | .timeExpired code words | .interrupted _ code words | .noFileOrDirectory _ code words
  | .invalidArgument _ code words | .permissionDenied _ code words | .resourceExhausted _ code words
  | .inappropriateType _ code words | .noSuchThing _ code words =>
      .other (words ++ " (os error " ++ toString code ++ ")")
  | .unexpectedEof => .other "unexpected end of file"
  | .userError words => .other words

def readEntry? (path : String) : IO (Option Entry) := do
  if path = "" then return none
  let full := (← IO.currentDir) / path
  match ← full.metadata.toBaseIO with
  | .error _ => return none
  | .ok found =>
      match found.type with
      | .dir => return some .directory
      | .file =>
          match ← (IO.FS.readBinFile full).toBaseIO with
          | .ok content => return some (.file content)
          | .error error => return some (.locked (systemError error))
      | _ => return some .void

/-- Where the parts of a path lead when every one of them exists. -/
def place (start parts : List String) : List String :=
  parts.foldl (fun here part =>
    if Path.staysPut part then here
    else if part = ".." then here.dropLast
    else here ++ [part]) start

def gather (tree : FileTree) (path : String) : IO FileTree := do
  match ← readEntry? path with
  | none => return tree
  | some entry =>
      let start := tree.start path
      let parts := Path.parts path
      let passed := (List.range parts.length).map fun count => place start (parts.take count)
      return (passed.foldl (fun grown directory => grown.put directory .directory) tree).put
        (place start parts) entry

def fileTree (paths : List String) : IO FileTree := do
  let here := (← IO.currentDir).toString
  paths.foldlM gather (.empty (place [] (Path.parts here)))

def shown (color : Bool) (event : Event) : String :=
  if color then "\x1b[1m" ++ event.level ++ "\x1b[0m " ++ event.message else event.line

def finish : Ending → IO Unit
  | .usage => IO.eprint Session.helpText
  | .finished outcome => do
      for event in outcome.events do
        IO.eprintln (shown outcome.color event)
      IO.print outcome.output
      IO.eprint outcome.errors

end QueryLexer.Program

open QueryLexer in
def main (arguments : List String) : IO UInt32 := do
  let environment ← Program.environment
  let paths := match Reading.ofArguments environment arguments with
    | .asked invocation => Session.paths environment invocation
    | _ => []
  let ending := Session.run (← Program.fileTree paths).system environment arguments
  Program.finish ending
  return ending.exitCode.toUInt32

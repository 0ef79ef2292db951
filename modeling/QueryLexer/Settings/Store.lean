import QueryLexer.Files.Tree
import QueryLexer.Settings.Decode

namespace QueryLexer.Settings

def fileName : String := "bqlt.toml"

def toolName : String := "bqlt"

def load (files : FileSystem) (path : String) : Except Failure Settings :=
  if files.exists? path then
    match files.readText path with
    | .error error => .error (.io error)
    | .ok text =>
        match ofText? text with
        | some settings => .ok settings
        | none => .error .settingsMalformed
  else .error (.settingsMissing path)

def save (settings : Settings) (files : FileTree) (path : String) : Except Failure FileTree :=
  match files.makeParents path with
  | .error error => .error (.io error)
  | .ok prepared =>
      match prepared.write path settings.render.toUTF8 with
      | .error error => .error (.io error)
      | .ok written => .ok written

def join (directory name : String) : String :=
  if directory = "" || directory.toList.getLast? = some '/' then directory ++ name
  else directory ++ "/" ++ name

/-- Where settings files are looked for: the working directory, the home directory's configuration and
the configuration directory, which counts only if it is absolute. -/
def searchPaths (home configHome : Option String) : List String :=
  let homeConfig := (home.filter (· ≠ "")).map (join · ".config")
  let config := (configHome.filter (·.toList.head? = some '/')).or homeConfig
  fileName :: [homeConfig, config].filterMap fun directory =>
    directory.map fun base => join (join base toolName) fileName

def search (files : FileSystem) (home configHome : Option String) : Except Failure Settings :=
  match (searchPaths home configHome).find? files.exists? with
  | some path => load files path
  | none => .ok standard

end QueryLexer.Settings

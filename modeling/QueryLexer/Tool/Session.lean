import QueryLexer.CommandLine.Invocation
import QueryLexer.Settings.Store
import QueryLexer.Tool.Event

/-!
A run of the tool from command line to exit code. Flags win over settings; a switch that is on in either
is on. Settings are read before anything is noted, so a run that fails there notes nothing.
-/

namespace QueryLexer

/-- How a run ends. `color` tells whether the events are to be shown in color. -/
structure Outcome where
  exitCode : Nat
  output : String
  errors : String
  events : List Event
  color : Bool
  deriving DecidableEq, Repr

inductive Ending where
  | usage
  | finished (outcome : Outcome)
  deriving DecidableEq, Repr

def Ending.exitCode : Ending → Nat
  | usage => 2
  | finished outcome => outcome.exitCode

namespace Outcome

def failed (failure : Failure) : Outcome :=
  ⟨1, "", "error: " ++ failure.message ++ "\n", [], false⟩

def printed (text : String) : Outcome := ⟨0, text, "", [], false⟩

def noting (outcome : Outcome) (verbose noColor : Bool) (events : List Event) : Outcome :=
  let shown := events.filter fun event => verbose || !event.isDetail
  { outcome with events := shown, color := !shown.isEmpty && !noColor }

end Outcome

namespace Session

def versionNumber : String := "0.1.0"

def versionText : Option Command → String
  | none => Settings.toolName ++ " " ++ versionNumber ++ "\n"
  | some command => Settings.toolName ++ "-" ++ command.name ++ " " ++ versionNumber ++ "\n"

def helpText : String :=
  "Inspect query sources\n\n" ++
  "Usage: bqlt [-v] [-c <CONFIG>] [--no-color] <COMMAND>\n\n" ++
  "  tokens <FILE> [--skip-trivia] [-F text|json] [--line-terminator lf|crlf|platform]\n" ++
  "  check <FILES>... [--line-terminator lf|crlf|platform]\n"

def settings (files : FileSystem) (environment : Environment) (config : Option String) :
    Except Failure Settings :=
  match config with
  | some path => Settings.load files path
  | none => Settings.search files (environment.get? "HOME") (environment.get? "XDG_CONFIG_HOME")

def paths (environment : Environment) (invocation : Invocation) : List String :=
  let settingsPaths := match invocation.config with
    | some path => [path]
    | none => Settings.searchPaths (environment.get? "HOME") (environment.get? "XDG_CONFIG_HOME")
  match invocation.request with
  | .tokens path _ _ _ => settingsPaths ++ [path]
  | .check paths _ => settingsPaths ++ paths

/-- How the request has sources read. A check never looks at blanks. -/
def mode (settings : Settings) : Request → LexMode
  | .tokens _ skipTrivia _ terminator =>
      ⟨(terminator.getD settings.terminator).resolve, skipTrivia || settings.skipTrivia⟩
  | .check _ terminator => ⟨(terminator.getD settings.terminator).resolve, true⟩

def perform (files : FileSystem) (settings : Settings) (request : Request) : Outcome :=
  let mode := mode settings request
  match request with
  | .tokens path _ format _ =>
      match listTokens files mode (format.getD settings.format) path "" with
      | (.ok _, written) => .printed written
      | (.error failure, written) => { Outcome.failed failure with output := written }
  | .check paths _ =>
      let report := checkFiles files mode paths
      match report.failure? with
      | none => .printed report.text
      | some failure => { Outcome.failed failure with output := report.text }

def events (files : FileSystem) (settings : Settings) (request : Request) : List Event :=
  let mode := mode settings request
  match request with
  | .tokens path _ format _ =>
      Event.ofListing path (listTokens files mode (format.getD settings.format) path "").1
  | .check paths _ => Event.ofCheck files mode paths

/-- How a run ends, once it is known what the settings file says or why it cannot be used. -/
def conclude (files : FileSystem) (loaded : Except Failure Settings) (invocation : Invocation) :
    Outcome :=
  match loaded with
  | .error failure => .failed failure
  | .ok settings =>
      (perform files settings invocation.request).noting
        (invocation.verbose || settings.verbose) invocation.noColor
        (events files settings invocation.request)

def runInvocation (files : FileSystem) (environment : Environment) (invocation : Invocation) :
    Outcome :=
  conclude files (settings files environment invocation.config) invocation

def run (files : FileSystem) (environment : Environment) (arguments : List String) : Ending :=
  match Reading.ofArguments environment arguments with
  | .usage => .usage
  | .help => .finished (.printed helpText)
  | .version command => .finished (.printed (versionText command))
  | .asked invocation => .finished (runInvocation files environment invocation)

end Session

end QueryLexer

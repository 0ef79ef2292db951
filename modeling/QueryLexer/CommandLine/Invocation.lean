import QueryLexer.CommandLine.Argument

/-!
What a command line asks for. Arguments count from left to right: the first that is wrong makes the
whole line wrong, unless the version or the help was asked for before it. A flag may be given once in
front of the command and once behind it; the value behind it counts. What is not given is taken from the
environment. In the place of a command, `help` asks for the help on what is named behind it.
-/

namespace QueryLexer

structure Environment where
  bindings : List (String × String)

def Environment.get? (environment : Environment) (name : String) : Option String :=
  environment.bindings.lookup name

structure Given where
  verbose : Bool
  config : Option String
  noColor : Bool
  skipTrivia : Bool
  format : Option ListingFormat
  terminator : Option TerminatorChoice
  files : List String
  deriving DecidableEq, Repr

inductive Stop where
  | usage | help | version
  deriving DecidableEq, Repr

namespace Given

def nothing : Given := ⟨false, none, false, false, none, none, []⟩

def once {α : Type} (before : Option α) (value : Option α) : Except Stop (Option α) :=
  match before, value with
  | none, some value => .ok (some value)
  | _, _ => .error .usage

def onceFlag (before : Bool) : Except Stop Bool := if before then .error .usage else .ok true

def nonempty? (text : String) : Option String := if text = "" then none else some text

/-- Takes in one item; `takesFile` says whether one more file may stand here. -/
def take (takesFile : Nat → Bool) (given : Given) : Item → Except Stop Given
  | .fault => .error .usage
  | .switch .help => .error .help
  | .switch .version => .error .version
  | .switch .verbose => do return { given with verbose := ← onceFlag given.verbose }
  | .switch .noColor => do return { given with noColor := ← onceFlag given.noColor }
  | .switch .skipTrivia => do return { given with skipTrivia := ← onceFlag given.skipTrivia }
  | .switch _ => .error .usage
  | .value .config text => do
      return { given with config := ← once given.config (nonempty? text) }
  | .value .format text => do
      return { given with format := ← once given.format (ListingFormat.ofWord? text) }
  | .value .lineTerminator text => do
      return { given with terminator := ← once given.terminator (TerminatorChoice.ofWord? text) }
  | .value _ _ => .error .usage
  | .file path =>
      if path ≠ "" && takesFile given.files.length then
        .ok { given with files := given.files ++ [path] }
      else .error .usage

def takeAll (takesFile : Nat → Bool) (given : Given) (items : List Item) : Except Stop Given :=
  items.foldlM (take takesFile) given

end Given

inductive Request where
  | tokens (path : String) (skipTrivia : Bool) (format : Option ListingFormat)
      (terminator : Option TerminatorChoice)
  | check (paths : List String) (terminator : Option TerminatorChoice)
  deriving DecidableEq, Repr

structure Invocation where
  verbose : Bool
  noColor : Bool
  config : Option String
  request : Request
  deriving DecidableEq, Repr

inductive Reading where
  | asked (invocation : Invocation)
  | version (command : Option Command)
  | help
  | usage
  deriving DecidableEq, Repr

namespace Reading

def ofStop (command : Option Command) : Stop → Reading
  | .usage => usage
  | .help => help
  | .version => version command

def flagOfWord? : String → Option Bool
  | "true" => some true
  | "false" => some false
  | _ => none

/-- A flag that was given in front of the command or behind it, or that the environment sets. Where it
was not given in both places the inherited word has to be right. -/
def settleFlag? (front behind : Bool) (inherited : Option String) : Option Bool :=
  match inherited with
  | none => some (front || behind)
  | some word =>
      if front && behind then some true
      else (flagOfWord? word).map (front || behind || ·)

def settleValue? (front behind inherited : Option String) : Option (Option String) :=
  if inherited = some "" && !(front.isSome && behind.isSome) then none
  else some (behind.or (front.or inherited))

def request? (command : Command) (given : Given) : Option Request :=
  match command, given.files with
  | _, [] => none
  | .tokens, path :: _ => some (.tokens path given.skipTrivia given.format given.terminator)
  | .check, paths => some (.check paths given.terminator)

def combine? (environment : Environment) (command : Command) (front behind : Given) :
    Option Invocation := do
  let request ← request? command behind
  let verbose ← settleFlag? front.verbose behind.verbose (environment.get? "BQLT_VERBOSE")
  let noColor ← settleFlag? front.noColor behind.noColor (environment.get? "BQLT_NO_COLOR")
  let config ← settleValue? front.config behind.config (environment.get? "BQLT_CONFIG")
  return ⟨verbose, noColor, config, request⟩

/-- There is help on the tool as a whole and on each of its commands, `help` among them. -/
def ofHelp : (topic : List String) → Reading
  | [] => help
  | [name] => if name = "help" || (Command.ofName? name).isSome then help else usage
  | _ => usage

def command (name : String) (arguments : List String) : Except Reading (Command × Given) :=
  if name = "help" then .error (ofHelp arguments)
  else match Command.ofName? name with
    | none => .error usage
    | some command =>
        match Given.nothing.takeAll command.takesMore (Item.ofArguments command.flags none arguments) with
        | .error stop => .error (ofStop (some command) stop)
        | .ok behind => .ok (command, behind)

def front (given : Given) (items : List Item) : Except Reading Given :=
  match given.takeAll (fun _ => false) items with
  | .error stop => .error (ofStop none stop)
  | .ok given => .ok given

def read (environment : Environment) (leading : Leading) : Except Reading Invocation := do
  let settled ← front .nothing leading.items
  match leading.rest with
  | [] => .error usage
  | name :: arguments =>
      let (command, behind) ← command name arguments
      let given ← front settled leading.pending.toList
      match combine? environment command given behind with
      | some invocation => .ok invocation
      | none => .error usage

def ofArguments (environment : Environment) (arguments : List String) : Reading :=
  match read environment (Leading.ofArguments none arguments) with
  | .ok invocation => asked invocation
  | .error reading => reading

end Reading

end QueryLexer

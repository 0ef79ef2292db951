import QueryLexer.Settings.Basic

/-!
Arguments of the command line. A flag is written with two dashes and its name, or with one dash and a
letter; letters can share a dash. The value of a flag is the next argument, or stands behind an equals
sign or directly behind the letter. Behind a bare double dash everything is a file.
-/

namespace QueryLexer

inductive Flag where
  | verbose | config | noColor | help | version | skipTrivia | format | lineTerminator
  deriving DecidableEq, Repr

namespace Flag

def name : Flag → String
  | verbose => "verbose"
  | config => "config"
  | noColor => "no-color"
  | help => "help"
  | version => "version"
  | skipTrivia => "skip-trivia"
  | format => "format"
  | lineTerminator => "line-terminator"

def letter? : Flag → Option Char
  | verbose => some 'v'
  | config => some 'c'
  | help => some 'h'
  | version => some 'V'
  | format => some 'F'
  | noColor | skipTrivia | lineTerminator => none

def takesValue : Flag → Bool
  | config | format | lineTerminator => true
  | verbose | noColor | help | version | skipTrivia => false

def common : List Flag := [verbose, config, noColor, help, version]

end Flag

inductive Command where
  | tokens | check
  deriving DecidableEq, Repr

namespace Command

def all : List Command := [tokens, check]

def name : Command → String
  | tokens => "tokens"
  | check => "check"

def ofName? (name : String) : Option Command := all.find? (·.name == name)

def flags : Command → List Flag
  | tokens => Flag.common ++ [.skipTrivia, .format, .lineTerminator]
  | check => Flag.common ++ [.lineTerminator]

def takesMore : Command → (files : Nat) → Bool
  | tokens, files => files == 0
  | check, _ => true

end Command

inductive Item where
  | switch (flag : Flag)
  | value (flag : Flag) (text : String)
  | file (path : String)
  | fault
  deriving DecidableEq, Repr

namespace Item

def isDashed (argument : String) : Bool :=
  match argument.toList with
  | '-' :: _ :: _ => true
  | _ => false

/-- The flags of a group of letters, and the flag that still waits for its value. -/
def ofLetters (flags : List Flag) : List Char → List Item × Option Flag
  | [] => ([], none)
  | c :: rest =>
      match flags.find? (·.letter? == some c) with
      | none => ([.fault], none)
      | some flag =>
          if flag.takesValue then
            match rest with
            | [] => ([], some flag)
            | '=' :: text => ([.value flag (String.ofList text)], none)
            | text => ([.value flag (String.ofList text)], none)
          else
            let (items, waiting) := ofLetters flags rest
            (.switch flag :: items, waiting)

def ofName (flags : List Flag) (text : List Char) : List Item × Option Flag :=
  let name := String.ofList (text.takeWhile (· != '='))
  match flags.find? (·.name == name), text.dropWhile (· != '=') with
  | none, _ => ([.fault], none)
  | some flag, [] => if flag.takesValue then ([], some flag) else ([.switch flag], none)
  | some flag, _ :: text =>
      if flag.takesValue then ([.value flag (String.ofList text)], none) else ([.fault], none)

def ofDashed (flags : List Flag) (argument : String) : List Item × Option Flag :=
  match argument.toList with
  | '-' :: '-' :: text => ofName flags text
  | _ :: text => ofLetters flags text
  | [] => ([.fault], none)

/-- What the arguments behind a command say. The flag `waiting` takes the next argument as its value. -/
def ofArguments (flags : List Flag) : (waiting : Option Flag) → List String → List Item
  | none, [] => []
  | some _, [] => [.fault]
  | some flag, argument :: rest =>
      if isDashed argument then [.fault] else .value flag argument :: ofArguments flags none rest
  | none, argument :: rest =>
      if argument = "--" then rest.map .file
      else if isDashed argument then
        let (items, waiting) := ofDashed flags argument
        items ++ ofArguments flags waiting rest
      else .file argument :: ofArguments flags none rest

end Item

structure Leading where
  items : List Item
  /-- A value that is an argument of its own, right in front of the command. Only the argument behind a
  value shows that it is complete, so this one is taken in when the command has been read. -/
  pending : Option Item
  rest : List String
  deriving DecidableEq, Repr

namespace Leading

def after (items : List Item) (leading : Leading) : Leading :=
  { leading with items := items ++ leading.items }

/-- Puts a value in front, which is pending if nothing but the command stands behind it. -/
def afterValue (value : Item) (leading : Leading) : Leading :=
  match leading.items, leading.pending with
  | [], none => { leading with pending := some value }
  | _, _ => leading.after [value]

def fault : Leading := ⟨[.fault], none, []⟩

def ofArguments : (waiting : Option Flag) → List String → Leading
  | none, [] => ⟨[], none, []⟩
  | some _, [] => fault
  | some flag, argument :: rest =>
      if Item.isDashed argument then fault
      else (ofArguments none rest).afterValue (.value flag argument)
  | none, argument :: rest =>
      if argument = "--" then fault
      else if Item.isDashed argument then
        let (items, waiting) := Item.ofDashed Flag.common argument
        (ofArguments waiting rest).after items
      else ⟨[], none, argument :: rest⟩

end Leading

end QueryLexer

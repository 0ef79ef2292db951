import QueryLexer.Tool.Check

namespace QueryLexer

inductive Event where
  | unmatched (error : LexError)
  | listed (path : String) (tokens : Nat)
  | lexed (path : String) (tokens : Nat)
  | finished (checked failed : Nat)
  deriving DecidableEq, Repr

namespace Event

def isDetail : Event → Bool
  | finished _ _ => false
  | _ => true

def level (event : Event) : String := if event.isDetail then "DEBUG" else "INFO"

def message : Event → String
  | unmatched error => "no classifier matched err=" ++ error.message
  | listed path tokens =>
      "listed tokens command=\"tokens\" path=" ++ path ++ " tokens=" ++ toString tokens
  | lexed path tokens => "lexed cleanly path=" ++ path ++ " tokens=" ++ toString tokens
  | finished checked failed =>
      "check finished command=\"check\" checked=" ++ toString checked ++
        " failed=" ++ toString failed

def line (event : Event) : String := event.level ++ " " ++ event.message

def ofListing (path : String) : Except Failure Nat → List Event
  | .ok count => [listed path count]
  | .error (.lexical _ error) => [unmatched error]
  | .error _ => []

def ofChecked (path : String) : Except Failure (List Token) → List Event
  | .ok tokens => [lexed path tokens.length]
  | .error (.lexical _ error) => [unmatched error]
  | .error _ => []

def ofCheck (files : FileSystem) (mode : LexMode) (paths : List String) : List Event :=
  let report := checkFiles files mode paths
  paths.flatMap (fun path => ofChecked path (files.tokens mode path)) ++
    [finished report.checked report.failed]

end Event

end QueryLexer

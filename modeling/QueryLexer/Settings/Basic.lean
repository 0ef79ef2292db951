import QueryLexer.Tool.Listing

namespace QueryLexer

inductive TerminatorChoice where
  | lf | crlf | platform
  deriving DecidableEq, Repr, Inhabited

namespace TerminatorChoice

def all : List TerminatorChoice := [lf, crlf, platform]

def word : TerminatorChoice → String
  | lf => "lf"
  | crlf => "crlf"
  | platform => "platform"

def ofWord? (word : String) : Option TerminatorChoice := all.find? (·.word == word)

def resolve : TerminatorChoice → Terminator
  | lf => .lf
  | crlf => .crlf
  | platform => .platform

end TerminatorChoice

structure Settings where
  verbose : Bool
  terminator : TerminatorChoice
  skipTrivia : Bool
  format : ListingFormat
  deriving DecidableEq, Repr

namespace Settings

def standard : Settings := ⟨false, .platform, false, .text⟩

def flagWord (flag : Bool) : String := if flag then "true" else "false"

def render (settings : Settings) : String :=
  "verbose = " ++ flagWord settings.verbose ++
    "\n\n[lexer]\nline_terminator = \"" ++ settings.terminator.word ++
    "\"\nskip_trivia = " ++ flagWord settings.skipTrivia ++
    "\n\n[output]\nformat = \"" ++ settings.format.word ++ "\"\n"

end Settings

end QueryLexer

/-!
Physical lines. A source is cut at every terminator, from left to right and without overlap; a source
without a terminator is one line, and one that ends in a terminator has an empty last line.
-/

namespace QueryLexer

inductive Terminator where
  | lf | crlf
  deriving DecidableEq, Repr, Inhabited

namespace Terminator

/-- The terminator used where none is asked for. -/
def platform : Terminator := lf

def text : Terminator → String
  | lf => "\n"
  | crlf => "\r\n"

def extendFirst (c : Char) : List (List Char) → List (List Char)
  | [] => [[c]]
  | line :: rest => (c :: line) :: rest

def lines : Terminator → List Char → List (List Char)
  | _, [] => [[]]
  | lf, '\n' :: rest => [] :: lines lf rest
  | crlf, '\r' :: '\n' :: rest => [] :: lines crlf rest
  | terminator, c :: rest => extendFirst c (lines terminator rest)

end Terminator

end QueryLexer

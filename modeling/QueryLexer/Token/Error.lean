import QueryLexer.Token.Kind

namespace QueryLexer

inductive LexError where
  | unexpectedChar (line column : UInt32) (ch : Char)
  | integerOverflow (line : UInt32) (lexeme : String)
  | notAnInteger (line : UInt32) (kind : Kind)
  deriving DecidableEq, Repr

namespace LexError

def line : LexError → UInt32
  | unexpectedChar line _ _ => line
  | integerOverflow line _ => line
  | notAnInteger line _ => line

def message : LexError → String
  | unexpectedChar line column ch =>
      s!"line {line}, column {column}: unexpected character '{ch}'"
  | integerOverflow line lexeme => s!"line {line}: integer literal {lexeme} is out of range"
  | notAnInteger line kind => s!"line {line}: " ++ kind.shown ++ " token is not an integer literal"

def diagnostic (path : String) : LexError → String
  | unexpectedChar line column ch => s!"{path}:{line}:{column}: unexpected character '{ch}'"
  | error => s!"{path}:{error.line}: " ++ error.message

end LexError

end QueryLexer

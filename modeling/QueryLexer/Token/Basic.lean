import QueryLexer.Text.Decimal
import QueryLexer.Text.Quoted
import QueryLexer.Token.Error

/-!
A token: its kind, the line it stands on, and its lexeme, which is the matched text of a keyword, a
name or a number. Operators and blanks have an empty lexeme: the kind alone says how an operator is
written, and every blank counts as one space.
-/

namespace QueryLexer

structure Token where
  kind : Kind
  lexeme : String
  line : UInt32
  deriving DecidableEq, Repr

namespace Token

/-- The text that the token stands for in a source, blanks written as spaces. -/
def text (token : Token) : String :=
  match token.kind with
  | .space => " "
  | .operator op => op.symbol
  | _ => token.lexeme

def shown (token : Token) : String :=
  match token.kind with
  | .identifier | .integer => token.kind.name ++ "(" ++ Text.quote token.lexeme ++ ")"
  | kind => kind.name

def row (token : Token) : String :=
  toString token.line ++ " " ++ token.kind.name ++
    (if token.lexeme = "" then "" else " " ++ token.lexeme)

def intValue (token : Token) : Except LexError Int64 :=
  match token.kind with
  | .integer =>
      match Text.integer? token.lexeme.toList with
      | some value => .ok value
      | none => .error (.integerOverflow token.line token.lexeme)
  | kind => .error (.notAnInteger token.line kind)

end Token

end QueryLexer

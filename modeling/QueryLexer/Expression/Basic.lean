import QueryLexer.Expression.Operation
import QueryLexer.Token.Basic

namespace QueryLexer

inductive Expression where
  | literal (value : Int64)
  | name (text : String)
  | unary (op : UnaryOp) (operand : Expression)
  | binary (op : BinaryOp) (left right : Expression)
  deriving DecidableEq, Repr

namespace Expression

/-- The operand that a token stands for: a name or a number. Any other token stands for none. -/
def ofOperand (token : Token) : Except LexError (Option Expression) :=
  match token.kind with
  | .identifier => .ok (some (name token.lexeme))
  | .integer => token.intValue.map fun value => some (literal value)
  | _ => .ok none

def text : Expression → String
  | literal value => toString value.toInt
  | name text => text
  | unary op operand => "(" ++ op.symbol ++ operand.text ++ ")"
  | binary op left right => "(" ++ left.text ++ " " ++ op.symbol ++ " " ++ right.text ++ ")"

def nodeCount : Expression → Nat
  | literal _ | name _ => 1
  | unary _ operand => 1 + operand.nodeCount
  | binary _ left right => 1 + left.nodeCount + right.nodeCount

end Expression

end QueryLexer

import QueryLexer.Token.Kind

/-!
The operations of expressions, the operators they are written with, and how tightly they bind. Of two
operations that compete for an operand the one with the higher power on that side takes it, so an
operation with the higher power on the right groups to the left.
-/

namespace QueryLexer

inductive BinaryOp where
  | assign | add | sub | mul | div | mod | eq | ne | gt | lt | ge | le | and | or
  deriving DecidableEq, Repr

namespace BinaryOp

def name : BinaryOp → String
  | assign => "Assign"
  | add => "Add"
  | sub => "Sub"
  | mul => "Mul"
  | div => "Div"
  | mod => "Mod"
  | eq => "Eq"
  | ne => "Ne"
  | gt => "Gt"
  | lt => "Lt"
  | ge => "Ge"
  | le => "Le"
  | and => "And"
  | or => "Or"

def ofOperator? : Operator → Option BinaryOp
  | .assignment => some assign
  | .plus => some add
  | .minus => some sub
  | .multiplication => some mul
  | .division => some div
  | .modulo => some mod
  | .equalTo => some eq
  | .notEqualTo => some ne
  | .greaterThan => some gt
  | .lessThan => some lt
  | .greaterOrEqual => some ge
  | .lessOrEqual => some le
  | .and => some and
  | .or => some or
  | .not => none

def ofKind? : Kind → Option BinaryOp
  | .operator op => ofOperator? op
  | _ => none

def operator : BinaryOp → Operator
  | assign => .assignment
  | add => .plus
  | sub => .minus
  | mul => .multiplication
  | div => .division
  | mod => .modulo
  | eq => .equalTo
  | ne => .notEqualTo
  | gt => .greaterThan
  | lt => .lessThan
  | ge => .greaterOrEqual
  | le => .lessOrEqual
  | and => .and
  | or => .or

def kind (op : BinaryOp) : Kind := .operator op.operator

def symbol (op : BinaryOp) : String := op.operator.symbol

def bindingPower : BinaryOp → Nat × Nat
  | assign => (2, 1)
  | or => (3, 4)
  | and => (5, 6)
  | eq | ne => (7, 8)
  | gt | lt | ge | le => (9, 10)
  | add | sub => (11, 12)
  | mul | div | mod => (13, 14)

end BinaryOp

inductive UnaryOp where
  | neg | not
  deriving DecidableEq, Repr

namespace UnaryOp

def name : UnaryOp → String
  | neg => "Neg"
  | not => "Not"

def ofKind? : Kind → Option UnaryOp
  | .operator .minus => some neg
  | .operator .not => some not
  | _ => none

def operator : UnaryOp → Operator
  | neg => .minus
  | not => .not

def symbol (op : UnaryOp) : String := op.operator.symbol

/-- Every operation in front of an operand binds it more tightly than any between two. -/
def bindingPower : Nat := 15

end UnaryOp

end QueryLexer

import QueryLexer.Text.Word

namespace QueryLexer

inductive Keyword where
  | whereWord | varWord | selectWord | firstWord | betweenWord | matchWord | orderWord
  deriving DecidableEq, Repr, Inhabited

namespace Keyword

def all : List Keyword :=
  [whereWord, varWord, selectWord, firstWord, betweenWord, matchWord, orderWord]

def name : Keyword → String
  | whereWord => "Where"
  | varWord => "Var"
  | selectWord => "Select"
  | firstWord => "First"
  | betweenWord => "Between"
  | matchWord => "Match"
  | orderWord => "Order"

def symbol : Keyword → String
  | whereWord => "WHERE"
  | varWord => "VAR"
  | selectWord => "SELECT"
  | firstWord => "FIRST"
  | betweenWord => "BETWEEN"
  | matchWord => "MATCH"
  | orderWord => "ORDER"

def code : Keyword → Nat
  | whereWord => 1
  | varWord => 2
  | selectWord => 3
  | firstWord => 4
  | betweenWord => 5
  | matchWord => 6
  | orderWord => 7

/-- Does `word` spell this keyword, in any mixture of upper and lower case? -/
def spelledBy (keyword : Keyword) (word : List Char) : Bool :=
  Text.foldCase keyword.symbol.toList == Text.foldCase word

def ofWord? (word : List Char) : Option Keyword := all.find? (·.spelledBy word)

def index? (word : List Char) : Option Nat := all.findIdx? (·.spelledBy word)

end Keyword

inductive Operator where
  | assignment | plus | minus | multiplication | division | modulo
  | equalTo | notEqualTo | greaterThan | lessThan | greaterOrEqual | lessOrEqual
  | not | and | or
  deriving DecidableEq, Repr, Inhabited

namespace Operator

def all : List Operator :=
  [assignment, plus, minus, multiplication, division, modulo, equalTo, notEqualTo, greaterThan,
   lessThan, greaterOrEqual, lessOrEqual, not, and, or]

def name : Operator → String
  | assignment => "Assignment"
  | plus => "Plus"
  | minus => "Minus"
  | multiplication => "Multiplication"
  | division => "Division"
  | modulo => "Modulo"
  | equalTo => "EqualTo"
  | notEqualTo => "NotEqualTo"
  | greaterThan => "GreaterThan"
  | lessThan => "LessThan"
  | greaterOrEqual => "GreaterOrEqual"
  | lessOrEqual => "LessOrEqual"
  | not => "Not"
  | and => "And"
  | or => "Or"

def symbol : Operator → String
  | assignment => "="
  | plus => "+"
  | minus => "-"
  | multiplication => "*"
  | division => "/"
  | modulo => "%"
  | equalTo => "=="
  | notEqualTo => "!="
  | greaterThan => ">"
  | lessThan => "<"
  | greaterOrEqual => ">="
  | lessOrEqual => "<="
  | not => "!"
  | and => "&&"
  | or => "||"

def code : Operator → Nat
  | assignment => 30
  | plus => 31
  | minus => 32
  | multiplication => 33
  | division => 34
  | modulo => 35
  | equalTo => 36
  | notEqualTo => 37
  | greaterThan => 38
  | lessThan => 39
  | greaterOrEqual => 40
  | lessOrEqual => 41
  | not => 42
  | and => 43
  | or => 44

end Operator

inductive Kind where
  | keyword (word : Keyword)
  | integer
  | identifier
  | operator (op : Operator)
  | space
  deriving DecidableEq, Repr, Inhabited

namespace Kind

def all : List Kind :=
  Keyword.all.map keyword ++ [integer, identifier] ++ Operator.all.map operator ++ [space]

def name : Kind → String
  | keyword word => word.name
  | integer => "IntegerLiteral"
  | identifier => "Identifier"
  | operator op => op.name
  | space => "Space"

def code : Kind → Nat
  | keyword word => word.code
  | integer => 10
  | identifier => 20
  | operator op => op.code
  | space => 60

/-- How the kind is written, when that is the same for all its tokens. -/
def symbol? : Kind → Option String
  | keyword word => some word.symbol
  | operator op => some op.symbol
  | _ => none

def isKeyword : Kind → Bool
  | keyword _ => true
  | _ => false

def isOperator : Kind → Bool
  | operator _ => true
  | _ => false

def isTrivia : Kind → Bool
  | space => true
  | _ => false

def shown : Kind → String
  | operator op => "'" ++ op.symbol ++ "'"
  | kind => kind.name

def ofName? (name : String) : Option Kind := all.find? (·.name == name)

/-- Sorted by code; kinds of one code keep their order. -/
def sorted (kinds : List Kind) : List Kind :=
  kinds.mergeSort fun first second => first.code ≤ second.code

end Kind

end QueryLexer

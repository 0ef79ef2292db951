import QueryLexer.Text.Word

/-!
Decimal numerals: the number that a run of digits stands for, and the reading of a numeral as a signed
number of 64 bits. A numeral has at least one digit and may have a sign in front of them; it is read digit
by digit and given up as soon as the number is out of range.
-/

namespace QueryLexer.Text

def digitValue (c : Char) : Nat := c.toNat - '0'.toNat

def decimalValue (digits : List Char) : Nat :=
  digits.foldl (fun value digit => 10 * value + digitValue digit) 0

def largestInteger : Nat := 9223372036854775807

/-- The number that one more digit makes of `value`, if it is a digit and the number is within `bound`. -/
def appendDigit? (bound value : Nat) (digit : Char) : Option Nat :=
  let longer := 10 * value + digitValue digit
  if isDigit digit ∧ longer ≤ bound then some longer else none

def magnitude? (bound : Nat) : List Char → Option Nat
  | [] => none
  | digits => digits.foldlM (appendDigit? bound) 0

def integer? : List Char → Option Int64
  | '-' :: digits =>
      (magnitude? (largestInteger + 1) digits).map fun value : Nat => Int64.ofInt (-(value : Int))
  | '+' :: digits => (magnitude? largestInteger digits).map Int64.ofNat
  | digits => (magnitude? largestInteger digits).map Int64.ofNat

end QueryLexer.Text

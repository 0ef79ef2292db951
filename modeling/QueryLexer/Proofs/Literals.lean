import Mathlib.Algebra.Group.Nat.Defs
import QueryLexer.Expression.Basic
import QueryLexer.Proofs.Printing
import QueryLexer.Proofs.Text.Numerals

/-!
The values of number tokens. Asking a token for its number fails for two reasons, and whatever goes wrong
in reading the lexeme counts as an overflow. For the tokens of a source that is right: their lexemes are
digits, with no sign, no other character and at least one digit, so a number that cannot be read is too
large. A number within 64 bits is read exactly, however many zeros it begins with.
-/

namespace QueryLexer

namespace Token

section Integer

variable (token : Token) (integer : token.kind = .integer)
  (isDigits : Text.IsDigits token.lexeme.toList)

include integer

theorem ofOperand_integer :
    Expression.ofOperand token = token.intValue.map fun value => some (.literal value) := by
  simp only [Expression.ofOperand, integer]

include isDigits

theorem intValue_inRange (inRange : Text.decimalValue token.lexeme.toList ≤ Text.largestInteger) :
    token.intValue = .ok (Int64.ofNat (Text.decimalValue token.lexeme.toList)) := by
  simp only [intValue, integer, Text.integer?_inRange _ isDigits inRange]

theorem intValue_tooLarge (tooLarge : Text.largestInteger < Text.decimalValue token.lexeme.toList) :
    token.intValue = .error (.integerOverflow token.line token.lexeme) := by
  simp only [intValue, integer, Text.integer?_tooLarge _ isDigits tooLarge]

end Integer

/-- The lexeme is digits. As a number and as an operand the token has their value, or an overflow if 64 bits
cannot hold it. -/
def HasDecimalValue (token : Token) : Prop :=
  let number := Text.decimalValue token.lexeme.toList
  let overflow := LexError.integerOverflow token.line token.lexeme
  Text.IsDigits token.lexeme.toList ∧
    if number ≤ 2 ^ 63 - 1 then
      ∃ value : Int64, value.toInt = number ∧ token.intValue = .ok value ∧
        Expression.ofOperand token = .ok (some (.literal value))
    else token.intValue = .error overflow ∧ Expression.ofOperand token = .error overflow

theorem hasDecimalValue_of_isDigits (token : Token) (integer : token.kind = .integer)
    (isDigits : Text.IsDigits token.lexeme.toList) : token.HasDecimalValue := by
  have operand := token.ofOperand_integer integer
  refine ⟨isDigits, ?_⟩
  split
  case isTrue inRange =>
    have read := token.intValue_inRange integer isDigits inRange
    refine ⟨_, Int64.toInt_ofNat_of_lt (Nat.lt_of_le_of_lt inRange (by decide)), read, ?_⟩
    rw [operand, read]
    rfl
  case isFalse tooLarge =>
    have failed := token.intValue_tooLarge integer isDigits (Nat.lt_of_not_le tooLarge)
    refine ⟨failed, ?_⟩
    rw [operand, failed]
    rfl

end Token

theorem integer_value_is_exact (source : String) (mode : LexMode) (tokens : List Token)
    (lexed : tokenize source mode = .ok tokens) (token : Token) (member : token ∈ tokens) :
    match token.kind with
    | .integer => token.HasDecimalValue
    | .identifier => token.intValue = .error (.notAnInteger token.line token.kind) ∧
        Expression.ofOperand token = .ok (some (.name token.lexeme))
    | _ => token.intValue = .error (.notAnInteger token.line token.kind) ∧
        Expression.ofOperand token = .ok none := by
  have wellFormed := wellFormed_of_lexed source mode tokens lexed token member
  cases token with
  | mk kind lexeme line =>
      cases kind with
      | integer => exact Token.hasDecimalValue_of_isDigits _ rfl wellFormed
      | identifier => exact ⟨rfl, rfl⟩
      | keyword word => exact ⟨rfl, rfl⟩
      | operator op => exact ⟨rfl, rfl⟩
      | space => exact ⟨rfl, rfl⟩

-- The largest number with zeros in front of it, and the next one.
theorem integer_value_is_exact_at_the_bound :
    let largest := Token.mk .integer "0009223372036854775807" 1
    let next := Token.mk .integer "9223372036854775808" 3
    tokenize "0009223372036854775807\n\n9223372036854775808" ⟨.lf, false⟩ = .ok [largest, next] ∧
      largest.intValue = .ok 9223372036854775807 ∧
      next.intValue = .error (.integerOverflow 3 "9223372036854775808") := by
  intro largest next
  have lexed : tokenize "0009223372036854775807\n\n9223372036854775808" ⟨.lf, false⟩ =
      .ok [largest, next] := by decide +kernel
  have first : largest.HasDecimalValue :=
    integer_value_is_exact _ _ _ lexed largest List.mem_cons_self
  have second : next.HasDecimalValue :=
    integer_value_is_exact _ _ _ lexed next (List.mem_cons_of_mem _ List.mem_cons_self)
  obtain ⟨value, exact, read, _⟩ := (if_pos (by decide +kernel)).mp first.2
  obtain rfl : value = 9223372036854775807 := Int64.toInt_inj.mp (exact.trans (by decide +kernel))
  exact ⟨lexed, read, ((if_neg (by decide +kernel)).mp second.2).1⟩

end QueryLexer

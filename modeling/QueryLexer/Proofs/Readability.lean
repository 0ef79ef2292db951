import QueryLexer.Proofs.Vocabulary

/-!
Unique readability. The text of an expression shows its tree: two expressions whose names are identifiers
have the same text only if they are the same expression.

A number or a name is a word, a run of characters that are neither spaces nor parentheses, and every
operation stands in parentheses. So a text cannot begin with the texts of two expressions, as long as a
space or a parenthesis follows. Only one place is not settled by the next character: a minus sign behind
an opening parenthesis negates an operand or belongs to a negative number on the left of an operator. What
follows the word behind it, a parenthesis or a space, tells the two apart.
-/

namespace QueryLexer

namespace Text

/-- Spaces and parentheses divide the text of an expression into words. -/
def isDivider (c : Char) : Bool := c == ' ' || c == '(' || c == ')'

def IsWord (chars : List Char) : Prop := chars ≠ [] ∧ ∀ c ∈ chars, isDivider c = false

/-- A word can end in front of `rest`. -/
def Divided (rest : List Char) : Prop := ∀ next ∈ rest.head?, isDivider next = true

theorem isDivider_continuesName (c : Char) (continues : continuesName c = true) : isDivider c = false := by
  have space : c ≠ ' ' := by
    rintro rfl
    exact absurd (isBlank_continuesName ' ' continues) (by decide)
  have parentheses := not_parenthesis_continuesName c continues
  simp [isDivider, space, parentheses]

theorem isWord_digits (number : Nat) : IsWord (Nat.toDigits 10 number) := by
  refine ⟨Nat.toDigits_ne_nil, ?_⟩
  intro c member
  apply isDivider_continuesName
  simp [continuesName, isDigit_of_mem_toDigits number c member]

theorem isWord_of_isName (chars : List Char) (named : IsName chars) : IsWord chars := by
  constructor
  · rcases named with ⟨c, later, rfl, _⟩
    exact List.cons_ne_nil c later
  · intro c member
    exact isDivider_continuesName c (named.continues c member)

theorem isWord_symbol (op : Operator) : IsWord op.symbol.toList := by
  have table : op.symbol.toList.all (!isDivider ·) = true := by
    cases op <;> decide
  refine ⟨op.symbol_chars.1, ?_⟩
  intro c member
  simpa using List.all_eq_true.mp table c member

theorem divided_cons (c : Char) (later : List Char) (divider : isDivider c = true) :
    Divided (c :: later) := by
  intro next first
  obtain rfl : c = next := Option.some.inj first
  exact divider

theorem IsWord.append_inj {word other rest rest' : List Char} (isWord : IsWord word)
    (isWord' : IsWord other) (divided : Divided rest) (divided' : Divided rest')
    (same : word ++ rest = other ++ rest') : word = other ∧ rest = rest' := by
  have taken (word rest : List Char) (isWord : IsWord word) (divided : Divided rest) :
      (word ++ rest).takeWhile (!isDivider ·) = word := by
    apply takeWhile_stops
    · intro c member
      simp [isWord.2 c member]
    · intro next first
      simp [divided next first]
  have words : word = other := by
    rw [← taken word rest isWord divided, same, taken other rest' isWord' divided']
  subst words
  exact ⟨rfl, List.append_cancel_left same⟩

theorem IsWord.append_ne_group {word : List Char} (isWord : IsWord word) (rest inside : List Char) :
    word ++ rest ≠ '(' :: inside := by
  rcases isWord with ⟨nonempty, undivided⟩
  rcases List.exists_cons_of_ne_nil nonempty with ⟨c, later, rfl⟩
  intro same
  obtain rfl : c = '(' := (List.cons.inj same).1
  exact absurd (undivided '(' List.mem_cons_self) (by decide)

end Text

theorem UnaryOp.symbol_sign (op : UnaryOp) : ∃ sign ∈ Text.operatorChars, op.symbol.toList = [sign] := by
  cases op with
  | neg => exact ⟨'-', by decide, rfl⟩
  | not => exact ⟨'!', by decide, rfl⟩

theorem UnaryOp.symbol_inj (first second : UnaryOp) (same : first.symbol.toList = second.symbol.toList) :
    first = second := by
  revert same
  cases first <;> cases second <;> decide

theorem BinaryOp.symbol_inj (first second : BinaryOp)
    (same : first.symbol.toList = second.symbol.toList) : first = second := by
  revert same
  cases first <;> cases second <;> decide

namespace Expression

/-- Are all names identifiers? -/
def Named : Expression → Prop
  | literal _ => True
  | name text => IsName text.toList
  | unary _ operand => operand.Named
  | binary _ left right => left.Named ∧ right.Named

def decideNamed : (expression : Expression) → Decidable expression.Named
  | literal _ => .isTrue trivial
  | name text => inferInstanceAs (Decidable (IsName text.toList))
  | unary _ operand => operand.decideNamed
  | binary _ left right => @instDecidableAnd _ _ left.decideNamed right.decideNamed

instance : DecidablePred Named := decideNamed

def isOperand : Expression → Bool
  | literal _ | name _ => true
  | unary _ _ | binary _ _ _ => false

theorem toList_text_unary (op : UnaryOp) (operand : Expression) (rest : List Char) :
    (unary op operand).text.toList ++ rest =
      '(' :: (op.symbol.toList ++ (operand.text.toList ++ ')' :: rest)) := by
  simp [text]

theorem toList_text_binary (op : BinaryOp) (left right : Expression) (rest : List Char) :
    (binary op left right).text.toList ++ rest = '(' :: (left.text.toList ++
      ' ' :: (op.symbol.toList ++ ' ' :: (right.text.toList ++ ')' :: rest))) := by
  simp [text]

theorem isWord_text (expression : Expression) (named : expression.Named)
    (operand : expression.isOperand = true) : Text.IsWord expression.text.toList := by
  cases expression with
  | literal value =>
      rw [text]
      by_cases unsigned : 0 ≤ value.toInt
      · rw [Text.numeral_toInt value unsigned]
        exact Text.isWord_digits _
      · rw [Text.numeral_toInt_negative value (Int.not_le.mp unsigned)]
        exact ⟨List.cons_ne_nil _ _, List.forall_mem_cons.mpr ⟨by decide, (Text.isWord_digits _).2⟩⟩
  | name text => exact Text.isWord_of_isName _ named
  | unary op operand => cases operand
  | binary op left right => cases operand

theorem grouped_text (expression : Expression) (operation : expression.isOperand = false) :
    ∃ inside, expression.text.toList = '(' :: inside := by
  cases expression with
  | literal value => cases operation
  | name text => cases operation
  | unary op operand => simp [text]
  | binary op left right => simp [text]

theorem text_ne_nil (expression : Expression) (named : expression.Named) :
    expression.text.toList ≠ [] := by
  cases operand : expression.isOperand with
  | true => exact (expression.isWord_text named operand).1
  | false =>
      rcases expression.grouped_text operand with ⟨inside, group⟩
      rw [group]
      exact List.cons_ne_nil _ _

-- Of all texts only that of a negative number begins with an operator, and a word follows.
theorem isWord_behind_sign (expression : Expression) (named : expression.Named) (sign : Char)
    (later : List Char) (begins : expression.text.toList = sign :: later)
    (operator : sign ∈ Text.operatorChars) : Text.IsWord later := by
  cases expression with
  | literal value =>
      rw [text] at begins
      by_cases unsigned : 0 ≤ value.toInt
      · rw [Text.numeral_toInt value unsigned] at begins
        have digit := Text.isDigit_of_mem_toDigits _ sign (begins ▸ List.mem_cons_self)
        exact absurd operator (Text.not_operator_digit sign digit)
      · rw [Text.numeral_toInt_negative value (Int.not_le.mp unsigned)] at begins
        obtain rfl := (List.cons.inj begins).2
        exact Text.isWord_digits _
  | name text =>
      rcases named with ⟨c, more, chars, starts, _⟩
      obtain rfl : sign = c := (List.cons.inj (begins.symm.trans chars)).1
      exact absurd operator (Text.not_operator_startsName sign starts)
  | unary op operand =>
      rcases grouped_text (unary op operand) rfl with ⟨inside, group⟩
      obtain rfl : sign = '(' := (List.cons.inj (begins.symm.trans group)).1
      exact absurd operator (by decide)
  | binary op left right =>
      rcases grouped_text (binary op left right) rfl with ⟨inside, group⟩
      obtain rfl : sign = '(' := (List.cons.inj (begins.symm.trans group)).1
      exact absurd operator (by decide)

theorem numeral_ne_name (value : Int64) (text : String) (named : IsName text.toList) :
    toString value.toInt ≠ text := by
  rintro rfl
  rcases named with ⟨c, later, chars, starts, _⟩
  by_cases unsigned : 0 ≤ value.toInt
  · rw [Text.numeral_toInt value unsigned] at chars
    have digit := Text.isDigit_of_mem_toDigits _ c (chars ▸ List.mem_cons_self)
    simp [Text.startsName_digit c digit] at starts
  · rw [Text.numeral_toInt_negative value (Int.not_le.mp unsigned)] at chars
    obtain rfl : '-' = c := (List.cons.inj chars).1
    simp [Text.startsName_operator '-' (by decide)] at starts

theorem operand_of_text (first second : Expression) (named : first.Named) (named' : second.Named)
    (operand : first.isOperand = true) (operand' : second.isOperand = true)
    (same : first.text = second.text) : first = second := by
  cases first with
  | literal value =>
      cases second with
      | literal value' =>
          have read := Text.integer?_numeral value
          rw [show toString value.toInt = toString value'.toInt from same, Text.integer?_numeral] at read
          rw [Option.some.inj read]
      | name text => exact absurd same (numeral_ne_name value text named')
      | unary op operand => cases operand'
      | binary op left right => cases operand'
  | name text =>
      cases second with
      | literal value => exact absurd same.symm (numeral_ne_name value text named)
      | name text' => exact congrArg name same
      | unary op operand => cases operand'
      | binary op left right => cases operand'
  | unary op operand => cases operand
  | binary op left right => cases operand

section Heads

variable {first second : Expression} {rest rest' : List Char}

theorem eq_of_operand_append (named : first.Named) (named' : second.Named)
    (operand : first.isOperand = true) (divided : Text.Divided rest) (divided' : Text.Divided rest')
    (same : first.text.toList ++ rest = second.text.toList ++ rest') : first = second ∧ rest = rest' := by
  have isWord := first.isWord_text named operand
  cases operand' : second.isOperand with
  | true =>
      have isWord' := second.isWord_text named' operand'
      rcases isWord.append_inj isWord' divided divided' same with ⟨texts, rests⟩
      exact ⟨operand_of_text first second named named' operand operand' (String.toList_inj.mp texts), rests⟩
  | false =>
      rcases second.grouped_text operand' with ⟨inside, group⟩
      rw [group] at same
      exact absurd same (isWord.append_ne_group rest _)

-- The sign is that of a negative number, so a space follows its digits, but a parenthesis the operand.
theorem unary_append_ne_binary (op : UnaryOp) (operand : Expression) (op' : BinaryOp)
    (left right : Expression) (named : operand.Named) (named' : left.Named) :
    (unary op operand).text.toList ++ rest ≠ (binary op' left right).text.toList ++ rest' := by
  intro same
  rw [toList_text_unary, toList_text_binary] at same
  rcases op.symbol_sign with ⟨sign, operator, symbol⟩
  rcases List.exists_cons_of_ne_nil (left.text_ne_nil named') with ⟨c, digits, begins⟩
  rw [symbol, begins] at same
  obtain ⟨rfl, behind⟩ := List.cons.inj (List.cons.inj same).2
  have isWord := left.isWord_behind_sign named' sign digits begins operator
  have closed : Text.Divided (')' :: rest) := Text.divided_cons ')' rest rfl
  cases leaf : operand.isOperand with
  | true =>
      have spaced (later : List Char) : Text.Divided (' ' :: later) := Text.divided_cons ' ' later rfl
      rcases (operand.isWord_text named leaf).append_inj isWord closed (spaced _) behind with ⟨_, rests⟩
      exact absurd (List.cons.inj rests).1 (by decide)
  | false =>
      rcases operand.grouped_text leaf with ⟨inside, group⟩
      rw [group] at behind
      exact isWord.append_ne_group _ _ behind.symm

-- By induction on the first tree: a text that begins with its text begins with that of no other tree.
theorem eq_of_text_append (named : first.Named) (named' : second.Named) (divided : Text.Divided rest)
    (divided' : Text.Divided rest') (same : first.text.toList ++ rest = second.text.toList ++ rest') :
    first = second ∧ rest = rest' := by
  have closed (rest : List Char) : Text.Divided (')' :: rest) := Text.divided_cons ')' rest rfl
  have spaced (rest : List Char) : Text.Divided (' ' :: rest) := Text.divided_cons ' ' rest rfl
  induction first generalizing second rest rest' with
  | literal value => exact eq_of_operand_append named named' rfl divided divided' same
  | name text => exact eq_of_operand_append named named' rfl divided divided' same
  | unary op operand ih =>
      cases second with
      | literal value =>
          cases (eq_of_operand_append named' named rfl divided' divided same.symm).1
      | name text =>
          cases (eq_of_operand_append named' named rfl divided' divided same.symm).1
      | unary op' operand' =>
          rw [toList_text_unary, toList_text_unary] at same
          have lengths : op.symbol.toList.length = op'.symbol.toList.length := by
            cases op <;> cases op' <;> rfl
          rcases List.append_inj (List.cons.inj same).2 lengths with ⟨symbols, operands⟩
          have inner : operand'.Named := named'
          rcases ih named inner (closed _) (closed _) operands with ⟨rfl, behind⟩
          exact ⟨by rw [UnaryOp.symbol_inj op op' symbols], (List.cons.inj behind).2⟩
      | binary op' left right =>
          exact absurd same (unary_append_ne_binary op operand op' left right named named'.1)
  | binary op left right ihLeft ihRight =>
      cases second with
      | literal value =>
          cases (eq_of_operand_append named' named rfl divided' divided same.symm).1
      | name text =>
          cases (eq_of_operand_append named' named rfl divided' divided same.symm).1
      | unary op' operand =>
          exact absurd same.symm (unary_append_ne_binary op' operand op left right named' named.1)
      | binary op' left' right' =>
          rw [toList_text_binary, toList_text_binary] at same
          rcases ihLeft named.1 named'.1 (spaced _) (spaced _) (List.cons.inj same).2 with ⟨rfl, afterLeft⟩
          rcases (Text.isWord_symbol op.operator).append_inj (Text.isWord_symbol op'.operator) (spaced _)
            (spaced _) (List.cons.inj afterLeft).2 with ⟨symbols, afterSymbol⟩
          rcases ihRight named.2 named'.2 (closed _) (closed _) (List.cons.inj afterSymbol).2 with
            ⟨rfl, afterRight⟩
          exact ⟨by rw [BinaryOp.symbol_inj op op' symbols], (List.cons.inj afterRight).2⟩

end Heads

theorem text_inj (first second : Expression) (named : first.Named) (named' : second.Named) :
    first.text = second.text ↔ first = second := by
  constructor
  · intro same
    have ended : Text.Divided [] := by simp [Text.Divided]
    exact (eq_of_text_append named named' ended ended (by rw [same])).1
  · intro same
    rw [same]

-- The minus sign of a negative number on the left of an operator, and one in front of the whole.
theorem text_inj_signed :
    let first := binary .sub (literal (-5)) (unary .neg (name "x"))
    let second := unary .neg (binary .sub (literal 5) (unary .neg (name "x")))
    first.Named ∧ second.Named ∧ first.text = "(-5 - (-x))" ∧ second.text = "(-(5 - (-x)))" ∧
      first.text ≠ second.text := by
  intro first second
  have named : first.Named := by decide +kernel
  have named' : second.Named := by decide +kernel
  have different : first ≠ second := by decide
  refine ⟨named, named', by decide +kernel, by decide +kernel, ?_⟩
  intro same
  exact different ((text_inj first second named named').mp same)

end Expression

end QueryLexer

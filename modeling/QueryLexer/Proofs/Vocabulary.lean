import QueryLexer.Expression.Basic
import QueryLexer.Proofs.Blanks
import QueryLexer.Proofs.Text.Numerals

/-!
Expressions are written in the words of the lexer. With spaces in place of its parentheses, the text of an
expression is one line, and its tokens go through the tree from left to right, one token for each node: an
operand where it stands, an operation in front of its operand or between its two. The grouping is all that
is lost. The three tables involved agree: how an operator is written, how it is recognized, and which
operation it stands for.
-/

namespace QueryLexer

theorem UnaryOp.ofKind?_operator (op : UnaryOp) : UnaryOp.ofKind? (.operator op.operator) = some op := by
  cases op <;> rfl

theorem BinaryOp.ofKind?_operator (op : BinaryOp) :
    BinaryOp.ofKind? (.operator op.operator) = some op := by
  cases op <;> rfl

def Text.parenthesisAsSpace (c : Char) : Char := if c = '(' ∨ c = ')' then ' ' else c

namespace Expression

/-- The text without its grouping: every parenthesis is a space. -/
def ungrouped (expression : Expression) : String := expression.text.map Text.parenthesisAsSpace

/-- Are all names identifiers, none of them a keyword, and all numbers without a sign? -/
def Readable : Expression → Prop
  | literal value => 0 ≤ value.toInt
  | name text => IsName text.toList ∧ Keyword.ofWord? text.toList = none
  | unary _ operand => operand.Readable
  | binary _ left right => left.Readable ∧ right.Readable

def decideReadable : (expression : Expression) → Decidable expression.Readable
  | literal value => inferInstanceAs (Decidable (0 ≤ value.toInt))
  | name text => inferInstanceAs (Decidable (IsName text.toList ∧ Keyword.ofWord? text.toList = none))
  | unary _ operand => operand.decideReadable
  | binary _ left right => @instDecidableAnd _ _ left.decideReadable right.decideReadable

instance : DecidablePred Readable := decideReadable

/-- The tokens go through the tree from left to right. -/
inductive ReadInOrder : Expression → List Token → Prop
  | operand {leaf : Expression} {token : Token} (stands : ofOperand token = .ok (some leaf)) :
      ReadInOrder leaf [token]
  | unary {op : UnaryOp} {operand : Expression} {token : Token} {tokens : List Token}
      (stands : UnaryOp.ofKind? token.kind = some op) (inOrder : operand.ReadInOrder tokens) :
      ReadInOrder (.unary op operand) (token :: tokens)
  | binary {op : BinaryOp} {left right : Expression} {token : Token} {before after : List Token}
      (stands : BinaryOp.ofKind? token.kind = some op) (inOrderLeft : left.ReadInOrder before)
      (inOrderRight : right.ReadInOrder after) :
      ReadInOrder (.binary op left right) (before ++ token :: after)

-- An operand is never an operation, so it is one node.
theorem nodeCount_of_ofOperand (token : Token) (leaf : Expression)
    (stands : ofOperand token = .ok (some leaf)) : leaf.nodeCount = 1 := by
  unfold ofOperand at stands
  split at stands
  case h_1 =>
    obtain rfl := Option.some.inj (Except.ok.inj stands)
    rfl
  case h_2 =>
    cases number : token.intValue with
    | error error => simp [number, Except.map] at stands
    | ok value =>
        rw [number] at stands
        obtain rfl := Option.some.inj (Except.ok.inj stands)
        rfl
  case h_3 => simp at stands

theorem ReadInOrder.length {expression : Expression} {tokens : List Token}
    (inOrder : expression.ReadInOrder tokens) : tokens.length = expression.nodeCount := by
  induction inOrder with
  | operand stands => rw [nodeCount_of_ofOperand _ _ stands, List.length_singleton]
  | unary stands inOrder ih => rw [List.length_cons, ih, nodeCount, Nat.add_comm]
  | binary stands inOrderLeft inOrderRight ihLeft ihRight =>
      rw [List.length_append, List.length_cons, ihLeft, ihRight, nodeCount]
      omega

end Expression

theorem Text.map_parenthesisAsSpace (chars : List Char) (plain : ∀ c ∈ chars, c ≠ '(' ∧ c ≠ ')') :
    chars.map Text.parenthesisAsSpace = chars := by
  apply Text.map_eq_self
  intro c member
  simp [Text.parenthesisAsSpace, plain c member]

theorem Text.not_parenthesis_continuesName (c : Char) (continues : Text.continuesName c = true) :
    c ≠ '(' ∧ c ≠ ')' := by
  have table : Text.continuesName '(' = false ∧ Text.continuesName ')' = false := by decide +kernel
  constructor
  · rintro rfl
    simp [table] at continues
  · rintro rfl
    simp [table] at continues

theorem Operator.map_parenthesisAsSpace (op : Operator) :
    op.symbol.toList.map Text.parenthesisAsSpace = op.symbol.toList := by
  cases op <;> decide

namespace Expression

theorem toList_ungrouped_unary (op : UnaryOp) (operand : Expression) :
    (unary op operand).ungrouped.toList =
      [' '] ++ (op.symbol.toList ++ (operand.ungrouped.toList ++ [' '])) := by
  simp [ungrouped, text, UnaryOp.symbol, Operator.map_parenthesisAsSpace, Text.parenthesisAsSpace]

theorem toList_ungrouped_binary (op : BinaryOp) (left right : Expression) :
    (binary op left right).ungrouped.toList =
      [' '] ++ (left.ungrouped.toList ++
        ([' '] ++ (op.symbol.toList ++ ([' '] ++ (right.ungrouped.toList ++ [' ']))))) := by
  simp [ungrouped, text, BinaryOp.symbol, Operator.map_parenthesisAsSpace, Text.parenthesisAsSpace]

theorem written_literal (value : Int64) (unsigned : 0 ≤ value.toInt) :
    Kind.integer.Written (toString value.toInt) (literal value).ungrouped.toList := by
  have digits := Text.isDigit_of_mem_toDigits value.toInt.toNat
  have chars : (literal value).ungrouped.toList = (toString value.toInt).toList := by
    rw [ungrouped, String.toList_map, text, Text.numeral_toInt value unsigned]
    apply Text.map_parenthesisAsSpace
    intro c member
    apply Text.not_parenthesis_continuesName
    simp [Text.continuesName, digits c member]
  rw [chars]
  refine ⟨String.ofList_toList.symm, ?_, ?_⟩
  · rw [Text.numeral_toInt value unsigned]
    exact Nat.toDigits_ne_nil
  · rw [Text.numeral_toInt value unsigned]
    exact digits

theorem written_name (text : String) (named : IsName text.toList)
    (unreserved : Keyword.ofWord? text.toList = none) :
    Kind.identifier.Written text (name text).ungrouped.toList := by
  have chars : (name text).ungrouped.toList = text.toList := by
    rw [ungrouped, String.toList_map, Expression.text]
    apply Text.map_parenthesisAsSpace
    intro c member
    exact Text.not_parenthesis_continuesName c (named.continues c member)
  rw [chars]
  exact ⟨String.ofList_toList.symm, named, unreserved⟩

-- No operator runs into what follows it.
theorem first_ungrouped (expression : Expression) (readable : expression.Readable) (c : Char)
    (first : c ∈ expression.ungrouped.toList.head?) : c ∉ Text.operatorChars := by
  cases expression with
  | literal value =>
      have digit := (written_literal value readable).2.2 c (List.mem_of_mem_head? first)
      exact Text.not_operator_digit c digit
  | name text =>
      obtain ⟨_, ⟨start, later, chars, starts, _⟩, _⟩ := written_name text readable.1 readable.2
      rw [chars] at first
      obtain rfl := Option.some.inj first
      exact Text.not_operator_startsName start starts
  | unary op operand =>
      rw [toList_ungrouped_unary] at first
      obtain rfl := Option.some.inj first
      decide
  | binary op left right =>
      rw [toList_ungrouped_binary] at first
      obtain rfl := Option.some.inj first
      decide

theorem stopsAt_ungrouped (op : Operator) (expression : Expression) (readable : expression.Readable) :
    (Kind.operator op).StopsAt (expression.ungrouped.toList ++ [' ']) := by
  have stops : (Kind.operator op).StopsAt expression.ungrouped.toList := by
    intro next first
    simp [Kind.absorbs, ne_equal next (first_ungrouped expression readable next first)]
  apply stops.before_blank
  intro c first
  obtain rfl := Option.some.inj first
  decide

-- The text has spaces and no other blanks, so it is one line.
theorem blank_of_mem_ungrouped (expression : Expression) (readable : expression.Readable) (c : Char)
    (member : c ∈ expression.ungrouped.toList) (blank : Text.isBlank c = true) : c = ' ' := by
  have signs (op : Operator) (inside : c ∈ op.symbol.toList) : c = ' ' := by
    simp [Text.isBlank_operator c (op.symbol_chars.2 c inside)] at blank
  induction expression with
  | literal value =>
      have digit := (written_literal value readable).2.2 c member
      simp [Text.isBlank_digit c digit] at blank
  | name text =>
      have continues := (written_name text readable.1 readable.2).2.1.continues c member
      simp [Text.isBlank_continuesName c continues] at blank
  | unary op operand ih =>
      simp only [toList_ungrouped_unary, List.mem_append, List.mem_singleton] at member
      rcases member with space | sign | inside | space
      · exact space
      · exact signs op.operator sign
      · exact ih readable inside
      · exact space
  | binary op left right ihLeft ihRight =>
      simp only [toList_ungrouped_binary, List.mem_append, List.mem_singleton] at member
      rcases member with space | inLeft | space | sign | space | inRight | space
      · exact space
      · exact ihLeft readable.1 inLeft
      · exact space
      · exact signs op.operator sign
      · exact space
      · exact ihRight readable.2 inRight
      · exact space

end Expression

theorem isBlank_of_mem_space (c : Char) (member : c ∈ [' ']) : Text.isBlank c = true := by
  obtain rfl := List.mem_singleton.mp member
  decide

theorem withoutTrivia_trailing_space (number : UInt32) (column : Nat) (text : List Char) :
    (lineTranscript number column (text ++ [' '])).withoutTrivia =
      (lineTranscript number column text).withoutTrivia := by
  have gap := withoutTrivia_gap number column text [' '] [] (by simp) isBlank_of_mem_space
  rw [List.append_nil, lineTranscript_nil] at gap
  exact gap.trans (Transcript.append_finished _)

theorem withoutTrivia_operator (number : UInt32) (column : Nat) (op : Operator) (rest : List Char)
    (stops : (Kind.operator op).StopsAt rest) :
    (lineTranscript number column (op.symbol.toList ++ rest)).withoutTrivia =
      (lineTranscript number (column + op.symbol.toList.length) rest).withoutTrivia.cons
        ⟨.operator op, "", number⟩ := by
  rw [lineTranscript_written number column (.operator op) "" _ rest ⟨rfl, rfl⟩ stops]
  rfl

theorem lineTranscript_single (number : UInt32) (column : Nat) (kind : Kind) (lexeme : String)
    (chars : List Char)
    (written : kind.Written lexeme chars) :
    lineTranscript number column chars = ⟨[⟨kind, lexeme, number⟩], none⟩ := by
  have stops : kind.StopsAt [] := by simp [Kind.StopsAt]
  have whole := lineTranscript_written number column kind lexeme chars [] written stops
  rwa [List.append_nil, lineTranscript_nil] at whole

namespace Expression

def ReadFrom (expression : Expression) (transcript : Transcript) : Prop :=
  transcript.failure = none ∧ expression.ReadInOrder transcript.tokens

-- By induction on the tree: the text of each node is the texts of its parts, with blanks between them.
theorem readFrom_ungrouped (expression : Expression) (readable : expression.Readable)
    (number : UInt32) (column : Nat) :
    expression.ReadFrom (lineTranscript number column expression.ungrouped.toList).withoutTrivia := by
  induction expression generalizing column with
  | literal value =>
      rw [lineTranscript_single _ _ _ _ _ (written_literal value readable)]
      have read : (Token.mk .integer (toString value.toInt) number).intValue = .ok value := by
        simp only [Token.intValue, Text.integer?_numeral value]
      refine ⟨rfl, .operand ?_⟩
      simp only [ofOperand, read, Except.map]
  | name text =>
      rw [lineTranscript_single _ _ _ _ _ (written_name text readable.1 readable.2)]
      exact ⟨rfl, .operand rfl⟩
  | unary op operand ih =>
      have stops := stopsAt_ungrouped op.operator operand readable
      rw [toList_ungrouped_unary, withoutTrivia_leading_blanks _ _ _ _ isBlank_of_mem_space,
        UnaryOp.symbol, withoutTrivia_operator _ _ _ _ stops, withoutTrivia_trailing_space]
      obtain ⟨whole, inOrder⟩ := ih readable (column + [' '].length + op.operator.symbol.toList.length)
      exact ⟨whole, .unary op.ofKind?_operator inOrder⟩
  | binary op left right ihLeft ihRight =>
      have stops (rest : List Char) : (Kind.operator op.operator).StopsAt ([' '] ++ rest) := by
        intro next first
        obtain rfl := Option.some.inj first
        exact Kind.absorbs_blank _ _ (by decide)
      rw [toList_ungrouped_binary, withoutTrivia_leading_blanks _ _ _ _ isBlank_of_mem_space,
        withoutTrivia_gap _ _ _ _ _ (by simp) isBlank_of_mem_space, BinaryOp.symbol,
        withoutTrivia_operator _ _ _ _ (stops _),
        withoutTrivia_leading_blanks _ _ _ _ isBlank_of_mem_space, withoutTrivia_trailing_space]
      obtain ⟨wholeLeft, inOrderLeft⟩ := ihLeft readable.1 (column + [' '].length)
      obtain ⟨wholeRight, inOrderRight⟩ := ihRight readable.2 _
      constructor
      · rw [Transcript.failure_append_eq_none_iff]
        exact ⟨wholeLeft, wholeRight⟩
      · rw [Transcript.tokens_append _ _ wholeLeft]
        exact .binary op.ofKind?_operator inOrderLeft inOrderRight

end Expression

theorem sourceTranscript_ungrouped (expression : Expression) (readable : expression.Readable)
    (terminator : Terminator) :
    sourceTranscript expression.ungrouped ⟨terminator, true⟩ =
      (lineTranscript 1 1 expression.ungrouped.toList).withoutTrivia := by
  have single : ∀ text ∈ [expression.ungrouped.toList], '\n' ∉ text := by
    intro text only feed
    obtain rfl := List.mem_singleton.mp only
    have space := expression.blank_of_mem_ungrouped readable '\n' feed (by decide)
    exact absurd space (by decide)
  have page := pageTranscript_join terminator [expression.ungrouped.toList] single
  have same : terminator.join [expression.ungrouped.toList] = expression.ungrouped := by
    rw [Terminator.join, List.intercalate_singleton, String.ofList_toList]
  rw [same] at page
  calc sourceTranscript expression.ungrouped ⟨terminator, true⟩
      = (pageTranscript 1 (terminator.lines expression.ungrouped.toList)).withoutTrivia := rfl
    _ = (pageTranscript 1 [expression.ungrouped.toList]).withoutTrivia := by rw [page]
    _ = (lineTranscript 1 1 expression.ungrouped.toList).withoutTrivia := by
        rw [pageTranscript, pageTranscript, Transcript.append_finished]
        rfl

theorem tokenize_ungrouped (expression : Expression) (readable : expression.Readable)
    (terminator : Terminator) :
    ∃ tokens, tokenize expression.ungrouped ⟨terminator, true⟩ = .ok tokens ∧
      tokens.length = expression.nodeCount ∧ (∀ token ∈ tokens, token.line = 1) ∧
      expression.ReadInOrder tokens := by
  obtain ⟨whole, inOrder⟩ := expression.readFrom_ungrouped readable 1 1
  refine ⟨(lineTranscript 1 1 expression.ungrouped.toList).withoutTrivia.tokens, ?_,
    inOrder.length, ?_, inOrder⟩
  · rw [tokenize_eq, sourceTranscript_ungrouped expression readable, Transcript.result_eq_ok_iff]
    exact ⟨whole, rfl⟩
  · intro token member
    exact line_of_lineTranscript 1 1 _ token (List.mem_filter.mp member).1

theorem tokenize_ungrouped_nested :
    (Expression.unary .not (.binary .assign (.name "a") (.unary .neg (.literal 7)))).Readable ∧
      ∃ tokens, tokenize " ! a =  -7   " ⟨.crlf, true⟩ = .ok tokens ∧ tokens.length = 5 ∧
        (∀ token ∈ tokens, token.line = 1) ∧
        (Expression.unary .not
          (.binary .assign (.name "a") (.unary .neg (.literal 7)))).ReadInOrder tokens := by
  have readable :
      (Expression.unary .not (.binary .assign (.name "a") (.unary .neg (.literal 7)))).Readable := by
    decide +kernel
  have written :
      (Expression.unary .not (.binary .assign (.name "a") (.unary .neg (.literal 7)))).ungrouped =
        " ! a =  -7   " := by
    decide +kernel
  have lexed := tokenize_ungrouped _ readable .crlf
  rw [written] at lexed
  exact ⟨readable, lexed⟩

end QueryLexer

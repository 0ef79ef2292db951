import QueryLexer.Proofs.Token.Spelling

/-!
Operators are recognized by longest match. Which operators begin with a character is laid down by
`OperatorForm.ofChar?`, how an operator is written by its symbol; the two agree whatever follows. Of the
operators whose symbols stand at the head of the line ahead, the one with the longest symbol is taken, and
there is a match if there is one of them at all. A symbol does not go on behind a line end, so the second
character of one has to stand on the line of the first.
-/

namespace QueryLexer

namespace Kind

/-- The kind is an operator, and its symbol stands at the head of the text. -/
def OperatorAt (text : List Char) (symbol : String) (kind : Kind) : Prop :=
  kind.isOperator = true ∧ kind.symbol? = some symbol ∧ symbol.toList <+: text

/-- The kind is an operator at the head of the text, and every other one there has a shorter symbol. -/
def LongestOperatorAt (text : List Char) (symbol : String) (kind : Kind) : Prop :=
  kind.OperatorAt text symbol ∧
    ∀ other shorter, other.OperatorAt text shorter → other = kind ∨ shorter.length < symbol.length

theorem operatorAt_iff (text : List Char) (symbol : String) (kind : Kind) :
    kind.OperatorAt text symbol ↔
      ∃ op : Operator, kind = .operator op ∧ symbol = op.symbol ∧ op.symbol.toList <+: text := by
  constructor
  · rintro ⟨isOperator, named, begins⟩
    cases kind with
    | operator op =>
        obtain rfl : op.symbol = symbol := Option.some.inj named
        exact ⟨op, rfl, rfl, begins⟩
    | keyword word => cases isOperator
    | integer => cases isOperator
    | identifier => cases isOperator
    | space => cases isOperator
  · rintro ⟨op, rfl, rfl, begins⟩
    exact ⟨rfl, rfl, begins⟩

end Kind

namespace Operator

theorem mem_all (op : Operator) : op ∈ all := by
  cases op <;> decide

-- All that can stand between two symbols of which one begins the other is an equality sign.
theorem eq_or_equal_follows (first second : Operator) (begins : first.symbol.toList <+: second.symbol.toList) :
    first = second ∨
      first.takesEqual = true ∧ second.symbol.toList = first.symbol.toList ++ ['='] := by
  have table : ∀ first ∈ all, ∀ second ∈ all, first.symbol.toList <+: second.symbol.toList →
      first = second ∨
        first.takesEqual = true ∧ second.symbol.toList = first.symbol.toList ++ ['='] := by
    decide +kernel
  exact table first first.mem_all second second.mem_all begins

theorem exists_with_equal (op : Operator) (takes : op.takesEqual = true) :
    ∃ compound : Operator, compound.symbol.toList = op.symbol.toList ++ ['='] ∧
      compound.takesEqual = false := by
  have table : ∀ op ∈ all, op.takesEqual = true → ∃ compound ∈ all,
      compound.symbol.toList = op.symbol.toList ++ ['='] ∧ compound.takesEqual = false := by
    decide +kernel
  obtain ⟨compound, _, found⟩ := table op op.mem_all takes
  exact ⟨compound, found⟩

-- An operator that its text does not stop goes on with an equality sign, and is another one with it.
theorem exists_stopped (op : Operator) (rest : List Char) :
    ∃ (taken : Operator) (later : List Char),
      op.symbol.toList ++ rest = taken.symbol.toList ++ later ∧ (Kind.operator taken).StopsAt later := by
  by_cases goesOn : op.takesEqual = true ∧ rest.head? = some '='
  · obtain ⟨takes, equal⟩ := goesOn
    obtain ⟨later, rfl⟩ := List.head?_eq_some_iff.mp equal
    obtain ⟨compound, symbol, single⟩ := op.exists_with_equal takes
    refine ⟨compound, later, ?_, ?_⟩
    · rw [symbol, List.append_assoc, List.singleton_append]
    · intro next _
      simp [Kind.absorbs, single]
  · refine ⟨op, rest, rfl, ?_⟩
    intro next first
    by_cases takes : op.takesEqual = true
    · have unequal : next ≠ '=' := by
        rintro rfl
        exact goesOn ⟨takes, first⟩
      simp [Kind.absorbs, unequal]
    · simp [Kind.absorbs, takes]

theorem eq_or_shorter (taken other : Operator) (rest : List Char)
    (stops : (Kind.operator taken).StopsAt rest)
    (begins : other.symbol.toList <+: taken.symbol.toList ++ rest) :
    other = taken ∨ other.symbol.length < taken.symbol.length := by
  rcases List.prefix_or_prefix_of_prefix begins (List.prefix_append taken.symbol.toList rest) with
    short | long
  · rcases eq_or_equal_follows other taken short with same | ⟨_, symbol⟩
    · exact Or.inl same
    · right
      rw [← String.length_toList, ← String.length_toList, symbol, List.length_append]
      exact Nat.lt_succ_self _
  · rcases eq_or_equal_follows taken other long with same | ⟨takes, symbol⟩
    · exact Or.inl same.symm
    · -- The longer symbol would take the equality sign at which the shorter one stopped.
      rw [symbol, List.prefix_append_right_inj, List.singleton_prefix_iff_head?_eq_some] at begins
      have absorbed := stops '=' begins
      simp [Kind.absorbs, takes] at absorbed

end Operator

theorem longestOperatorAt_of_operatorAt? (text : List Char) (found : Match)
    (recognized : operatorAt? text = some found) :
    ∃ symbol, found.kind.LongestOperatorAt text symbol ∧ found.lexeme = "" ∧
      found.consumed = symbol.length := by
  obtain ⟨op, rest, rfl, rfl, stops⟩ := written_of_operatorAt? text found recognized
  refine ⟨op.symbol, ⟨⟨rfl, rfl, List.prefix_append _ _⟩, ?_⟩, rfl, String.length_toList⟩
  intro other shorter there
  obtain ⟨second, rfl, rfl, begins⟩ := (Kind.operatorAt_iff _ _ _).mp there
  rcases op.eq_or_shorter second rest stops begins with rfl | less
  · exact Or.inl rfl
  · exact Or.inr less

theorem isSome_operatorAt?_iff (text : List Char) :
    (operatorAt? text).isSome = true ↔ ∃ kind symbol, Kind.OperatorAt text symbol kind := by
  constructor
  · intro some
    obtain ⟨found, recognized⟩ := Option.isSome_iff_exists.mp some
    obtain ⟨symbol, longest, _⟩ := longestOperatorAt_of_operatorAt? text found recognized
    exact ⟨found.kind, symbol, longest.1⟩
  · rintro ⟨kind, symbol, there⟩
    obtain ⟨op, _, _, rest, rfl⟩ := (Kind.operatorAt_iff _ _ _).mp there
    obtain ⟨taken, later, same, stops⟩ := op.exists_stopped rest
    rw [same, operatorAt?_symbol taken later stops]
    rfl

theorem operator_is_longest_symbol (cursor : Cursor) :
    let tried := Classifier.operator.attempt cursor
    (tried.1.isSome = true ↔ ∃ position kind symbol, cursor.nextPosition? = some position ∧
      Kind.OperatorAt (cursor.lineFrom position) symbol kind) ∧
    ∀ found after, tried = (some found, after) →
      ∃ position symbol, cursor.nextPosition? = some position ∧
        found.kind.LongestOperatorAt (cursor.lineFrom position) symbol ∧ found.lexeme = "" ∧
        found.consumed = symbol.length ∧
        after = { cursor with line := position.line, column := position.column + symbol.length } := by
  intro tried
  have outcome : tried = _ := Classifier.attempt_eq .operator cursor
  rw [Classifier.matchAt?] at outcome
  cases found : cursor.nextPosition? with
  | none =>
      have ended : cursor.textAhead = [] := (cursor.textAhead_eq_nil_iff).mpr found
      rw [ended] at outcome
      rw [outcome]
      simp [operatorAt?]
  | some position =>
      rw [cursor.textAhead_eq_lineFrom position found] at outcome
      have matched : tried.1 = operatorAt? (cursor.lineFrom position) := by
        rw [outcome]
        cases operatorAt? (cursor.lineFrom position) <;> rfl
      constructor
      · rw [matched, isSome_operatorAt?_iff]
        simp
      · intro token after taken
        rw [taken] at matched outcome
        rw [← matched] at outcome
        obtain ⟨symbol, longest, lexeme, consumed⟩ :=
          longestOperatorAt_of_operatorAt? _ token matched.symm
        refine ⟨position, symbol, rfl, longest, lexeme, consumed, ?_⟩
        rw [(Prod.mk.inj outcome).2, ← consumed, cursor.settled_moved position _ found]

-- From the end of a line over a blank one to three signs, of which two are taken.
theorem operator_is_longest_symbol_behind_blank_line :
    Classifier.operator.attempt ⟨[['x'], [], ['>', '=', '=']], 0, 1⟩ =
        (some ⟨.operator .greaterOrEqual, "", 2⟩, ⟨[['x'], [], ['>', '=', '=']], 2, 2⟩) ∧
      ∃ symbol, Kind.LongestOperatorAt ['>', '=', '='] symbol (.operator .greaterOrEqual) ∧
        symbol.length = 2 := by
  have taken : Classifier.operator.attempt ⟨[['x'], [], ['>', '=', '=']], 0, 1⟩ =
      (some ⟨.operator .greaterOrEqual, "", 2⟩, ⟨[['x'], [], ['>', '=', '=']], 2, 2⟩) := by
    decide
  obtain ⟨position, symbol, found, longest, _, consumed, _⟩ :=
    (operator_is_longest_symbol ⟨[['x'], [], ['>', '=', '=']], 0, 1⟩).2 _ _ taken
  obtain rfl : ⟨2, 0⟩ = position := Option.some.inj found
  exact ⟨taken, symbol, longest, consumed.symm⟩

end QueryLexer

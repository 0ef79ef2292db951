import QueryLexer.Proofs.Token.Recognition

/-!
How tokens are written. `Kind.Written` says which characters stand for a token, and `Kind.absorbs` which
character right behind it would be read as part of it. A text begins with a token exactly if it begins
with characters that are written for it and the next character is not absorbed.
-/

namespace QueryLexer

/-- An operator that `=` turns into another one. -/
def Operator.takesEqual : Operator → Bool
  | assignment | not | greaterThan | lessThan => true
  | _ => false

/-- One character that begins a name, then characters that go on with it. -/
def IsName (word : List Char) : Prop :=
  ∃ c later, word = c :: later ∧ Text.startsName c = true ∧ ∀ d ∈ later, Text.continuesName d = true

instance : DecidablePred IsName
  | [] => isFalse (by rintro ⟨_, _, same, _⟩; cases same)
  | c :: later => decidable_of_iff
      (Text.startsName c = true ∧ later.all Text.continuesName = true)
      ⟨fun ⟨starts, continues⟩ => ⟨c, later, rfl, starts, List.all_eq_true.mp continues⟩,
        by rintro ⟨_, _, ⟨⟩, starts, continues⟩; exact ⟨starts, List.all_eq_true.mpr continues⟩⟩

namespace Kind

/-- Would `next`, right behind a token of this kind, be read as part of it? -/
def absorbs : Kind → Char → Bool
  | keyword _, next => Text.continuesName next
  | identifier, next => Text.continuesName next
  | integer, next => Text.isDigit next
  | operator op, next => op.takesEqual && next == '='
  | space, _ => false

/-- Is a token of this kind, with this lexeme, written as `chars`? -/
def Written (lexeme : String) (chars : List Char) : Kind → Prop
  | space => lexeme = "" ∧ ∃ c, chars = [c] ∧ Text.isBlank c = true
  | operator op => lexeme = "" ∧ chars = op.symbol.toList
  | keyword word => lexeme = String.ofList chars ∧ Keyword.ofWord? chars = some word
  | identifier => lexeme = String.ofList chars ∧ IsName chars ∧ Keyword.ofWord? chars = none
  | integer => lexeme = String.ofList chars ∧ chars ≠ [] ∧ ∀ c ∈ chars, Text.isDigit c = true

end Kind

/-- A token of this kind ends in front of `rest`. -/
def Kind.StopsAt (kind : Kind) (rest : List Char) : Prop := ∀ next ∈ rest.head?, kind.absorbs next = false

theorem Kind.StopsAt.of_append {kind : Kind} {text more : List Char} (stops : kind.StopsAt (text ++ more)) :
    kind.StopsAt text := by
  intro next first
  rcases List.head?_eq_some_iff.mp first with ⟨later, rfl⟩
  exact stops next rfl

theorem Kind.StopsAt.before_more {kind : Kind} {rest : List Char} (stops : kind.StopsAt rest)
    (more : List Char) (inside : rest ≠ []) : kind.StopsAt (rest ++ more) := by
  cases rest with
  | nil => exact absurd rfl inside
  | cons c later => exact stops

namespace OperatorForm

theorem symbol_of_alone (c : Char) (op : Operator) (form : ofChar? c = some (.alone op)) :
    op.symbol.toList = [c] ∧ op.takesEqual = false := by
  unfold ofChar? at form
  split at form <;> simp_all <;> subst form <;> decide

theorem symbol_of_withEqual (c : Char) (bare compound : Operator)
    (form : ofChar? c = some (.withEqual bare compound)) :
    bare.symbol.toList = [c] ∧ compound.symbol.toList = [c, '='] ∧ compound.takesEqual = false := by
  unfold ofChar? at form
  split at form <;> simp_all <;> obtain ⟨rfl, rfl⟩ := form <;> decide

theorem symbol_of_doubled (c : Char) (op : Operator) (form : ofChar? c = some (.doubled op)) :
    op.symbol.toList = [c, c] ∧ op.takesEqual = false := by
  unfold ofChar? at form
  split at form <;> simp_all <;> subst form <;> decide

end OperatorForm

theorem written_of_operatorAt? (text : List Char) (found : Match)
    (recognized : operatorAt? text = some found) :
    ∃ op rest, text = op.symbol.toList ++ rest ∧
      found = .ofOperator op op.symbol.toList.length ∧ (Kind.operator op).StopsAt rest := by
  cases text with
  | nil => simp [operatorAt?] at recognized
  | cons c later =>
      simp only [operatorAt?] at recognized
      split at recognized
      case h_1 op form =>
        obtain ⟨symbol, single⟩ := OperatorForm.symbol_of_alone c op form
        cases recognized
        exact ⟨op, later, by simp [symbol], by simp [symbol], by simp [Kind.StopsAt, Kind.absorbs, single]⟩
      case h_2 bare compound form =>
        obtain ⟨symbol, pair, closed⟩ := OperatorForm.symbol_of_withEqual c bare compound form
        split at recognized
        case isTrue equal =>
          obtain ⟨rest, rfl⟩ := List.head?_eq_some_iff.mp equal
          cases recognized
          exact ⟨compound, rest, by simp [pair], by simp [pair],
            by simp [Kind.StopsAt, Kind.absorbs, closed]⟩
        case isFalse other =>
          cases recognized
          refine ⟨bare, later, by simp [symbol], by simp [symbol], ?_⟩
          intro next first
          have unequal : next ≠ '=' := by
            rintro rfl
            exact other first
          simp [Kind.absorbs, unequal]
      case h_3 op form =>
        obtain ⟨symbol, closed⟩ := OperatorForm.symbol_of_doubled c op form
        split at recognized
        case isTrue again =>
          obtain ⟨rest, rfl⟩ := List.head?_eq_some_iff.mp again
          cases recognized
          exact ⟨op, rest, by simp [symbol], by simp [symbol],
            by simp [Kind.StopsAt, Kind.absorbs, closed]⟩
        case isFalse => simp at recognized
      case h_4 => simp at recognized

theorem operatorAt?_symbol (op : Operator) (rest : List Char)
    (stops : (Kind.operator op).StopsAt rest) :
    operatorAt? (op.symbol.toList ++ rest) = some (.ofOperator op op.symbol.toList.length) := by
  have unequal : op.takesEqual = true → rest.head? ≠ some '=' := by
    intro takes first
    have absorbed := stops '=' first
    simp [Kind.absorbs, takes] at absorbed
  cases op
  all_goals simp_all [operatorAt?, Operator.symbol, OperatorForm.ofChar?, Operator.takesEqual]

theorem takeWhile_stops (accept : Char → Bool) (run rest : List Char)
    (inside : ∀ c ∈ run, accept c = true) (stops : ∀ next ∈ rest.head?, accept next = false) :
    (run ++ rest).takeWhile accept = run := by
  rw [List.takeWhile_append_of_pos inside]
  cases rest with
  | nil => simp
  | cons next later => simp [stops next (by simp)]

theorem stops_dropWhile (accept : Char → Bool) (text : List Char) :
    ∀ next ∈ (text.dropWhile accept).head?, accept next = false := by
  intro next first
  have outside := List.head?_dropWhile_not accept text
  rw [Option.mem_def.mp first] at outside
  exact outside

theorem isName_of_ofWord? (word : List Char) (spelled : Keyword)
    (found : Keyword.ofWord? word = some spelled) : IsName word := by
  obtain ⟨nonempty, letters⟩ := Keyword.letters_of_ofWord? word spelled found
  obtain ⟨c, later, rfl⟩ := List.exists_cons_of_ne_nil nonempty
  refine ⟨c, later, rfl, ?_, ?_⟩
  · exact Text.startsName_of_isLetter c (letters c (by simp))
  · intro d member
    exact Text.continuesName_of_isLetter d (letters d (by simp [member]))

theorem written_wordKind (word : List Char) (named : IsName word) :
    (wordKind word).Written (String.ofList word) word := by
  unfold wordKind
  cases spells : Keyword.ofWord? word with
  | none => exact ⟨rfl, named, spells⟩
  | some spelled => exact ⟨rfl, spells⟩

theorem absorbs_wordKind (word : List Char) : (wordKind word).absorbs = Text.continuesName := by
  unfold wordKind
  cases Keyword.ofWord? word <;> rfl

theorem written_of_tokenAt? (text : List Char) (found : Match)
    (recognized : tokenAt? text = some found) :
    ∃ chars rest, text = chars ++ rest ∧ found.kind.Written found.lexeme chars ∧
      found.consumed = chars.length ∧ found.kind.StopsAt rest := by
  cases text with
  | nil => simp [tokenAt?] at recognized
  | cons c later =>
      simp only [tokenAt?] at recognized
      split at recognized
      case isTrue blank =>
        cases recognized
        exact ⟨[c], later, rfl, ⟨rfl, c, rfl, blank⟩, rfl, by simp [Kind.StopsAt, Kind.absorbs]⟩
      split at recognized
      case isTrue starts =>
        cases recognized
        refine ⟨c :: later.takeWhile Text.continuesName,
          later.dropWhile Text.continuesName, ?_, ?_, rfl, ?_⟩
        · simp
        · refine written_wordKind _ ⟨c, _, rfl, starts, ?_⟩
          intro d member
          exact List.mem_takeWhile_imp member
        · rw [Kind.StopsAt, Match.ofRun, absorbs_wordKind]
          exact stops_dropWhile Text.continuesName later
      split at recognized
      case isTrue digit =>
        cases recognized
        refine ⟨c :: later.takeWhile Text.isDigit, later.dropWhile Text.isDigit, ?_, ?_, rfl, ?_⟩
        · simp
        · refine ⟨rfl, by simp, ?_⟩
          intro d member
          rcases List.mem_cons.mp member with rfl | inRun
          · exact digit
          · exact List.mem_takeWhile_imp inRun
        · exact stops_dropWhile Text.isDigit later
      case isFalse =>
        obtain ⟨op, rest, whole, rfl, stops⟩ := written_of_operatorAt? _ _ recognized
        exact ⟨op.symbol.toList, rest, whole, ⟨rfl, rfl⟩, rfl, stops⟩

theorem tokenAt?_word (word rest : List Char) (named : IsName word)
    (stops : ∀ next ∈ rest.head?, Text.continuesName next = false) :
    tokenAt? (word ++ rest) = some (.ofRun (wordKind word) word) := by
  obtain ⟨c, later, rfl, starts, continues⟩ := named
  have run : (later ++ rest).takeWhile Text.continuesName = later :=
    takeWhile_stops _ later rest continues stops
  simp [tokenAt?, Text.isBlank_startsName c starts, starts, run]

theorem tokenAt?_digits (digits rest : List Char) (nonempty : digits ≠ [])
    (inside : ∀ c ∈ digits, Text.isDigit c = true)
    (stops : ∀ next ∈ rest.head?, Text.isDigit next = false) :
    tokenAt? (digits ++ rest) = some (.ofRun .integer digits) := by
  obtain ⟨c, later, rfl⟩ := List.exists_cons_of_ne_nil nonempty
  have digit : Text.isDigit c = true := inside c (by simp)
  have run : (later ++ rest).takeWhile Text.isDigit = later :=
    takeWhile_stops _ later rest (fun d member => inside d (by simp [member])) stops
  simp [tokenAt?, Text.isBlank_digit c digit, Text.startsName_digit c digit, digit, run]

theorem Operator.symbol_chars (op : Operator) :
    op.symbol.toList ≠ [] ∧ ∀ c ∈ op.symbol.toList, c ∈ Text.operatorChars := by
  have table : op.symbol.toList.all (fun c => decide (c ∈ Text.operatorChars)) = true := by
    cases op <;> decide
  constructor
  · cases op <;> decide
  · intro c member
    simpa using List.all_eq_true.mp table c member

theorem tokenAt?_operator (op : Operator) (rest : List Char)
    (stops : (Kind.operator op).StopsAt rest) :
    tokenAt? (op.symbol.toList ++ rest) = some (.ofOperator op op.symbol.toList.length) := by
  rw [← operatorAt?_symbol op rest stops]
  obtain ⟨nonempty, inside⟩ := op.symbol_chars
  obtain ⟨c, later, symbol⟩ := List.exists_cons_of_ne_nil nonempty
  have first : c ∈ Text.operatorChars := inside c (by simp [symbol])
  simp [symbol, tokenAt?, Text.isBlank_operator c first, Text.startsName_operator c first,
    Text.isDigit_operator c first]

theorem tokenAt?_of_written (kind : Kind) (lexeme : String) (chars rest : List Char)
    (written : kind.Written lexeme chars) (stops : kind.StopsAt rest) :
    tokenAt? (chars ++ rest) = some ⟨kind, lexeme, chars.length⟩ := by
  cases kind with
  | space =>
      obtain ⟨rfl, c, rfl, blank⟩ := written
      simp [tokenAt?, blank]
  | operator op =>
      obtain ⟨rfl, rfl⟩ := written
      exact tokenAt?_operator op rest stops
  | keyword spelled =>
      obtain ⟨rfl, found⟩ := written
      rw [tokenAt?_word chars rest (isName_of_ofWord? chars spelled found) stops]
      simp [wordKind, found, Match.ofRun]
  | identifier =>
      obtain ⟨rfl, named, unreserved⟩ := written
      rw [tokenAt?_word chars rest named stops]
      simp [wordKind, unreserved, Match.ofRun]
  | integer =>
      obtain ⟨rfl, nonempty, inside⟩ := written
      exact tokenAt?_digits chars rest nonempty inside stops

theorem tokenAt?_eq_some_iff (text : List Char) (found : Match) :
    tokenAt? text = some found ↔
      ∃ chars rest, text = chars ++ rest ∧ found.kind.Written found.lexeme chars ∧
        found.consumed = chars.length ∧ found.kind.StopsAt rest := by
  constructor
  · exact written_of_tokenAt? text found
  · rintro ⟨chars, rest, rfl, written, taken, stops⟩
    rw [tokenAt?_of_written found.kind found.lexeme chars rest written stops, ← taken]

theorem Kind.Written.ne_nil {kind : Kind} {lexeme : String} {chars : List Char}
    (written : kind.Written lexeme chars) : chars ≠ [] := by
  cases kind with
  | space =>
      obtain ⟨_, c, rfl, _⟩ := written
      simp
  | operator op =>
      rw [written.2]
      exact op.symbol_chars.1
  | keyword spelled => exact (Keyword.letters_of_ofWord? chars spelled written.2).1
  | identifier =>
      obtain ⟨_, ⟨c, later, rfl, _⟩, _⟩ := written
      simp
  | integer => exact written.2.1

end QueryLexer

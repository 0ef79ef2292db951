import Mathlib.Data.List.TakeWhile
import QueryLexer.Proofs.Source.Settled
import QueryLexer.Proofs.Text.Classes

/-!
Recognizing a token in a text. What a classifier does depends only on `textAhead`, the rest of the line
on which the next character stands, and a match moves the settled cursor over its characters. For the
classifiers in their usual order the match is the one of `tokenAt?`, which looks at the first character
and takes the longest run.
-/

namespace QueryLexer

/-- A character that satisfies `first` and the run behind it that satisfies `more`. -/
def wordAt? (first more : Char → Bool) : List Char → Option (List Char)
  | [] => none
  | c :: later => if first c then some (c :: later.takeWhile more) else none

def operatorAt? : List Char → Option Match
  | [] => none
  | c :: later =>
      match OperatorForm.ofChar? c with
      | some (.alone op) => some (.ofOperator op 1)
      | some (.withEqual bare compound) =>
          if later.head? = some '=' then some (.ofOperator compound 2) else some (.ofOperator bare 1)
      | some (.doubled op) => if later.head? = some c then some (.ofOperator op 2) else none
      | none => none

def keywordAt? (text : List Char) : Option Match :=
  match wordAt? Text.isLetter Text.isLetter text with
  | some word =>
      match Keyword.ofWord? word with
      | some spelled =>
          if text[word.length]?.any Text.continuesName then none
          else some (.ofRun (.keyword spelled) word)
      | none => none
  | none => none

namespace Classifier

/-- The token of this class at the head of a text. -/
def matchAt? : Classifier → List Char → Option Match
  | trivia, text => if text.head?.any Text.isBlank then some ⟨.space, "", 1⟩ else none
  | operator, text => operatorAt? text
  | keyword, text => keywordAt? text
  | identifier, text =>
      (wordAt? Text.startsName Text.continuesName text).map (.ofRun .identifier)
  | integer, text => (wordAt? Text.isDigit Text.isDigit text).map (.ofRun .integer)

end Classifier

theorem Cursor.takeWord?_eq (first more : Char → Bool) (cursor : Cursor) :
    cursor.takeWord? first more = (wordAt? first more cursor.textAhead).map fun run =>
      (run, cursor.settled.moved run.length) := by
  rw [Cursor.takeWord?, Cursor.read?_eq]
  cases text : cursor.textAhead with
  | nil => rfl
  | cons c later =>
      have behind : (cursor.settled.moved 1).restOfLine = later := by
        rw [Cursor.restOfLine_moved, ← Cursor.textAhead, text, List.drop_one, List.tail_cons]
      simp only [List.head?_cons, Option.map_some, wordAt?]
      split
      · simp [Cursor.takeRun_eq, behind, Nat.add_comm]
      · rfl

namespace Classifier

/-- The outcome of a classifier: `found`, and on a match the cursor behind it. -/
def Outcome (cursor : Cursor) (found : Option Match) (result : Option Match × Cursor) : Prop :=
  result.1 = found ∧ ∀ token, found = some token → result.2 = cursor.settled.moved token.consumed

theorem classifyTrivia_outcome (cursor : Cursor) :
    Outcome cursor (matchAt? trivia cursor.textAhead) (classifyTrivia cursor) := by
  rw [classifyTrivia, Cursor.read?_eq]
  cases cursor.textAhead with
  | nil => simp [Outcome, matchAt?]
  | cons c later => by_cases blank : Text.isBlank c = true <;> simp [Outcome, matchAt?, blank]

theorem classifyOperator_outcome (cursor : Cursor) :
    Outcome cursor (operatorAt? cursor.textAhead) (classifyOperator cursor) := by
  rw [classifyOperator, Cursor.read?_eq]
  cases text : cursor.textAhead with
  | nil => simp [Outcome, operatorAt?]
  | cons c later =>
      have behind : (cursor.settled.moved 1).restOfLine = later := by
        rw [Cursor.restOfLine_moved, ← Cursor.textAhead, text, List.drop_one, List.tail_cons]
      -- The second character of an operator is on the line, so `advance` is one more column.
      have second : later ≠ [] → (cursor.settled.moved 1).advance = cursor.settled.moved 2 := by
        intro more
        rw [Cursor.advance_of_restOfLine _ (by rwa [behind]), Cursor.moved_moved]
      have peeked : (cursor.settled.moved 1).peekInLine? = later.head? := by
        rw [Cursor.peekInLine?, behind]
      simp only [List.head?_cons, Option.map_some, operatorAt?]
      cases OperatorForm.ofChar? c with
      | none => simp [Outcome]
      | some form =>
          cases form with
          | alone op => simp [Outcome, Match.ofOperator]
          | withEqual bare compound =>
              by_cases equal : later.head? = some '='
              · have more : later ≠ [] := by rintro rfl; simp at equal
                simp [Outcome, Match.ofOperator, peeked, equal, second more]
              · simp [Outcome, Match.ofOperator, peeked, equal]
          | doubled op =>
              by_cases again : later.head? = some c
              · have more : later ≠ [] := by rintro rfl; simp at again
                simp [Outcome, Match.ofOperator, peeked, again, second more]
              · simp [Outcome, peeked, again]

theorem classifyKeyword_outcome (cursor : Cursor) :
    Outcome cursor (keywordAt? cursor.textAhead) (classifyKeyword cursor) := by
  rw [classifyKeyword, keywordAt?, Cursor.takeWord?_eq]
  cases wordAt? Text.isLetter Text.isLetter cursor.textAhead with
  | none => simp [Outcome]
  | some word =>
      have peeked : (cursor.settled.moved word.length).peekInLine? =
          cursor.textAhead[word.length]? := by
        rw [Cursor.peekInLine?, Cursor.restOfLine_moved, List.head?_drop, Cursor.textAhead]
      simp only [Option.map_some, peeked]
      cases Keyword.ofWord? word with
      | none => simp [Outcome]
      | some spelled =>
          by_cases goesOn : cursor.textAhead[word.length]?.any Text.continuesName = true
          · simp only [goesOn, if_true, Outcome]
            simp
          · simp only [goesOn, Outcome]
            simp [Match.ofRun]

theorem classifyRun_outcome (kind : Kind) (first more : Char → Bool) (cursor : Cursor) :
    Outcome cursor ((wordAt? first more cursor.textAhead).map (.ofRun kind))
      (classifyRun kind first more cursor) := by
  rw [classifyRun, Cursor.takeWord?_eq]
  cases wordAt? first more cursor.textAhead with
  | none => simp [Outcome]
  | some run => simp [Outcome, Match.ofRun]

theorem classify_outcome (classifier : Classifier) (cursor : Cursor) :
    Outcome cursor (classifier.matchAt? cursor.textAhead) (classifier.classify cursor) := by
  cases classifier with
  | trivia => exact classifyTrivia_outcome cursor
  | operator => exact classifyOperator_outcome cursor
  | keyword => exact classifyKeyword_outcome cursor
  | identifier => exact classifyRun_outcome .identifier _ _ cursor
  | integer => exact classifyRun_outcome .integer _ _ cursor

theorem attempt_eq (classifier : Classifier) (cursor : Cursor) : classifier.attempt cursor =
    match classifier.matchAt? cursor.textAhead with
    | some found => (some found, cursor.settled.moved found.consumed)
    | none => (none, cursor) := by
  obtain ⟨same, behind⟩ := classify_outcome classifier cursor
  cases outcome : classifier.classify cursor with
  | mk result after =>
      rw [outcome] at same behind
      cases found : classifier.matchAt? cursor.textAhead with
      | none =>
          obtain rfl := same.trans found
          have missed : classifier.attempt cursor = (none, after.restore cursor.snapshot) := by
            simp only [attempt, outcome]
          rw [missed, cursor_of_attempt_none classifier cursor _ missed]
      | some token =>
          obtain rfl := same.trans found
          have place : after = cursor.settled.moved token.consumed := behind token found
          simp only [attempt, outcome, place]

theorem inTurn_eq (order : List Classifier) (cursor : Cursor) : inTurn order cursor =
    match order.findSome? (·.matchAt? cursor.textAhead) with
    | some found => (some found, cursor.settled.moved found.consumed)
    | none => (none, cursor) := by
  induction order with
  | nil => rfl
  | cons classifier later ih =>
      rw [inTurn, attempt_eq, List.findSome?_cons]
      cases classifier.matchAt? cursor.textAhead with
      | none => exact ih
      | some token => rfl

theorem inTurn_eq_some_iff (order : List Classifier) (cursor after : Cursor) (found : Match) :
    inTurn order cursor = (some found, after) ↔
      order.findSome? (·.matchAt? cursor.textAhead) = some found ∧
        cursor.settled.moved found.consumed = after := by
  rw [inTurn_eq]
  cases order.findSome? (·.matchAt? cursor.textAhead) with
  | none => simp
  | some token =>
      simp only [Prod.mk.injEq, Option.some.injEq]
      constructor <;> rintro ⟨rfl, same⟩ <;> exact ⟨rfl, same⟩

end Classifier

-- A keyword is tried before a name, on the letters alone; looking up the whole run of a name comes to the
-- same.
def wordKind (word : List Char) : Kind :=
  match Keyword.ofWord? word with
  | some spelled => .keyword spelled
  | none => .identifier

/-- The token at the head of a text: the first character gives its class, and it is as long as it can be. -/
def tokenAt? : List Char → Option Match
  | [] => none
  | c :: later =>
      if Text.isBlank c then some ⟨.space, "", 1⟩
      else if Text.startsName c then
        let word := c :: later.takeWhile Text.continuesName
        some (.ofRun (wordKind word) word)
      else if Text.isDigit c then some (.ofRun .integer (c :: later.takeWhile Text.isDigit))
      else operatorAt? (c :: later)

-- Where no token begins: a character of no class, or a sign that has to be written twice and is not.
theorem tokenAt?_eq_none_iff (c : Char) (later : List Char) : tokenAt? (c :: later) = none ↔
    Text.isBlank c = false ∧ Text.startsName c = false ∧ Text.isDigit c = false ∧
      (OperatorForm.ofChar? c = none ∨
        ∃ op, OperatorForm.ofChar? c = some (.doubled op) ∧ later.head? ≠ some c) := by
  by_cases blank : Text.isBlank c = true
  · simp [tokenAt?, blank]
  by_cases starts : Text.startsName c = true
  · simp [tokenAt?, blank, starts]
  by_cases digit : Text.isDigit c = true
  · simp [tokenAt?, blank, starts, digit]
  cases formed : OperatorForm.ofChar? c with
  | none => simp [tokenAt?, operatorAt?, blank, starts, digit, formed]
  | some form =>
      cases form with
      | alone op => simp [tokenAt?, operatorAt?, blank, starts, digit, formed]
      | withEqual bare compound =>
          by_cases equal : later.head? = some '=' <;>
            simp [tokenAt?, operatorAt?, blank, starts, digit, formed, equal]
      | doubled op => simp [tokenAt?, operatorAt?, blank, starts, digit, formed]

theorem Keyword.letters_of_ofWord? (word : List Char) (spelled : Keyword)
    (found : Keyword.ofWord? word = some spelled) :
    word ≠ [] ∧ ∀ c ∈ word, Text.isLetter c = true := by
  have same : Text.foldCase spelled.symbol.toList = Text.foldCase word := by
    simpa [Keyword.spelledBy] using List.find?_some found
  have lower : (Text.foldCase spelled.symbol.toList).all (fun c => 97 ≤ c.toNat ∧ c.toNat ≤ 122) =
      true := by
    cases spelled <;> decide
  constructor
  · rintro rfl
    revert same
    cases spelled <;> decide
  · intro c member
    have folded : c.toLower ∈ Text.foldCase word := List.mem_map_of_mem member
    rw [← same] at folded
    exact Text.isLetter_of_toLower c (by simpa using List.all_eq_true.mp lower _ folded)

-- Taking by the wider test takes no more exactly if the narrower run is not followed by more of the wider.
theorem takeWhile_wider_iff (narrow wide : Char → Bool) (wider : ∀ c, narrow c = true → wide c = true)
    (text : List Char) :
    text[(text.takeWhile narrow).length]?.any wide = false ↔
      text.takeWhile wide = text.takeWhile narrow := by
  induction text with
  | nil => simp
  | cons c later ih =>
      by_cases inside : narrow c = true
      · simpa [inside, wider c inside] using ih
      · by_cases outside : wide c = true <;> simp [inside, outside]

theorem keywordAt?_eq (c : Char) (later : List Char) :
    keywordAt? (c :: later) = (Keyword.ofWord? (c :: later.takeWhile Text.continuesName)).map
      fun spelled => .ofRun (.keyword spelled) (c :: later.takeWhile Text.continuesName) := by
  have wider := takeWhile_wider_iff _ _ Text.continuesName_of_isLetter later
  cases spells : Keyword.ofWord? (c :: later.takeWhile Text.continuesName) with
  | some spelled =>
      obtain ⟨_, letters⟩ := Keyword.letters_of_ofWord? _ _ spells
      have first : Text.isLetter c = true := letters c (by simp)
      have same : later.takeWhile Text.continuesName = later.takeWhile Text.isLetter := by
        have whole : (later.takeWhile Text.continuesName).takeWhile Text.isLetter =
            later.takeWhile Text.continuesName := by
          rw [List.takeWhile_eq_self_iff]
          intro d member
          exact letters d (by simp [member])
        rw [← whole, List.takeWhile_takeWhile]
        congr 1
        funext d
        simpa using Text.continuesName_of_isLetter d
      rw [same] at spells
      simp [keywordAt?, wordAt?, first, spells, wider.mpr same, same]
  | none =>
      by_cases first : Text.isLetter c = true
      · simp only [keywordAt?, wordAt?, first, if_true, List.length_cons, List.getElem?_cons_succ]
        by_cases goesOn : later[(later.takeWhile Text.isLetter).length]?.any Text.continuesName = true
        · cases Keyword.ofWord? (c :: later.takeWhile Text.isLetter) <;> simp [goesOn]
        · rw [wider.mp (by simpa using goesOn)] at spells
          simp [spells]
      · simp [keywordAt?, wordAt?, first]

theorem operatorAt?_of_not_mem (c : Char) (later : List Char) (other : c ∉ Text.operatorChars) :
    operatorAt? (c :: later) = none := by
  rw [Text.mem_operatorChars_iff] at other
  have none : OperatorForm.ofChar? c = .none := by simpa using other
  simp [operatorAt?, none]

theorem Classifier.findSome?_chain (text : List Char) :
    Classifier.chain.findSome? (·.matchAt? text) = tokenAt? text := by
  cases text with
  | nil => rfl
  | cons c later =>
      simp only [chain, List.findSome?_cons, List.findSome?_nil, matchAt?, tokenAt?, List.head?_cons,
        Option.any_some]
      by_cases blank : Text.isBlank c = true
      · simp [blank]
      by_cases starts : Text.startsName c = true
      · have other := Text.not_operator_startsName c starts
        simp only [blank, starts, operatorAt?_of_not_mem c later other, keywordAt?_eq c later,
          wordAt?, wordKind, if_true]
        cases Keyword.ofWord? (c :: later.takeWhile Text.continuesName) <;> simp
      have noWord : keywordAt? (c :: later) = none := by
        have letter : Text.isLetter c = false := by
          simp only [Text.startsName, Bool.or_eq_true, not_or] at starts
          simpa using starts.2
        simp [keywordAt?, wordAt?, letter]
      by_cases digit : Text.isDigit c = true
      · have other := Text.not_operator_digit c digit
        simp [blank, starts, digit, operatorAt?_of_not_mem c later other, noWord, wordAt?]
      · simp only [blank, starts, digit, noWord, wordAt?]
        cases operatorAt? (c :: later) <;> simp

theorem Classifier.inTurn_chain (cursor : Cursor) : inTurn chain cursor =
    match tokenAt? cursor.textAhead with
    | some found => (some found, cursor.settled.moved found.consumed)
    | none => (none, cursor) := by
  rw [inTurn_eq, findSome?_chain]

theorem Classifier.inTurn_chain_eq_some_iff (cursor after : Cursor) (found : Match) :
    inTurn chain cursor = (some found, after) ↔
      tokenAt? cursor.textAhead = some found ∧ cursor.settled.moved found.consumed = after := by
  rw [inTurn_eq_some_iff, findSome?_chain]

end QueryLexer

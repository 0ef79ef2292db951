import QueryLexer.Source.Cursor
import QueryLexer.Token.Basic

/-!
The five token classes and how each is recognized at a cursor. All but the first character of a token
are looked for on the line of the first, so no token crosses a line end.

A classifier that does not match may have read ahead and stepped back. Stepping back over a character
that was read across a line end stops at the start of the later line: the characters still to be read
are the same, the position is not. `attempt` puts the position back too.
-/

namespace QueryLexer

structure Match where
  kind : Kind
  lexeme : String
  consumed : Nat
  deriving DecidableEq, Repr

inductive OperatorForm where
  | alone (op : Operator)
  /-- The character is `bare`, or `compound` if `=` follows. -/
  | withEqual (bare compound : Operator)
  | doubled (op : Operator)
  deriving DecidableEq, Repr

def OperatorForm.ofChar? : Char → Option OperatorForm
  | '+' => some (.alone .plus)
  | '-' => some (.alone .minus)
  | '*' => some (.alone .multiplication)
  | '/' => some (.alone .division)
  | '%' => some (.alone .modulo)
  | '=' => some (.withEqual .assignment .equalTo)
  | '!' => some (.withEqual .not .notEqualTo)
  | '>' => some (.withEqual .greaterThan .greaterOrEqual)
  | '<' => some (.withEqual .lessThan .lessOrEqual)
  | '&' => some (.doubled .and)
  | '|' => some (.doubled .or)
  | _ => none

def Match.ofOperator (op : Operator) (consumed : Nat) : Match := ⟨.operator op, "", consumed⟩

def Match.ofRun (kind : Kind) (run : List Char) : Match := ⟨kind, String.ofList run, run.length⟩

/-- A character that satisfies `first` and the run behind it, on the same line, that satisfies `more`. -/
def Cursor.takeWord? (first more : Char → Bool) (cursor : Cursor) : Option (List Char × Cursor) :=
  match cursor.read? with
  | some (c, after) =>
      if first c then some (c :: (after.takeRun more).1, (after.takeRun more).2) else none
  | none => none

inductive Classifier where
  | trivia | operator | keyword | identifier | integer
  deriving DecidableEq, Repr

namespace Classifier

def chain : List Classifier := [trivia, operator, keyword, identifier, integer]

def name : Classifier → String
  | trivia => "trivia"
  | operator => "operator"
  | keyword => "keyword"
  | identifier => "identifier"
  | integer => "integer"

def ofName? (name : String) : Option Classifier := chain.find? (·.name == name)

def classifyTrivia (cursor : Cursor) : Option Match × Cursor :=
  match cursor.read? with
  | some (c, after) => if Text.isBlank c then (some ⟨.space, "", 1⟩, after) else (none, cursor)
  | none => (none, cursor)

def classifyOperator (cursor : Cursor) : Option Match × Cursor :=
  match cursor.read? with
  | some (c, after) =>
      match OperatorForm.ofChar? c with
      | some (.alone op) => (some (.ofOperator op 1), after)
      | some (.withEqual bare compound) =>
          if after.peekInLine? = some '=' then (some (.ofOperator compound 2), after.advance)
          else (some (.ofOperator bare 1), after)
      | some (.doubled op) =>
          if after.peekInLine? = some c then (some (.ofOperator op 2), after.advance)
          else (none, after.unread)
      | none => (none, cursor)
  | none => (none, cursor)

/-- The longest run of letters, if it spells a keyword and no name goes on behind it. -/
def classifyKeyword (cursor : Cursor) : Option Match × Cursor :=
  match cursor.takeWord? Text.isLetter Text.isLetter with
  | some (word, after) =>
      match Keyword.ofWord? word with
      | some spelled =>
          if after.peekInLine?.any Text.continuesName then (none, after.unreadSpan word.length)
          else (some (.ofRun (.keyword spelled) word), after)
      | none => (none, after.unreadSpan word.length)
  | none => (none, cursor)

def classifyRun (kind : Kind) (first more : Char → Bool) (cursor : Cursor) : Option Match × Cursor :=
  match cursor.takeWord? first more with
  | some (run, after) => (some (.ofRun kind run), after)
  | none => (none, cursor)

def classify : Classifier → Cursor → Option Match × Cursor
  | trivia => classifyTrivia
  | operator => classifyOperator
  | keyword => classifyKeyword
  | identifier => classifyRun .identifier Text.startsName Text.continuesName
  | integer => classifyRun .integer Text.isDigit Text.isDigit

/-- `classify`, with the cursor put back where it was if nothing matches. -/
def attempt (classifier : Classifier) (cursor : Cursor) : Option Match × Cursor :=
  match classifier.classify cursor with
  | (some found, after) => (some found, after)
  | (none, after) => (none, after.restore cursor.snapshot)

/-- The match of the first classifier of `order` that has one. Each is tried where the one before it has
left the cursor. -/
def inTurn : (order : List Classifier) → Cursor → Option Match × Cursor
  | [], cursor => (none, cursor)
  | classifier :: later, cursor =>
      match classifier.attempt cursor with
      | (some found, after) => (some found, after)
      | (none, after) => inTurn later after

theorem lines_of_takeWord? (first more : Char → Bool) (cursor after : Cursor) (run : List Char)
    (taken : cursor.takeWord? first more = some (run, after)) : after.lines = cursor.lines := by
  unfold Cursor.takeWord? at taken
  split at taken
  case h_2 => simp at taken
  case h_1 c behind read =>
    split at taken
    case isFalse => simp at taken
    case isTrue =>
      simp only [Option.some.injEq, Prod.mk.injEq] at taken
      rw [← taken.2]
      exact Cursor.lines_of_read? cursor behind c read

theorem lines_of_classify (classifier : Classifier) (cursor : Cursor) :
    (classifier.classify cursor).2.lines = cursor.lines := by
  cases classifier with
  | trivia =>
      simp only [classify, classifyTrivia]
      grind [Cursor.lines_of_read?]
  | operator =>
      simp only [classify, classifyOperator, Cursor.unread]
      grind [Cursor.lines_of_read?, Cursor.lines_of_advance]
  | keyword =>
      simp only [classify, classifyKeyword]
      grind [lines_of_takeWord?, Cursor.lines_of_unreadSpan]
  | identifier =>
      simp only [classify, classifyRun]
      grind [lines_of_takeWord?]
  | integer =>
      simp only [classify, classifyRun]
      grind [lines_of_takeWord?]

theorem cursor_of_attempt_none (classifier : Classifier) (cursor after : Cursor)
    (missed : classifier.attempt cursor = (none, after)) : after = cursor := by
  have same := lines_of_classify classifier cursor
  unfold attempt at missed
  split at missed
  case h_1 => simp at missed
  case h_2 behind outcome =>
    rw [outcome] at same
    rw [← (Prod.mk.inj missed).2]
    simp only [Cursor.restore, Cursor.snapshot]
    rw [show behind.lines = cursor.lines from same]

theorem rest_of_takeWord? (first more : Char → Bool) (cursor after : Cursor) (run : List Char)
    (taken : cursor.takeWord? first more = some (run, after)) :
    cursor.rest = run ++ after.rest ∧ run ≠ [] := by
  unfold Cursor.takeWord? at taken
  split at taken
  case h_2 => simp at taken
  case h_1 c behind read =>
    split at taken
    case isFalse => simp at taken
    case isTrue =>
      simp only [Option.some.injEq, Prod.mk.injEq] at taken
      obtain ⟨rfl, rfl⟩ := taken
      rw [Cursor.rest_of_read? _ _ _ read, Cursor.rest_of_takeRun more behind]
      simp

theorem rest_lt_of_classify (classifier : Classifier) (cursor after : Cursor) (found : Match)
    (matched : classifier.classify cursor = (some found, after)) :
    after.rest.length < cursor.rest.length := by
  have word : ∀ first more run, cursor.takeWord? first more = some (run, after) →
      after.rest.length < cursor.rest.length := by
    intro first more run taken
    obtain ⟨whole, nonempty⟩ := rest_of_takeWord? _ _ _ _ _ taken
    have := List.length_pos_iff.mpr nonempty
    rw [whole, List.length_append]
    omega
  have char : ∀ c behind, cursor.read? = some (c, behind) →
      behind.rest.length < cursor.rest.length := by
    intro c behind read
    rw [Cursor.rest_of_read? _ _ _ read]
    simp
  cases classifier with
  | trivia =>
      simp only [classify, classifyTrivia] at matched
      grind
  | operator =>
      simp only [classify, classifyOperator] at matched
      grind [Cursor.rest_of_advance_le]
  | keyword =>
      simp only [classify, classifyKeyword] at matched
      grind
  | identifier =>
      simp only [classify, classifyRun] at matched
      grind
  | integer =>
      simp only [classify, classifyRun] at matched
      grind

theorem rest_lt_of_attempt (classifier : Classifier) (cursor after : Cursor) (found : Match)
    (matched : classifier.attempt cursor = (some found, after)) :
    after.rest.length < cursor.rest.length := by
  unfold attempt at matched
  split at matched
  case h_1 first behind outcome =>
    obtain ⟨rfl, rfl⟩ : first = found ∧ behind = after := by simpa using matched
    exact rest_lt_of_classify classifier cursor behind first outcome
  case h_2 => simp at matched

theorem rest_lt_of_inTurn (order : List Classifier) (cursor after : Cursor) (found : Match)
    (matched : inTurn order cursor = (some found, after)) :
    after.rest.length < cursor.rest.length := by
  fun_induction inTurn order cursor with
  | case1 => simp at matched
  | case2 classifier later cursor first behind taken =>
      obtain ⟨rfl, rfl⟩ : first = found ∧ behind = after := by simpa using matched
      exact rest_lt_of_attempt classifier cursor behind first taken
  | case3 classifier later cursor behind missed ih =>
      obtain rfl := cursor_of_attempt_none classifier cursor behind missed
      exact ih matched

theorem cursor_of_inTurn_none (order : List Classifier) (cursor after : Cursor)
    (missed : inTurn order cursor = (none, after)) : after = cursor := by
  fun_induction inTurn order cursor with
  | case1 => simpa using missed.symm
  | case2 => simp at missed
  | case3 classifier later cursor behind unmatched ih =>
      obtain rfl := cursor_of_attempt_none classifier cursor behind unmatched
      exact ih missed

end Classifier

end QueryLexer

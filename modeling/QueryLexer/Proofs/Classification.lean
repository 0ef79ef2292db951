import QueryLexer.Proofs.FlatCursor
import QueryLexer.Proofs.Token.Spelling

/-!
What a classifier promises, wherever the calls to a cursor have led. A match takes the next characters, at
least one: its lexeme is these characters, or empty for blanks and operators, and the cursor is right behind
them, on their line. Without a match the cursor is at the same place, but maybe not at the same position: a
step back over a character that was read across line ends stops behind these. So it is `attempt` that puts
the position back.

Two things must not happen: a step back at the start of the source, and a miss that leaves the cursor at
another place. With a guard against both, all classifiers do what they do without.
-/

namespace QueryLexer

namespace Classifier

def lexemeOf : Classifier → List Char → String
  | trivia, _ | operator, _ => ""
  | keyword, chars | identifier, chars | integer, chars => String.ofList chars

end Classifier

/-- The match takes the next characters, and `after` is right behind them. -/
structure Match.Takes (found : Match) (classifier : Classifier) (cursor after : Cursor) : Prop where
  nonempty : 1 ≤ found.consumed
  offset : after.offset = cursor.offset + found.consumed
  location : ∃ position, cursor.nextPosition? = some position ∧
    cursor.nextLocation? = some position.location ∧
    after.line = position.line ∧ after.column = position.column + found.consumed
  lexeme : ∃ chars, cursor.rest = chars ++ after.rest ∧ chars.length = found.consumed ∧
    found.lexeme = classifier.lexemeOf chars

/-- What a classifier promises about its answer at a cursor: a match takes characters, and without one the
place is the same, and by way of `attempt` the position too. -/
def Classifier.Promises (classifier : Classifier) (cursor : Cursor) (answer : Option Match × Cursor) : Prop :=
  match answer.1 with
  | some found => found.Takes classifier cursor answer.2
  | none => answer.2.offset = cursor.offset ∧ classifier.attempt cursor = (none, cursor)

-- Steps back with a guard; `none` says that it fired.
/-- The position one character before; before the first character there is none. -/
def guardedPrevious (lines : List (List Char)) : (line column : Nat) → Option Position
  | line, column + 1 => some ⟨line, column⟩
  | 0, 0 => none
  | line + 1, 0 => guardedPrevious lines line (lines[line]?.getD []).length

namespace Cursor

def guardedUnread (cursor : Cursor) : Option Cursor := do
  let position ← guardedPrevious cursor.lines cursor.line cursor.column
  return { cursor with line := position.line, column := position.column }

def guardedUnreadSpan : Nat → Cursor → Option Cursor
  | 0, cursor => some cursor
  | count + 1, cursor => do guardedUnreadSpan count (← cursor.guardedUnread)

end Cursor

namespace Classifier

def guardedOperator (cursor : Cursor) : Option (Option Match × Cursor) :=
  match cursor.read? with
  | some (c, after) =>
      match OperatorForm.ofChar? c with
      | some (.alone op) => return (some (.ofOperator op 1), after)
      | some (.withEqual bare compound) =>
          if after.peekInLine? = some '=' then return (some (.ofOperator compound 2), after.advance)
          else return (some (.ofOperator bare 1), after)
      | some (.doubled op) =>
          if after.peekInLine? = some c then return (some (.ofOperator op 2), after.advance)
          else return (none, ← after.guardedUnread)
      | none => return (none, cursor)
  | none => return (none, cursor)

def guardedKeyword (cursor : Cursor) : Option (Option Match × Cursor) :=
  match cursor.takeWord? Text.isLetter Text.isLetter with
  | some (word, after) =>
      match Keyword.ofWord? word with
      | some spelled =>
          if after.peekInLine?.any Text.continuesName then
            return (none, ← after.guardedUnreadSpan word.length)
          else return (some (.ofRun (.keyword spelled) word), after)
      | none => return (none, ← after.guardedUnreadSpan word.length)
  | none => return (none, cursor)

/-- `classify`, where a step back at the start of the source is a fault. The other classifiers do not step
back. -/
def guardedClassify : Classifier → Cursor → Option (Option Match × Cursor)
  | operator => guardedOperator
  | keyword => guardedKeyword
  | trivia => fun cursor => some (trivia.classify cursor)
  | identifier => fun cursor => some (identifier.classify cursor)
  | integer => fun cursor => some (integer.classify cursor)

/-- `attempt`, where it is a fault too if there is no match and the cursor is at another place. -/
def guardedAttempt (classifier : Classifier) (cursor : Cursor) : Option (Option Match × Cursor) := do
  match ← classifier.guardedClassify cursor with
  | (some found, after) => return (some found, after)
  | (none, after) =>
      if after.offset = cursor.snapshot.offset then return (none, after.restore cursor.snapshot)
      else none

end Classifier

namespace Cursor

-- The guard fires at the start of the source and nowhere else.
theorem guardedUnread_eq (cursor : Cursor) (inside : cursor.InSource) :
    cursor.guardedUnread = if cursor.offset = 0 then none else some cursor.unread := by
  rcases cursor with ⟨lines, line, column⟩
  -- As without the guard, a step back from the start of a line is one from the end of the line above.
  induction line generalizing column with
  | zero =>
      cases column with
      | zero => rfl
      | succ column => rfl
  | succ line ih =>
      cases column with
      | zero =>
          have above : line < lines.length := Nat.lt_of_succ_lt inside.1
          have found : lines[line]? = some lines[line] := List.getElem?_eq_getElem above
          have place := offset_lineStart lines line _ found
          have step := ih _ (inSource_lineEnd lines line _ found)
          simp only [guardedUnread, unread, guardedPrevious, previous, found, Option.getD_some] at step ⊢
          rw [step, place]
      | succ column =>
          have some : (Cursor.mk lines (line + 1) (column + 1)).offset ≠ 0 := Nat.succ_ne_zero _
          rw [if_neg some]
          rfl

theorem guardedUnreadSpan_eq (count : Nat) (cursor : Cursor) (inside : cursor.InSource)
    (fits : count ≤ cursor.offset) : cursor.guardedUnreadSpan count = some (cursor.unreadSpan count) := by
  induction count generalizing cursor with
  | zero => rfl
  | succ count ih =>
      have place := offset_unread cursor inside
      have back : cursor.guardedUnread = some cursor.unread := by
        rw [guardedUnread_eq cursor inside, if_neg (by omega)]
      rw [guardedUnreadSpan, back]
      exact ih cursor.unread (inSource_unread cursor inside) (by omega)

end Cursor

theorem text_of_wordAt? (first more : Char → Bool) (text run : List Char)
    (found : wordAt? first more text = some run) : run ≠ [] ∧ ∃ rest, text = run ++ rest := by
  cases text with
  | nil => cases found
  | cons c later =>
      rw [wordAt?] at found
      split at found
      case isTrue =>
        cases found
        exact ⟨List.cons_ne_nil _ _, later.dropWhile more, by simp⟩
      case isFalse => cases found

namespace Classifier

theorem taken_of_matchAt? (classifier : Classifier) (text : List Char) (found : Match)
    (recognized : classifier.matchAt? text = some found) :
    ∃ chars rest, text = chars ++ rest ∧ chars ≠ [] ∧ found.consumed = chars.length ∧
      found.lexeme = classifier.lexemeOf chars := by
  cases classifier with
  | trivia =>
      cases text with
      | nil => cases recognized
      | cons c later =>
          cases (Option.ite_none_right_eq_some.mp recognized).2
          exact ⟨[c], later, rfl, List.cons_ne_nil _ _, rfl, rfl⟩
  | operator =>
      obtain ⟨op, rest, whole, rfl, _⟩ := written_of_operatorAt? text found recognized
      have some : op.symbol.toList ≠ [] := by cases op <;> decide
      exact ⟨_, rest, whole, some, rfl, rfl⟩
  | keyword =>
      simp only [matchAt?, keywordAt?] at recognized
      split at recognized
      case h_2 => cases recognized
      case h_1 word taken =>
        obtain ⟨some, rest, whole⟩ := text_of_wordAt? _ _ _ _ taken
        split at recognized
        case h_2 => cases recognized
        case h_1 spelled _ =>
          cases (Option.ite_none_left_eq_some.mp recognized).2
          exact ⟨word, rest, whole, some, rfl, rfl⟩
  | identifier =>
      obtain ⟨word, taken, rfl⟩ := Option.map_eq_some_iff.mp recognized
      obtain ⟨some, rest, whole⟩ := text_of_wordAt? _ _ _ _ taken
      exact ⟨word, rest, whole, some, rfl, rfl⟩
  | integer =>
      obtain ⟨word, taken, rfl⟩ := Option.map_eq_some_iff.mp recognized
      obtain ⟨some, rest, whole⟩ := text_of_wordAt? _ _ _ _ taken
      exact ⟨word, rest, whole, some, rfl, rfl⟩

theorem takes_of_classify (classifier : Classifier) (cursor after : Cursor) (found : Match)
    (inside : cursor.InSource) (matched : classifier.classify cursor = (some found, after)) :
    found.Takes classifier cursor after := by
  rcases classify_outcome classifier cursor with ⟨result, behind⟩
  rw [matched] at result behind
  have place : after = cursor.settled.moved found.consumed := behind found result.symm
  obtain ⟨chars, rest, text, nonempty, consumed, lexeme⟩ := taken_of_matchAt? _ _ _ result.symm
  have ahead : cursor.textAhead ≠ [] := by
    rw [text]
    exact List.append_ne_nil_of_left_ne_nil nonempty rest
  have fits : found.consumed ≤ cursor.settled.restOfLine.length := by
    rw [← Cursor.textAhead, text, consumed, List.length_append]
    exact Nat.le_add_right _ _
  have reached : after.InSource := by
    rw [place]
    exact Cursor.inSource_moved _ _ (Cursor.inSource_of_restOfLine _ ahead) fits
  have same : after.lines = cursor.lines := by rw [place, Cursor.lines_moved, Cursor.lines_settled]
  have taken : cursor.rest = chars ++ after.rest := by
    rw [← cursor.rest_settled, place, consumed]
    exact cursor.settled.rest_moved chars rest text
  refine ⟨?_, ?_, ?_, chars, taken, consumed.symm, lexeme⟩
  · rw [consumed]
    exact List.length_pos_iff.mpr nonempty
  · rw [consumed]
    exact Cursor.offset_of_rest cursor after inside reached same chars taken
  · -- The settled cursor stands on the line of the next character, wherever the cursor stands.
    have next : cursor.nextPosition? = some ⟨cursor.settled.line, cursor.settled.column⟩ := by
      rw [Cursor.nextPosition?_eq, if_neg ahead]
    refine ⟨_, next, ?_, ?_, ?_⟩
    · rw [Cursor.nextLocation?, next, Option.map_some]
    · rw [place]
      rfl
    · rw [place]
      rfl

theorem place_of_takeWord? (first more : Char → Bool) (cursor after : Cursor) (run : List Char)
    (inside : cursor.InSource) (taken : cursor.takeWord? first more = some (run, after)) :
    after.InSource ∧ after.offset = cursor.offset + run.length := by
  have same := lines_of_takeWord? _ _ _ _ _ taken
  have rest := (rest_of_takeWord? _ _ _ _ _ taken).1
  have reached : after.InSource := by
    unfold Cursor.takeWord? at taken
    split at taken
    case h_2 => cases taken
    case h_1 c behind read =>
      cases (Option.ite_none_right_eq_some.mp taken).2
      apply Cursor.inSource_moved _ _ (Cursor.inSource_of_read? _ _ _ read)
      exact (List.takeWhile_prefix _).length_le
  exact ⟨reached, Cursor.offset_of_rest cursor after inside reached same run rest⟩

section

variable (cursor : Cursor) (inside : cursor.InSource)

include inside

theorem offset_of_operator_missed (after : Cursor) (missed : classifyOperator cursor = (none, after)) :
    after.offset = cursor.offset := by
  unfold classifyOperator at missed
  split at missed
  case h_2 => cases missed; rfl
  case h_1 c behind read =>
    have place := Cursor.offset_of_read? _ _ _ inside read
    have back := Cursor.offset_unread behind (Cursor.inSource_of_read? _ _ _ read)
    split at missed
    case h_1 => cases missed
    case h_2 => split at missed <;> cases missed
    case h_3 =>
      split at missed
      case isTrue => cases missed
      case isFalse =>
        cases missed
        omega
    case h_4 => cases missed; rfl

theorem offset_of_keyword_missed (after : Cursor) (missed : classifyKeyword cursor = (none, after)) :
    after.offset = cursor.offset := by
  unfold classifyKeyword at missed
  split at missed
  case h_2 => cases missed; rfl
  case h_1 word behind taken =>
    rcases place_of_takeWord? _ _ _ _ _ inside taken with ⟨reached, place⟩
    have back := Cursor.offset_unreadSpan word.length behind reached
    have same : (behind.unreadSpan word.length).offset = cursor.offset := by omega
    split at missed
    case h_2 => cases missed; exact same
    case h_1 =>
      split at missed
      case isTrue => cases missed; exact same
      case isFalse => cases missed

omit inside in
theorem cursor_of_run_missed (kind : Kind) (first more : Char → Bool) (after : Cursor)
    (missed : classifyRun kind first more cursor = (none, after)) : after = cursor := by
  unfold classifyRun at missed
  split at missed
  case h_1 => cases missed
  case h_2 => cases missed; rfl

theorem offset_of_missed (classifier : Classifier) (after : Cursor)
    (missed : classifier.classify cursor = (none, after)) : after.offset = cursor.offset := by
  cases classifier with
  | trivia =>
      simp only [classify, classifyTrivia] at missed
      grind
  | operator => exact offset_of_operator_missed cursor inside after missed
  | keyword => exact offset_of_keyword_missed cursor inside after missed
  | identifier => rw [cursor_of_run_missed cursor _ _ _ after missed]
  | integer => rw [cursor_of_run_missed cursor _ _ _ after missed]

theorem classify_promises (classifier : Classifier) :
    classifier.Promises cursor (classifier.classify cursor) := by
  cases outcome : classifier.classify cursor with
  | mk result after =>
      cases result with
      | some found => exact takes_of_classify classifier cursor after found inside outcome
      | none =>
          have missed : classifier.matchAt? cursor.textAhead = none := by
            rw [← (classify_outcome classifier cursor).1, outcome]
          refine ⟨offset_of_missed cursor inside classifier after outcome, ?_⟩
          rw [attempt_eq, missed]

-- What is stepped back over was read before, so it is there.
theorem guardedOperator_eq : guardedOperator cursor = some (classifyOperator cursor) := by
  unfold guardedOperator classifyOperator
  cases read : cursor.read? with
  | none => rfl
  | some result =>
      rcases result with ⟨c, behind⟩
      have place := Cursor.offset_of_read? _ _ _ inside read
      have back : behind.guardedUnread = some behind.unread := by
        rw [Cursor.guardedUnread_eq behind (Cursor.inSource_of_read? _ _ _ read), if_neg (by omega)]
      simp only [back]
      cases OperatorForm.ofChar? c with
      | none => rfl
      | some form =>
          cases form with
          | alone op => rfl
          | withEqual bare compound => dsimp only; split <;> rfl
          | doubled op => dsimp only; split <;> rfl

theorem guardedKeyword_eq : guardedKeyword cursor = some (classifyKeyword cursor) := by
  unfold guardedKeyword classifyKeyword
  cases taken : cursor.takeWord? Text.isLetter Text.isLetter with
  | none => rfl
  | some result =>
      rcases result with ⟨word, behind⟩
      rcases place_of_takeWord? _ _ _ _ _ inside taken with ⟨reached, place⟩
      have back : behind.guardedUnreadSpan word.length = some (behind.unreadSpan word.length) :=
        Cursor.guardedUnreadSpan_eq _ _ reached (by omega)
      simp only [back]
      cases Keyword.ofWord? word with
      | none => rfl
      | some spelled => dsimp only; split <;> rfl

theorem guardedClassify_eq (classifier : Classifier) :
    classifier.guardedClassify cursor = some (classifier.classify cursor) := by
  cases classifier with
  | operator => exact guardedOperator_eq cursor inside
  | keyword => exact guardedKeyword_eq cursor inside
  | trivia => rfl
  | identifier => rfl
  | integer => rfl

theorem guardedAttempt_eq (classifier : Classifier) :
    classifier.guardedAttempt cursor = some (classifier.attempt cursor) := by
  rw [guardedAttempt, guardedClassify_eq cursor inside, attempt]
  have promised := classify_promises cursor inside classifier
  cases outcome : classifier.classify cursor with
  | mk result after =>
      cases result with
      | some found => rfl
      | none =>
          rw [outcome] at promised
          exact if_pos promised.1

end

end Classifier

theorem classifiers_keep_promises (source : String) (terminator : Terminator) (calls : List CursorCall)
    (classifier : Classifier) :
    let cursor := (runCursorCalls CursorDesk.call (.ofSource source terminator) calls).2.cursor
    classifier.Promises cursor (classifier.classify cursor) ∧
      classifier.guardedClassify cursor = some (classifier.classify cursor) ∧
      classifier.guardedAttempt cursor = some (classifier.attempt cursor) := by
  intro cursor
  have inside : cursor.InSource := (run_tracks (tracks_ofSource source terminator) calls).2.inSource
  exact ⟨Classifier.classify_promises cursor inside classifier,
    Classifier.guardedClassify_eq cursor inside classifier,
    Classifier.guardedAttempt_eq cursor inside classifier⟩

-- A sign that is not written twice, behind a blank line: the place is kept, and the position is not.
example :
    let cursor := (runCursorCalls CursorDesk.call (.ofSource "x\n\n&y" .lf) [.read]).2.cursor
    Classifier.operator.classify cursor = (none, { cursor with line := 2, column := 0 }) ∧
      (cursor.line, cursor.column) = (0, 1) := by
  decide +kernel

end QueryLexer

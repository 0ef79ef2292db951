import QueryLexer.Proofs.Source.Lines
import QueryLexer.Proofs.Token.Transcript

/-!
The transcript of a source, line by line. `lineTranscript` takes one token after another off the head of
a text; `pageTranscript` does so for each line, with the lines numbered in order. No cursor is involved,
and no token looks beyond its line: the main statement is that a stream over a source gives the page of
its lines, with the blanks left out if the mode says so.
-/

namespace QueryLexer

/-- The tokens of a line from `column` on, up to the first character at which none begins. -/
def lineTranscript (number : UInt32) (column : Nat) (text : List Char) : Transcript :=
  match _recognized : tokenAt? text with
  | some found =>
      (lineTranscript number (column + found.consumed) (text.drop found.consumed)).cons
        ⟨found.kind, found.lexeme, number⟩
  | none =>
      match text with
      | [] => .finished
      | c :: _ => .failed (.unexpectedChar number (.ofNat column) c)
termination_by text.length
decreasing_by
  obtain ⟨chars, rest, rfl, written, taken, _⟩ := written_of_tokenAt? _ _ _recognized
  have := List.length_pos_iff.mpr written.ne_nil
  simp only [taken, List.length_drop, List.length_append]
  omega

/-- The transcripts of the lines, numbered from `number`, one after another. -/
def pageTranscript (number : Nat) : List (List Char) → Transcript
  | [] => .finished
  | text :: later => (lineTranscript (.ofNat number) 1 text).append (pageTranscript (number + 1) later)

theorem lineTranscript_nil (number : UInt32) (column : Nat) : lineTranscript number column [] = .finished := by
  rw [lineTranscript]
  rfl

theorem lineTranscript_of_none (number : UInt32) (column : Nat) (c : Char) (later : List Char)
    (missed : tokenAt? (c :: later) = none) :
    lineTranscript number column (c :: later) = .failed (.unexpectedChar number (.ofNat column) c) := by
  rw [lineTranscript]
  split <;> simp_all

theorem lineTranscript_of_some (number : UInt32) (column : Nat) (text : List Char) (found : Match)
    (recognized : tokenAt? text = some found) :
    lineTranscript number column text =
      (lineTranscript number (column + found.consumed) (text.drop found.consumed)).cons
        ⟨found.kind, found.lexeme, number⟩ := by
  rw [lineTranscript]
  split <;> simp_all

theorem lineTranscript_written (number : UInt32) (column : Nat) (kind : Kind) (lexeme : String)
    (chars rest : List Char) (written : kind.Written lexeme chars) (stops : kind.StopsAt rest) :
    lineTranscript number column (chars ++ rest) =
      (lineTranscript number (column + chars.length) rest).cons ⟨kind, lexeme, number⟩ := by
  rw [lineTranscript_of_some _ _ _ _ (tokenAt?_of_written kind lexeme chars rest written stops)]
  simp

-- How a line is taken apart: it is used up, no token begins, or a token is written before the rest.
theorem line_induction {motive : List Char → Prop} (nil : motive [])
    (missed : ∀ c later, tokenAt? (c :: later) = none → motive (c :: later))
    (token : ∀ (kind : Kind) (lexeme : String) (chars rest : List Char),
      kind.Written lexeme chars → kind.StopsAt rest → motive rest → motive (chars ++ rest))
    (text : List Char) : motive text := by
  induction size : text.length using Nat.strongRecOn generalizing text with
  | ind size ih =>
      cases recognized : tokenAt? text with
      | none =>
          cases text with
          | nil => exact nil
          | cons c later => exact missed c later recognized
      | some found =>
          obtain ⟨chars, rest, rfl, written, _, stops⟩ := written_of_tokenAt? text found recognized
          have taken := List.length_pos_iff.mpr written.ne_nil
          rw [List.length_append] at size
          exact token _ _ chars rest written stops (ih _ (by omega) rest rfl)

theorem lineTranscript_first (number : UInt32) (column : Nat) (text : List Char) (token : Token)
    (later : List Token) (tokens : (lineTranscript number column text).tokens = token :: later) :
    ∃ chars rest, text = chars ++ rest ∧ token.kind.Written token.lexeme chars ∧
      token.kind.StopsAt rest ∧ token.line = number ∧
      (lineTranscript number (column + chars.length) rest).tokens = later := by
  induction text using line_induction with
  | nil => simp [lineTranscript_nil, Transcript.finished] at tokens
  | missed c later none => simp [lineTranscript_of_none _ _ _ _ none, Transcript.failed] at tokens
  | token kind lexeme chars rest written stops _ =>
      rw [lineTranscript_written _ _ kind lexeme chars rest written stops] at tokens
      rcases List.cons.inj tokens with ⟨rfl, below⟩
      exact ⟨chars, rest, rfl, written, stops, rfl, below⟩

namespace Cursor

/-- What the cursor has ahead of it: the rest of its line and the lines below. -/
def ahead (cursor : Cursor) : Transcript :=
  (lineTranscript (.ofNat (cursor.line + 1)) (cursor.column + 1) cursor.restOfLine).append
    (pageTranscript (cursor.line + 2) (cursor.lines.drop (cursor.line + 1)))

theorem ahead_onNextLine (cursor : Cursor) (exhausted : cursor.restOfLine = [])
    (more : cursor.line + 1 < cursor.lines.length) : cursor.ahead = cursor.onNextLine.ahead := by
  rw [ahead, exhausted, lineTranscript_nil, Transcript.finished_append,
    List.drop_eq_getElem_cons more, pageTranscript]
  rw [ahead, restOfLine_onNextLine, List.getElem?_eq_getElem more]
  rfl

theorem ahead_of_last (cursor : Cursor) (exhausted : cursor.restOfLine = [])
    (last : cursor.lines.length ≤ cursor.line + 1) : cursor.ahead = .finished := by
  rw [ahead, exhausted, lineTranscript_nil, List.drop_eq_nil_of_le last]
  rfl

-- Blank lines on the way to the next character add nothing. The induction is on the lines below.
theorem ahead_settled (cursor : Cursor) :
    cursor.ahead = if cursor.textAhead = [] then .finished else cursor.settled.ahead := by
  induction below : cursor.lines.length - cursor.line generalizing cursor with
  | zero =>
      have outside : cursor.lineText = [] := lineText_of_le cursor (by omega)
      have exhausted : cursor.restOfLine = [] := by simp [restOfLine, outside]
      have ended : cursor.textAhead = [] := by
        have none : cursor.lines.drop cursor.line = [] := List.drop_eq_nil_of_le (by omega)
        simp [textAhead_eq_nil_iff, nextPosition?, none, firstUnread]
      rw [if_pos ended, ahead_of_last cursor exhausted (by omega)]
  | succ below ih =>
      by_cases exhausted : cursor.restOfLine = []
      · by_cases more : cursor.line + 1 < cursor.lines.length
        · have next := ih cursor.onNextLine (by simp only [onNextLine]; omega)
          rw [ahead_onNextLine cursor exhausted more, next, textAhead_onNextLine cursor exhausted]
          split
          case isTrue => rfl
          case isFalse found => rw [settled_onNextLine cursor exhausted found]
        · have none : cursor.lines.drop (cursor.line + 1) = [] := List.drop_eq_nil_of_le (by omega)
          have ended : cursor.textAhead = [] := by
            rw [textAhead_eq_nil_iff, nextPosition?_onNextLine cursor exhausted]
            simp [nextPosition?, onNextLine, none, firstUnread]
          rw [if_pos ended, ahead_of_last cursor exhausted (by omega)]
      · rw [textAhead_of_restOfLine cursor exhausted, if_neg exhausted,
          settled_of_restOfLine cursor exhausted]

theorem ahead_moved (cursor : Cursor) (count : Nat) : (cursor.moved count).ahead =
    (lineTranscript (.ofNat (cursor.line + 1)) (cursor.column + 1 + count)
        (cursor.restOfLine.drop count)).append
      (pageTranscript (cursor.line + 2) (cursor.lines.drop (cursor.line + 1))) := by
  rw [ahead, restOfLine_moved, Nat.add_right_comm cursor.column 1 count]
  rfl

end Cursor

theorem Classifier.transcript_ahead (cursor : Cursor) :
    transcript chain false cursor = cursor.ahead := by
  induction size : cursor.rest.length using Nat.strongRecOn generalizing cursor with
  | ind size ih =>
      rw [transcript_step, Cursor.ahead_settled, Cursor.nextLocation?_eq]
      by_cases ended : cursor.textAhead = []
      · simp only [ended, if_true]
      · obtain ⟨c, later, text⟩ := List.exists_cons_of_ne_nil ended
        simp only [ended, if_false]
        have here : cursor.settled.restOfLine = c :: later := text
        cases recognized : tokenAt? (c :: later) with
        | none =>
            have missed : inTurn chain cursor = (none, cursor) := by
              rw [inTurn_chain, text, recognized]
            simp only [missed]
            rw [Cursor.peek?_eq, Cursor.ahead, text, here, lineTranscript_of_none _ _ _ _ recognized,
              Cursor.lineNumber_eq, Cursor.columnNumber_eq]
            rfl
        | some found =>
            have first : inTurn chain cursor = (some found, cursor.settled.moved found.consumed) := by
              rw [inTurn_chain, text, recognized]
            have shorter := rest_lt_of_inTurn _ _ _ _ first
            simp only [first, Bool.false_and, Bool.false_eq_true, if_false, Cursor.lineNumber_eq]
            rw [ih _ (by omega) _ rfl, Cursor.ahead_moved, Cursor.ahead, here,
              lineTranscript_of_some _ _ _ _ recognized, Transcript.cons_append]

theorem ahead_ofSource (source : String) (terminator : Terminator) :
    (Cursor.ofSource source terminator).ahead = pageTranscript 1 (terminator.lines source.toList) := by
  obtain ⟨first, later, lines⟩ :=
    List.exists_cons_of_ne_nil (terminator.lines_ne_nil source.toList)
  simp [Cursor.ahead, Cursor.ofSource, Cursor.restOfLine, Cursor.lineText, lines, pageTranscript]

/-- The page of a source as a reader in the given mode sees it. -/
def sourceTranscript (source : String) (mode : LexMode) : Transcript :=
  let page := pageTranscript 1 (mode.terminator.lines source.toList)
  if mode.skipTrivia then page.withoutTrivia else page

theorem sourceTranscript_plain (source : String) (terminator : Terminator) :
    sourceTranscript source ⟨terminator, false⟩ =
      pageTranscript 1 (terminator.lines source.toList) := rfl

theorem failure_sourceTranscript (source : String) (mode : LexMode) :
    (sourceTranscript source mode).failure =
      (pageTranscript 1 (mode.terminator.lines source.toList)).failure := by
  unfold sourceTranscript
  cases mode.skipTrivia <;> rfl

theorem transcript_ofSource (source : String) (mode : LexMode) :
    (TokenStream.ofSource source mode).transcript = sourceTranscript source mode := by
  have plain : Classifier.transcript Classifier.chain false
      (Cursor.ofSource source mode.terminator) =
        pageTranscript 1 (mode.terminator.lines source.toList) := by
    rw [Classifier.transcript_ahead, ahead_ofSource]
  rw [TokenStream.transcript_eq, sourceTranscript, ← plain]
  change Classifier.transcript Classifier.chain mode.skipTrivia _ = _
  cases mode.skipTrivia with
  | false => rfl
  | true => exact Classifier.transcript_skipping _ _

theorem tokenize_eq (source : String) (mode : LexMode) :
    tokenize source mode = (sourceTranscript source mode).result := by
  rw [tokenize, TokenStream.collect_eq _ rfl, transcript_ofSource]

end QueryLexer

import QueryLexer.Source.Cursor

/-!
Where the next character stands. The end of a line, the start of a blank line behind it and the start
of the next line with characters are different positions in front of one and the same character. The
last of them is the settled one: there the next character is the head of `restOfLine`, and reading
moves one column to the right.
-/

namespace QueryLexer

namespace Cursor

/-- The cursor put right before its next character; at the end of the source, no movement. -/
def settled (cursor : Cursor) : Cursor :=
  match cursor.nextPosition? with
  | some position => { cursor with line := position.line, column := position.column }
  | none => cursor

def moved (count : Nat) (cursor : Cursor) : Cursor :=
  { cursor with column := cursor.column + count }

/-- What is left of the line on which the next character stands. -/
def textAhead (cursor : Cursor) : List Char := cursor.settled.restOfLine

@[simp] theorem lines_settled (cursor : Cursor) : cursor.settled.lines = cursor.lines := by
  unfold settled
  split <;> rfl

@[simp] theorem lines_moved (count : Nat) (cursor : Cursor) :
    (cursor.moved count).lines = cursor.lines := rfl

@[simp] theorem restOfLine_moved (count : Nat) (cursor : Cursor) :
    (cursor.moved count).restOfLine = cursor.restOfLine.drop count := by
  simp [restOfLine, lineText, moved, List.drop_drop]

@[simp] theorem moved_moved (first second : Nat) (cursor : Cursor) :
    (cursor.moved first).moved second = cursor.moved (first + second) := by
  simp [moved, Nat.add_assoc]

theorem restOfLine_eq_nil_iff (cursor : Cursor) :
    cursor.restOfLine = [] ↔ cursor.lineText.length ≤ cursor.column := by
  simp [restOfLine]

theorem lines_drop_line (cursor : Cursor) (inside : cursor.line < cursor.lines.length) :
    cursor.lines.drop cursor.line = cursor.lineText :: cursor.lines.drop (cursor.line + 1) := by
  rw [List.drop_eq_getElem_cons inside]
  simp [lineText, inside]

theorem lineText_of_le (cursor : Cursor) (outside : cursor.lines.length ≤ cursor.line) :
    cursor.lineText = [] := by
  simp [lineText, outside]

theorem nextPosition?_of_restOfLine (cursor : Cursor) (some : cursor.restOfLine ≠ []) :
    cursor.nextPosition? = .some ⟨cursor.line, cursor.column⟩ := by
  have within : cursor.column < cursor.lineText.length := by
    simpa [restOfLine_eq_nil_iff] using some
  have inside : cursor.line < cursor.lines.length := by
    refine Nat.lt_of_not_le fun outside => ?_
    simp [lineText_of_le cursor outside] at within
  rw [nextPosition?, lines_drop_line cursor inside, firstUnread, if_pos within]

theorem settled_of_restOfLine (cursor : Cursor) (some : cursor.restOfLine ≠ []) :
    cursor.settled = cursor := by
  simp [settled, nextPosition?_of_restOfLine cursor some]

def onNextLine (cursor : Cursor) : Cursor := { cursor with line := cursor.line + 1, column := 0 }

theorem restOfLine_onNextLine (cursor : Cursor) :
    cursor.onNextLine.restOfLine = cursor.lines[cursor.line + 1]?.getD [] := by
  simp [onNextLine, restOfLine, lineText]

theorem nextPosition?_onNextLine (cursor : Cursor) (exhausted : cursor.restOfLine = []) :
    cursor.nextPosition? = cursor.onNextLine.nextPosition? := by
  by_cases inside : cursor.line < cursor.lines.length
  · have beyond : ¬ cursor.column < cursor.lineText.length := by
      simpa [restOfLine_eq_nil_iff] using exhausted
    rw [nextPosition?, lines_drop_line cursor inside, firstUnread, if_neg beyond]
    rfl
  · have none : cursor.lines.drop cursor.line = [] := List.drop_eq_nil_of_le (by omega)
    have later : cursor.lines.drop (cursor.line + 1) = [] := List.drop_eq_nil_of_le (by omega)
    simp [nextPosition?, onNextLine, none, later, firstUnread]

-- A search that finds something ends in front of a character of its line.
theorem restOfLine_settled_ne_nil (cursor : Cursor) (position : Position)
    (found : cursor.nextPosition? = some position) : cursor.settled.restOfLine ≠ [] := by
  obtain ⟨skipped, text, later, split, place, inside, _⟩ := firstUnread_rest _ _ _ _ found
  have here : cursor.lines[position.line]? = some text := by
    rw [place, ← List.getElem?_drop, split]
    simp
  simp only [settled, found, restOfLine, lineText, here, Option.getD_some, ne_eq,
    List.drop_eq_nil_iff, Nat.not_le]
  exact inside

theorem restOfLine_of_nextPosition?_none (cursor : Cursor) (none : cursor.nextPosition? = .none) :
    cursor.restOfLine = [] := by
  by_cases exhausted : cursor.restOfLine = []
  · exact exhausted
  · simp [nextPosition?_of_restOfLine cursor exhausted] at none

theorem textAhead_eq_nil_iff (cursor : Cursor) :
    cursor.textAhead = [] ↔ cursor.nextPosition? = none := by
  cases found : cursor.nextPosition? with
  | none => simp [textAhead, settled, found, restOfLine_of_nextPosition?_none cursor found]
  | some position => simp [textAhead, restOfLine_settled_ne_nil cursor position found]

theorem settled_onNextLine (cursor : Cursor) (exhausted : cursor.restOfLine = [])
    (more : cursor.onNextLine.textAhead ≠ []) : cursor.settled = cursor.onNextLine.settled := by
  rw [ne_eq, textAhead_eq_nil_iff] at more
  obtain ⟨position, found⟩ := Option.ne_none_iff_exists'.mp more
  simp only [settled, nextPosition?_onNextLine cursor exhausted, found]
  rfl

theorem textAhead_onNextLine (cursor : Cursor) (exhausted : cursor.restOfLine = []) :
    cursor.textAhead = cursor.onNextLine.textAhead := by
  by_cases ended : cursor.onNextLine.textAhead = []
  · rw [ended, textAhead_eq_nil_iff, nextPosition?_onNextLine cursor exhausted]
    exact (textAhead_eq_nil_iff _).mp ended
  · rw [textAhead, settled_onNextLine cursor exhausted ended, ← textAhead]

theorem textAhead_of_restOfLine (cursor : Cursor) (some : cursor.restOfLine ≠ []) :
    cursor.textAhead = cursor.restOfLine := by
  rw [textAhead, settled_of_restOfLine cursor some]

theorem nextPosition?_eq (cursor : Cursor) : cursor.nextPosition? =
    if cursor.textAhead = [] then none else some ⟨cursor.settled.line, cursor.settled.column⟩ := by
  cases found : cursor.nextPosition? with
  | none => simp [textAhead_eq_nil_iff, found]
  | some position => simp [textAhead_eq_nil_iff, found, settled]

theorem nextLocation?_eq (cursor : Cursor) : cursor.nextLocation? =
    if cursor.textAhead = [] then none
    else some ⟨cursor.settled.lineNumber, cursor.settled.columnNumber⟩ := by
  rw [nextLocation?, nextPosition?_eq]
  split <;> rfl

theorem charAt?_settled (cursor : Cursor) :
    cursor.charAt? ⟨cursor.settled.line, cursor.settled.column⟩ = cursor.textAhead.head? := by
  rw [textAhead, restOfLine, lineText, List.head?_drop, lines_settled, charAt?]
  cases cursor.lines[cursor.settled.line]? <;> simp

theorem peek?_eq (cursor : Cursor) : cursor.peek? = cursor.textAhead.head? := by
  rw [peek?, nextPosition?_eq]
  split
  case isTrue ended => simp [ended]
  case isFalse => exact charAt?_settled cursor

theorem read?_eq (cursor : Cursor) : cursor.read? =
    cursor.textAhead.head?.map fun c => (c, cursor.settled.moved 1) := by
  have behind : { cursor with line := cursor.settled.line, column := cursor.settled.column + 1 } =
      cursor.settled.moved 1 := by
    simp [moved]
  rw [read?, nextPosition?_eq]
  split
  case isTrue ended => simp [ended]
  case isFalse =>
    simp only [Option.bind_eq_bind, Option.bind_some, charAt?_settled, behind]
    cases cursor.textAhead.head? <;> rfl

-- Going over line ends and blank lines leaves what is to be read as it was.
theorem rest_settled (cursor : Cursor) : cursor.settled.rest = cursor.rest := by
  cases text : cursor.textAhead with
  | nil => simp only [settled, (textAhead_eq_nil_iff cursor).mp text]
  | cons c later =>
      have here : cursor.settled.restOfLine ≠ [] := by
        rw [← textAhead, text]
        exact List.cons_ne_nil c later
      have same : cursor.settled.settled = cursor.settled := settled_of_restOfLine _ here
      have ahead : cursor.settled.textAhead = c :: later := by rw [textAhead, same, ← textAhead, text]
      have read : cursor.read? = some (c, cursor.settled.moved 1) := by
        rw [read?_eq, text]
        rfl
      have readSettled : cursor.settled.read? = some (c, cursor.settled.moved 1) := by
        rw [read?_eq, ahead, same]
        rfl
      rw [rest_of_read? _ _ _ read, rest_of_read? _ _ _ readSettled]

theorem rest_moved (cursor : Cursor) (taken later : List Char)
    (here : cursor.restOfLine = taken ++ later) :
    cursor.rest = taken ++ (cursor.moved taken.length).rest := by
  rw [rest, rest, restOfLine_moved, here, List.drop_left, List.append_assoc]
  rfl

theorem advance_of_restOfLine (cursor : Cursor) (some : cursor.restOfLine ≠ []) :
    cursor.advance = cursor.moved 1 := by
  rw [advance, read?_eq, textAhead_of_restOfLine cursor some, settled_of_restOfLine cursor some]
  cases text : cursor.restOfLine with
  | nil => exact absurd text some
  | cons c more => rfl

/-- What stands on a line of the source from a position on. -/
def lineFrom (cursor : Cursor) (position : Position) : List Char :=
  (cursor.lines[position.line]?.getD []).drop position.column

theorem textAhead_eq_lineFrom (cursor : Cursor) (position : Position)
    (found : cursor.nextPosition? = some position) : cursor.textAhead = cursor.lineFrom position := by
  simp only [textAhead, settled, found, restOfLine, lineText, lineFrom]

theorem settled_moved (cursor : Cursor) (position : Position) (count : Nat)
    (found : cursor.nextPosition? = some position) : cursor.settled.moved count =
      { cursor with line := position.line, column := position.column + count } := by
  simp only [settled, found, moved]

theorem takeRun_eq (accept : Char → Bool) (cursor : Cursor) : cursor.takeRun accept =
    (cursor.restOfLine.takeWhile accept,
      cursor.moved (cursor.restOfLine.takeWhile accept).length) := rfl

theorem restore_snapshot (cursor other : Cursor) (same : other.lines = cursor.lines) :
    other.restore cursor.snapshot = cursor := by
  cases cursor
  simp_all [restore, snapshot]

end Cursor

/-- Words of 32 bits hold the number of the lines and of the characters in each. -/
def FitsWords (lines : List (List Char)) : Prop :=
  lines.length < UInt32.size ∧ ∀ text ∈ lines, text.length < UInt32.size

def Position.counted (position : Position) : Position := ⟨position.line + 1, position.column + 1⟩

def Location.numbers (location : Location) : Position := ⟨location.line.toNat, location.column.toNat⟩

theorem ofNat_add_one (count : Nat) : UInt32.ofNat count + 1 = UInt32.ofNat (count + 1) :=
  (UInt32.ofNat_add count 1).symm

theorem Cursor.lineNumber_eq (cursor : Cursor) : cursor.lineNumber = UInt32.ofNat (cursor.line + 1) :=
  ofNat_add_one cursor.line

theorem Cursor.columnNumber_eq (cursor : Cursor) :
    cursor.columnNumber = UInt32.ofNat (cursor.column + 1) :=
  ofNat_add_one cursor.column

theorem toNat_ofNat_add_one {count : Nat} (fits : count + 1 < UInt32.size) :
    (UInt32.ofNat count + 1).toNat = count + 1 := by
  rw [ofNat_add_one, UInt32.toNat_ofNat_of_lt' fits]

theorem Position.numbers_location (position : Position) (line : position.line + 1 < UInt32.size)
    (column : position.column + 1 < UInt32.size) : position.location.numbers = position.counted := by
  rw [Location.numbers, location, counted, toNat_ofNat_add_one line, toNat_ofNat_add_one column]

theorem FitsWords.numbers_location {cursor : Cursor} (fits : FitsWords cursor.lines) (position : Position)
    (found : cursor.nextPosition? = some position) :
    position.location.numbers = position.counted := by
  obtain ⟨skipped, text, later, split, place, inside, _⟩ := firstUnread_rest _ _ _ _ found
  have here : cursor.lines[position.line]? = some text := by
    rw [place, ← List.getElem?_drop, split]
    simp
  have line := (List.getElem?_eq_some_iff.mp here).1
  have short := fits.2 text (List.mem_of_getElem? here)
  exact position.numbers_location (Nat.lt_of_le_of_lt line fits.1) (Nat.lt_of_le_of_lt inside short)

end QueryLexer

import QueryLexer.Proofs.Source.Lines
import QueryLexer.Proofs.Source.Settled

/-!
Places in a source. A cursor stands on a line of its source, at most right behind the last character; the
characters before it and those still to be read are then all there are, so a cursor that has less to read
is further on. A step forward takes the next character and a step back gives it back, whatever blank lines
lie between; what a step does to the place is said by the number of characters before it.
-/

namespace QueryLexer

-- A search that finds nothing has nothing but blank lines ahead of it.
theorem flatten_of_firstUnread_none (lines : List (List Char)) (line column : Nat)
    (missed : firstUnread lines line column = none) :
    (lines[0]?.getD []).drop column ++ (lines.drop 1).flatten = [] := by
  induction lines generalizing line column with
  | nil => simp
  | cons text later ih =>
      rw [firstUnread] at missed
      split at missed
      case isTrue => cases missed
      case isFalse exhausted =>
        have used : text.drop column = [] := List.drop_eq_nil_of_le (by omega)
        have below := ih (line + 1) 0 missed
        cases later with
        | nil => simp [used]
        | cons next more => simpa [used] using below

namespace Cursor

/-- The cursor stands on a line of its source, at most right behind the last character. -/
def InSource (cursor : Cursor) : Prop :=
  cursor.line < cursor.lineCount ∧ cursor.column ≤ cursor.lineText.length

theorem inSource_ofSource (source : String) (terminator : Terminator) :
    (ofSource source terminator).InSource := by
  constructor
  · exact List.length_pos_iff.mpr (terminator.lines_ne_nil source.toList)
  · exact Nat.zero_le _

theorem inSource_of_restOfLine (cursor : Cursor) (some : cursor.restOfLine ≠ []) : cursor.InSource := by
  have within : cursor.column < cursor.lineText.length := by
    simpa [restOfLine_eq_nil_iff] using some
  constructor
  · apply Nat.lt_of_not_le
    intro outside
    simp [lineText_of_le cursor outside] at within
  · exact Nat.le_of_lt within

theorem inSource_moved (cursor : Cursor) (count : Nat) (inside : cursor.InSource)
    (fits : count ≤ cursor.restOfLine.length) : (cursor.moved count).InSource := by
  constructor
  · exact inside.1
  · have bound := inside.2
    rw [restOfLine, List.length_drop] at fits
    change cursor.column + count ≤ cursor.lineText.length
    omega

-- The lines in front of the cursor's, its own, and those behind it.
theorem lines_around (cursor : Cursor) (inside : cursor.InSource) :
    cursor.lines = cursor.lines.take cursor.line ++
      cursor.lineText :: cursor.lines.drop (cursor.line + 1) := by
  rw [← lines_drop_line cursor inside.1, List.take_append_drop]

theorem offset_add_rest (cursor : Cursor) (inside : cursor.InSource) :
    cursor.offset + cursor.rest.length = cursor.lines.flatten.length := by
  have bound := inside.2
  conv => rhs; rw [lines_around cursor inside]
  rw [offset, rest, restOfLine, List.flatten_append, List.flatten_cons, List.length_append,
    List.length_append, List.length_append, List.length_drop]
  omega

theorem offset_le_of_rest_le (cursor after : Cursor) (inside : cursor.InSource) (reached : after.InSource)
    (same : after.lines = cursor.lines) (shorter : after.rest.length ≤ cursor.rest.length) :
    cursor.offset ≤ after.offset := by
  have before := offset_add_rest cursor inside
  have behind := offset_add_rest after reached
  rw [same] at behind
  omega

theorem offset_of_rest (cursor after : Cursor) (inside : cursor.InSource) (reached : after.InSource)
    (same : after.lines = cursor.lines) (chars : List Char) (taken : cursor.rest = chars ++ after.rest) :
    after.offset = cursor.offset + chars.length := by
  have before := offset_add_rest cursor inside
  have behind := offset_add_rest after reached
  rw [same] at behind
  rw [taken, List.length_append] at before
  omega

theorem rest_eq_drop (cursor : Cursor) (inside : cursor.InSource) :
    cursor.rest = cursor.lines.flatten.drop cursor.offset := by
  conv => rhs; arg 2; rw [lines_around cursor inside, List.flatten_append, List.flatten_cons]
  rw [offset, List.drop_length_add_append, List.drop_append_of_le_length inside.2]
  rfl

theorem rest_eq_nil_of_nextPosition?_none (cursor : Cursor) (none : cursor.nextPosition? = .none) :
    cursor.rest = [] := by
  have used := flatten_of_firstUnread_none _ _ _ none
  rw [List.getElem?_drop, List.drop_drop] at used
  exact used

theorem peek?_eq_head (cursor : Cursor) : cursor.peek? = cursor.rest.head? := by
  rw [peek?_eq]
  cases text : cursor.textAhead with
  | nil =>
      rw [rest_eq_nil_of_nextPosition?_none cursor ((textAhead_eq_nil_iff cursor).mp text)]
  | cons c later =>
      have read : cursor.read? = some (c, cursor.settled.moved 1) := by
        rw [read?_eq, text]
        rfl
      rw [rest_of_read? _ _ _ read]
      rfl

theorem isAtEnd_eq (cursor : Cursor) : cursor.isAtEnd = cursor.rest.isEmpty := by
  have same := peek?_eq_head cursor
  rw [peek?_eq] at same
  rw [isAtEnd, nextPosition?_eq]
  cases text : cursor.textAhead with
  | nil =>
      rw [text] at same
      have none : cursor.rest = [] := List.head?_eq_none_iff.mp same.symm
      simp [none]
  | cons c later =>
      rw [text] at same
      rcases List.head?_eq_some_iff.mp same.symm with ⟨more, rest⟩
      simp [rest]

theorem read?_eq_none_iff (cursor : Cursor) : cursor.read? = none ↔ cursor.rest = [] := by
  rw [read?_eq, Option.map_eq_none_iff, ← peek?_eq, peek?_eq_head, List.head?_eq_none_iff]

theorem inSource_of_read? (cursor after : Cursor) (c : Char) (read : cursor.read? = some (c, after)) :
    after.InSource := by
  rw [read?_eq, Option.map_eq_some_iff] at read
  rcases read with ⟨d, first, same⟩
  rcases Prod.mk.inj same with ⟨rfl, rfl⟩
  rcases List.head?_eq_some_iff.mp first with ⟨later, text⟩
  have some : cursor.settled.restOfLine ≠ [] := by
    rw [← textAhead, text]
    exact List.cons_ne_nil _ _
  exact inSource_moved _ 1 (inSource_of_restOfLine _ some) (List.length_pos_iff.mpr some)

theorem offset_of_read? (cursor after : Cursor) (c : Char) (inside : cursor.InSource)
    (read : cursor.read? = some (c, after)) : after.offset = cursor.offset + 1 := by
  have reached := inSource_of_read? cursor after c read
  have same := lines_of_read? cursor after c read
  exact offset_of_rest cursor after inside reached same [c] (rest_of_read? cursor after c read)

theorem inSource_lineEnd (lines : List (List Char)) (line : Nat) (text : List Char)
    (found : lines[line]? = some text) : (Cursor.mk lines line text.length).InSource := by
  constructor
  · exact (List.getElem?_eq_some_iff.mp found).1
  · simp [lineText, found]

-- The end of a line and the start of the next are one place.
theorem offset_lineStart (lines : List (List Char)) (line : Nat) (text : List Char)
    (found : lines[line]? = some text) :
    (Cursor.mk lines (line + 1) 0).offset = (Cursor.mk lines line text.length).offset := by
  simp [offset, List.take_add_one, found]

-- A step back from the start of a line is one from the end of the line above.
theorem unread_lineStart (lines : List (List Char)) (line : Nat) (text : List Char)
    (found : lines[line]? = some text) :
    (Cursor.mk lines (line + 1) 0).unread = (Cursor.mk lines line text.length).unread := by
  simp [unread, previous, found]

theorem unread_place (lines : List (List Char)) (line column : Nat)
    (inside : (Cursor.mk lines line column).InSource) :
    (Cursor.mk lines line column).unread.InSource ∧
      (Cursor.mk lines line column).unread.offset = (Cursor.mk lines line column).offset - 1 := by
  induction line generalizing column with
  | zero =>
      cases column with
      | zero => exact ⟨inside, rfl⟩
      | succ column => exact ⟨⟨inside.1, Nat.le_of_succ_le inside.2⟩, rfl⟩
  | succ line ih =>
      cases column with
      | zero =>
          have above : line < lines.length := Nat.lt_of_succ_lt inside.1
          have found : lines[line]? = some lines[line] := List.getElem?_eq_getElem above
          rw [unread_lineStart lines line _ found, offset_lineStart lines line _ found]
          exact ih _ (inSource_lineEnd lines line _ found)
      | succ column => exact ⟨⟨inside.1, Nat.le_of_succ_le inside.2⟩, rfl⟩

theorem inSource_unread (cursor : Cursor) (inside : cursor.InSource) : cursor.unread.InSource :=
  (unread_place cursor.lines cursor.line cursor.column inside).1

theorem offset_unread (cursor : Cursor) (inside : cursor.InSource) :
    cursor.unread.offset = cursor.offset - 1 :=
  (unread_place cursor.lines cursor.line cursor.column inside).2

theorem inSource_unreadSpan (count : Nat) (cursor : Cursor) (inside : cursor.InSource) :
    (cursor.unreadSpan count).InSource := by
  induction count generalizing cursor with
  | zero => exact inside
  | succ count ih => exact ih cursor.unread (inSource_unread cursor inside)

theorem offset_unreadSpan (count : Nat) (cursor : Cursor) (inside : cursor.InSource) :
    (cursor.unreadSpan count).offset = cursor.offset - count := by
  induction count generalizing cursor with
  | zero => rfl
  | succ count ih =>
      have step := ih cursor.unread (inSource_unread cursor inside)
      rw [offset_unread cursor inside] at step
      rw [unreadSpan, step]
      omega

end Cursor

/-- The snapshot is of a place in the cursor's source. -/
def Snapshot.InSourceOf (saved : Snapshot) (cursor : Cursor) : Prop :=
  (cursor.restore saved).InSource ∧ (cursor.restore saved).offset = saved.offset

theorem Cursor.inSourceOf_snapshot (cursor after : Cursor) (inside : cursor.InSource)
    (same : after.lines = cursor.lines) : cursor.snapshot.InSourceOf after := by
  rw [Snapshot.InSourceOf, restore_snapshot cursor after same]
  exact ⟨inside, rfl⟩

-- Only the lines of the cursor matter.
theorem Snapshot.InSourceOf.of_lines {saved : Snapshot} {cursor : Cursor} (valid : saved.InSourceOf cursor)
    (other : Cursor) (same : other.lines = cursor.lines) : saved.InSourceOf other := by
  have back : other.restore saved = cursor.restore saved := by
    rw [Cursor.restore, Cursor.restore, same]
  rw [Snapshot.InSourceOf, back]
  exact valid

end QueryLexer

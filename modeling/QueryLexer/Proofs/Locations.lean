import Mathlib.Data.List.Infix
import QueryLexer.Proofs.FlatCursor

/-!
Where the next character stands. A place in a source has several positions, from the end of a line over
blank lines to the start of the next line with characters, but only one character is the next, and it has
one line and one column. So the location a cursor gives follows from the number of characters before it,
whatever calls have led there, and the character at that location is the one that `peek?` shows.

Characters that are read and given back leave the place as it was, and with it all later answers. The
position is then the one right before the next character, where it may not have been.
-/

namespace QueryLexer

/-- The character at a place of these lines, which is counted from one. -/
def Position.charIn? (lines : List (List Char)) (place : Position) : Option Char :=
  lines[place.line - 1]?.bind (·[place.column - 1]?)

/-- The place, counted from one, is that of a character with `before` characters in front of it. -/
structure Position.Marks (lines : List (List Char)) (before : Nat) (place : Position) : Prop where
  line : 1 ≤ place.line
  column : 1 ≤ place.column
  before : (lines.take (place.line - 1)).flatten.length + (place.column - 1) = before
  within : place.column - 1 < (lines[place.line - 1]?.getD []).length

/-- What a cursor tells about the next character, in a source with these lines. -/
structure Cursor.Locates (lines : List (List Char)) (cursor : Cursor) : Prop where
  ended : cursor.nextLocation? = none ↔ cursor.isAtEnd = true
  marks : ∀ place,
    cursor.nextLocation?.map Location.numbers = some place ↔ place.Marks lines cursor.offset
  char : ∀ location, cursor.nextLocation? = some location →
    ∃ c, location.numbers.charIn? lines = some c ∧ cursor.peek? = some c
  inLine : cursor.peekInLine? =
    if cursor.nextLocation?.map (·.line) = some cursor.lineNumber then cursor.peek? else none

/-- Whatever calls follow, the answers are the same, and so is the location of the next character. -/
def CursorDesk.Alike (first second : CursorDesk) : Prop :=
  ∀ later, (runCursorCalls call first later).1 = (runCursorCalls call second later).1 ∧
    (runCursorCalls call first later).2.cursor.nextLocation? =
      (runCursorCalls call second later).2.cursor.nextLocation?

def CursorAnswer.ofChar (c : Char) : CursorAnswer := .char (some c)

/-- Forth over so many characters, and back by as many steps. -/
def CursorDesk.forthAndBack (count : Nat) (desk : CursorDesk) : CursorDesk :=
  ((runCursorCalls call desk (List.replicate count .read)).2.call (.unreadSpan count)).2

namespace Cursor

theorem offset_lt_of_line_lt (first second : Cursor) (same : first.lines = second.lines)
    (ahead : first.restOfLine ≠ []) (above : first.line < second.line) : first.offset < second.offset := by
  have inside := inSource_of_restOfLine first ahead
  have within : first.column < first.lineText.length := by
    simpa [restOfLine_eq_nil_iff] using ahead
  have here : first.lines[first.line]? = some first.lineText := by
    simp [lineText, List.getElem?_eq_getElem inside.1]
  have lineEnd := offset_lineStart first.lines first.line first.lineText here
  have before : (first.lines.take (first.line + 1)).flatten.length ≤
      (first.lines.take second.line).flatten.length :=
    (List.take_prefix_take_left above).flatten.length_le
  simp only [offset, ← same] at lineEnd ⊢
  omega

-- Of the positions of one place, only one is right before a character.
theorem eq_of_offset_eq (first second : Cursor) (same : first.lines = second.lines)
    (place : first.offset = second.offset) (ahead : first.restOfLine ≠ [])
    (ahead' : second.restOfLine ≠ []) : first = second := by
  have line : first.line = second.line := by
    rcases Nat.lt_trichotomy first.line second.line with above | level | below
    · exact absurd place (Nat.ne_of_lt (offset_lt_of_line_lt first second same ahead above))
    · exact level
    · exact absurd place.symm (Nat.ne_of_lt (offset_lt_of_line_lt second first same.symm ahead' below))
  have column : first.column = second.column := by
    rw [offset, offset, same, line] at place
    exact Nat.add_left_cancel place
  rcases first with ⟨lines, _, _⟩
  rcases second with ⟨_, _, _⟩
  cases same
  cases line
  cases column
  rfl

theorem offset_settled (cursor : Cursor) (inside : cursor.InSource) (ahead : cursor.textAhead ≠ []) :
    cursor.settled.offset = cursor.offset := by
  have reached : cursor.settled.InSource := inSource_of_restOfLine _ ahead
  exact offset_of_rest cursor cursor.settled inside reached cursor.lines_settled [] cursor.rest_settled.symm

theorem textAhead_eq_nil_iff_rest (cursor : Cursor) : cursor.textAhead = [] ↔ cursor.rest = [] := by
  rw [← List.head?_eq_none_iff, ← peek?_eq, peek?_eq_head, List.head?_eq_none_iff]

theorem nextPosition?_of_offset_eq (first second : Cursor) (inside : first.InSource)
    (inside' : second.InSource) (same : first.lines = second.lines)
    (place : first.offset = second.offset) : first.nextPosition? = second.nextPosition? := by
  have rest : first.rest = second.rest := by
    rw [rest_eq_drop first inside, rest_eq_drop second inside', same, place]
  by_cases ended : first.textAhead = []
  · have ended' : second.textAhead = [] := by
      rw [textAhead_eq_nil_iff_rest, ← rest, ← textAhead_eq_nil_iff_rest, ended]
    rw [nextPosition?_eq, nextPosition?_eq, if_pos ended, if_pos ended']
  · have more : second.textAhead ≠ [] := by
      rwa [ne_eq, textAhead_eq_nil_iff_rest, ← rest, ← textAhead_eq_nil_iff_rest]
    have settled : first.settled = second.settled := by
      apply eq_of_offset_eq _ _ _ _ ended more
      · rw [lines_settled, lines_settled, same]
      · rw [offset_settled first inside ended, offset_settled second inside' more, place]
    rw [nextPosition?_eq, nextPosition?_eq, if_neg ended, if_neg more, settled]

theorem nextLocation?_of_offset_eq (first second : Cursor) (inside : first.InSource)
    (inside' : second.InSource) (same : first.lines = second.lines)
    (place : first.offset = second.offset) : first.nextLocation? = second.nextLocation? := by
  rw [nextLocation?, nextLocation?, nextPosition?_of_offset_eq first second inside inside' same place]

theorem nextLocation?_of_restOfLine (cursor : Cursor) (ahead : cursor.restOfLine ≠ []) :
    cursor.nextLocation? = some ⟨cursor.lineNumber, cursor.columnNumber⟩ := by
  rw [nextLocation?, nextPosition?_of_restOfLine cursor ahead]
  rfl

end Cursor

theorem Position.marks_settled (cursor : Cursor) (inside : cursor.InSource) (ahead : cursor.textAhead ≠ []) :
    Position.Marks cursor.lines cursor.offset ⟨cursor.settled.line + 1, cursor.settled.column + 1⟩ where
  line := Nat.le_add_left 1 _
  column := Nat.le_add_left 1 _
  before := by
    rw [← Cursor.offset_settled cursor inside ahead, Cursor.offset, Cursor.lines_settled]
    rfl
  within := by
    have some : cursor.settled.restOfLine ≠ [] := ahead
    simpa [Cursor.restOfLine_eq_nil_iff, Cursor.lineText] using some

-- A cursor put on the marked character stands at the same place, so it has the same next position.
theorem Cursor.nextPosition?_of_marks (cursor : Cursor) (inside : cursor.InSource) (place : Position)
    (marks : place.Marks cursor.lines cursor.offset) :
    cursor.nextPosition?.map Position.counted = some place := by
  rcases place with ⟨line, column⟩
  rcases marks with ⟨lineCounted, columnCounted, before, within⟩
  let there : Cursor := ⟨cursor.lines, line - 1, column - 1⟩
  have ahead : there.restOfLine ≠ [] := by
    simpa [restOfLine_eq_nil_iff, lineText] using within
  have reached : there.InSource := inSource_of_restOfLine there ahead
  rw [nextPosition?_of_offset_eq cursor there inside reached rfl before.symm,
    nextPosition?_of_restOfLine there ahead, Option.map_some, Position.counted,
    Nat.sub_add_cancel lineCounted, Nat.sub_add_cancel columnCounted]

namespace Cursor

theorem nextPosition?_eq_some_iff (cursor : Cursor) (inside : cursor.InSource) (place : Position) :
    cursor.nextPosition?.map Position.counted = some place ↔
      place.Marks cursor.lines cursor.offset := by
  constructor
  · intro found
    rw [nextPosition?_eq, Option.map_eq_some_iff] at found
    obtain ⟨position, next, rfl⟩ := found
    obtain ⟨ahead, same⟩ := Option.ite_none_left_eq_some.mp next
    obtain rfl := Option.some.inj same
    exact Position.marks_settled cursor inside ahead
  · exact nextPosition?_of_marks cursor inside place

theorem numbers_nextLocation? (cursor : Cursor) (fits : FitsWords cursor.lines) :
    cursor.nextLocation?.map Location.numbers = cursor.nextPosition?.map Position.counted := by
  rw [nextLocation?, Option.map_map]
  exact Option.map_congr fun position found => fits.numbers_location position found

theorem charIn?_nextLocation? (cursor : Cursor) (fits : FitsWords cursor.lines) (location : Location)
    (found : cursor.nextLocation? = some location) :
    ∃ c, location.numbers.charIn? cursor.lines = some c ∧ cursor.peek? = some c := by
  rw [nextLocation?, Option.map_eq_some_iff] at found
  obtain ⟨position, next, rfl⟩ := found
  obtain ⟨c, here⟩ := charAt?_nextPosition? cursor position next
  rw [fits.numbers_location position next]
  refine ⟨c, here, ?_⟩
  rw [peek?, next, Option.bind_some, here]

theorem line_le_of_nextPosition? (cursor : Cursor) (position : Position)
    (found : cursor.nextPosition? = some position) : cursor.line ≤ position.line := by
  obtain ⟨skipped, _, _, _, place, _⟩ := firstUnread_rest _ _ _ _ found
  rw [place]
  exact Nat.le_add_right _ _

theorem toNat_lineNumber (cursor : Cursor) (inside : cursor.InSource) (fits : FitsWords cursor.lines) :
    cursor.lineNumber.toNat = cursor.line + 1 :=
  toNat_ofNat_add_one (Nat.lt_of_le_of_lt inside.1 fits.1)

theorem peekInLine?_eq (cursor : Cursor) (inside : cursor.InSource) (fits : FitsWords cursor.lines) :
    cursor.peekInLine? =
      if cursor.nextLocation?.map (·.line) = some cursor.lineNumber then cursor.peek? else none := by
  by_cases exhausted : cursor.restOfLine = []
  · -- The search goes on below the current line and never comes back to it.
    have elsewhere : cursor.nextLocation?.map (·.line) ≠ some cursor.lineNumber := by
      intro level
      rw [nextLocation?, Option.map_map, Option.map_eq_some_iff] at level
      obtain ⟨position, found, word⟩ := level
      have numbers := fits.numbers_location position found
      have line : position.line + 1 = cursor.line + 1 := by
        rw [← toNat_lineNumber cursor inside fits, ← word]
        exact congrArg Position.line numbers.symm
      rw [nextPosition?_onNextLine cursor exhausted] at found
      have below : cursor.line + 1 ≤ position.line := line_le_of_nextPosition? _ position found
      omega
    rw [peekInLine?, exhausted, if_neg elsewhere, List.head?_nil]
  · rw [nextLocation?_of_restOfLine cursor exhausted, Option.map_some, if_pos rfl, peek?_eq,
      textAhead_of_restOfLine cursor exhausted, peekInLine?]

theorem locates (cursor : Cursor) (inside : cursor.InSource) (fits : FitsWords cursor.lines) :
    cursor.Locates cursor.lines where
  ended := by rw [nextLocation?, isAtEnd, Option.map_eq_none_iff, Option.isNone_iff_eq_none]
  marks := by
    intro place
    rw [numbers_nextLocation? cursor fits]
    exact nextPosition?_eq_some_iff cursor inside place
  char := charIn?_nextLocation? cursor fits
  inLine := peekInLine?_eq cursor inside fits

theorem restOfLine_unread_ne_nil (cursor : Cursor) (inside : cursor.InSource) (some : cursor.offset ≠ 0) :
    cursor.unread.restOfLine ≠ [] := by
  rcases cursor with ⟨lines, line, column⟩
  induction line generalizing column with
  | zero =>
      cases column with
      | zero => exact absurd rfl some
      | succ column => exact mt (restOfLine_eq_nil_iff _).mp (Nat.not_le_of_lt inside.2)
  | succ line ih =>
      cases column with
      | zero =>
          have above : line < lines.length := Nat.lt_of_succ_lt inside.1
          have found : lines[line]? = .some lines[line] := List.getElem?_eq_getElem above
          rw [offset_lineStart lines line _ found] at some
          rw [unread_lineStart lines line _ found]
          exact ih _ (inSource_lineEnd lines line _ found) some
      | succ column => exact mt (restOfLine_eq_nil_iff _).mp (Nat.not_le_of_lt inside.2)

theorem restOfLine_unreadSpan_ne_nil (count : Nat) (cursor : Cursor) (inside : cursor.InSource)
    (some : 0 < count) (fits : count ≤ cursor.offset) : (cursor.unreadSpan count).restOfLine ≠ [] := by
  induction count generalizing cursor with
  | zero => exact absurd some (Nat.lt_irrefl 0)
  | succ count ih =>
      have place := offset_unread cursor inside
      cases count with
      | zero => exact restOfLine_unread_ne_nil cursor inside (by omega)
      | succ count => exact ih cursor.unread (inSource_unread cursor inside) (Nat.succ_pos _) (by omega)

end Cursor

theorem CursorDesk.lines_of_call (desk : CursorDesk) (call : CursorCall) :
    (desk.call call).2.cursor.lines = desk.cursor.lines := by
  cases call with
  | read =>
      rw [CursorDesk.call]
      split
      case h_1 c after read => exact Cursor.lines_of_read? _ _ _ read
      case h_2 => rfl
  | unreadSpan count => exact Cursor.lines_of_unreadSpan count desk.cursor
  | restore number => rw [CursorDesk.call]; split <;> rfl
  | consumedSince number => rw [CursorDesk.call]; split <;> rfl
  | peek | unread | snapshot | offset | isAtEnd => rfl

theorem CursorDesk.lines_of_run (desk : CursorDesk) (calls : List CursorCall) :
    (runCursorCalls call desk calls).2.cursor.lines = desk.cursor.lines := by
  induction calls generalizing desk with
  | nil => rfl
  | cons first later ih => exact (ih _).trans (lines_of_call desk first)

section

variable {text : List Char} {first second : CursorDesk} {flat : FlatCursor}

theorem Tracks.nextLocation? (tracks : Tracks text first flat) (tracks' : Tracks text second flat)
    (same : first.cursor.lines = second.cursor.lines) :
    first.cursor.nextLocation? = second.cursor.nextLocation? := by
  apply Cursor.nextLocation?_of_offset_eq _ _ tracks.inSource tracks'.inSource same
  rw [tracks.offset, tracks'.offset]

-- Two cursors of one number cannot be told apart.
theorem Tracks.alike (tracks : Tracks text first flat) (tracks' : Tracks text second flat)
    (same : first.cursor.lines = second.cursor.lines) : first.Alike second := by
  intro later
  obtain ⟨answers, reached⟩ := run_tracks tracks later
  obtain ⟨answers', reached'⟩ := run_tracks tracks' later
  refine ⟨answers.trans answers'.symm, reached.nextLocation? reached' ?_⟩
  rw [CursorDesk.lines_of_run, CursorDesk.lines_of_run, same]

end

theorem FlatCursor.run_reads (text : List Char) (flat : FlatCursor) (chars : List Char)
    (given : (runCursorCalls (call text) flat (List.replicate chars.length .read)).1 =
      chars.map CursorAnswer.ofChar) :
    (runCursorCalls (call text) flat (List.replicate chars.length .read)).2 =
      { flat with offset := flat.offset + chars.length } := by
  induction chars generalizing flat with
  | nil => rfl
  | cons c later ih =>
      rw [List.length_cons, List.replicate_succ] at given ⊢
      simp only [runCursorCalls, List.map_cons, List.cons.injEq] at given ⊢
      obtain ⟨answer, answers⟩ := given
      cases found : text[flat.offset]? with
      | none => simp [call, found, CursorAnswer.ofChar] at answer
      | some d =>
          simp only [call, found] at answers ⊢
          rw [ih _ answers, Nat.add_right_comm]
          rfl

theorem CursorDesk.lines_forthAndBack (count : Nat) (desk : CursorDesk) :
    (desk.forthAndBack count).cursor.lines = desk.cursor.lines :=
  (lines_of_call _ _).trans (lines_of_run _ _)

theorem Tracks.forthAndBack {text : List Char} {desk : CursorDesk} {flat : FlatCursor}
    (tracks : Tracks text desk flat) (chars : List Char)
    (given : (runCursorCalls CursorDesk.call desk (List.replicate chars.length .read)).1 =
      chars.map CursorAnswer.ofChar) :
    Tracks text (desk.forthAndBack chars.length) flat ∧
      (chars ≠ [] → (desk.forthAndBack chars.length).cursor.restOfLine ≠ []) := by
  obtain ⟨answers, behind⟩ := run_tracks tracks (List.replicate chars.length .read)
  rw [FlatCursor.run_reads text flat chars (answers.symm.trans given)] at behind
  constructor
  · have returned := (call_tracks behind (.unreadSpan chars.length)).2
    simp only [FlatCursor.call, Nat.add_sub_cancel] at returned
    exact returned
  · intro some
    apply Cursor.restOfLine_unreadSpan_ne_nil _ _ behind.inSource (List.length_pos_iff.mpr some)
    rw [behind.offset]
    exact Nat.le_add_left _ _

theorem locations_follow_offset (source : String) (terminator : Terminator) (calls : List CursorCall) :
    let reached := fun calls => (runCursorCalls CursorDesk.call (.ofSource source terminator) calls).2
    let desk := reached calls
    (FitsWords (terminator.lines source.toList) →
      desk.cursor.Locates (terminator.lines source.toList)) ∧
      (∀ others, (reached others).cursor.offset = desk.cursor.offset →
        (reached others).cursor.nextLocation? = desk.cursor.nextLocation?) ∧
      ∀ chars : List Char,
        (runCursorCalls CursorDesk.call desk (List.replicate chars.length .read)).1 =
          chars.map CursorAnswer.ofChar →
        let back := desk.forthAndBack chars.length
        back.Alike desk ∧
          (chars ≠ [] →
            desk.cursor.nextLocation? = some ⟨back.cursor.lineNumber, back.cursor.columnNumber⟩) := by
  intro reached desk
  have tracks := fun calls => (run_tracks (tracks_ofSource source terminator) calls).2
  have lines : ∀ calls, (reached calls).cursor.lines = terminator.lines source.toList :=
    CursorDesk.lines_of_run (.ofSource source terminator)
  refine ⟨?_, ?_, ?_⟩
  · rw [← lines calls]
    exact desk.cursor.locates (tracks calls).inSource
  · intro others place
    apply Cursor.nextLocation?_of_offset_eq _ _ (tracks others).inSource (tracks calls).inSource _ place
    rw [lines others, lines calls]
  · intro chars given back
    obtain ⟨returned, ahead⟩ := (tracks calls).forthAndBack chars given
    have same : back.cursor.lines = desk.cursor.lines := desk.lines_forthAndBack _
    refine ⟨returned.alike (tracks calls) same, ?_⟩
    intro some
    rw [← Cursor.nextLocation?_of_restOfLine _ (ahead some)]
    exact (tracks calls).nextLocation? returned same.symm

-- Behind the last character of a line, above a blank line: the way forth and back ends on the line below.
theorem locations_follow_offset_over_blank_line :
    let desk := (runCursorCalls CursorDesk.call (.ofSource "x\n\ny" .lf) [.read]).2
    let other := (runCursorCalls CursorDesk.call (.ofSource "x\n\ny" .lf) [.read, .read, .unread]).2
    let back := desk.forthAndBack 1
    FitsWords (Terminator.lf.lines "x\n\ny".toList) ∧
      Location.mk desk.cursor.lineNumber desk.cursor.columnNumber = ⟨1, 2⟩ ∧
      desk.cursor.nextLocation? = some ⟨back.cursor.lineNumber, back.cursor.columnNumber⟩ ∧
      desk.cursor.nextLocation?.map Location.numbers = some ⟨3, 1⟩ ∧
      other.cursor.nextLocation? = desk.cursor.nextLocation? ∧
      desk.cursor.peekInLine? = none ∧ back.Alike desk := by
  obtain ⟨located, location, round⟩ := locations_follow_offset "x\n\ny" .lf [.read]
  obtain ⟨alike, next⟩ := round ['y'] (by decide +kernel)
  have fits : FitsWords (Terminator.lf.lines "x\n\ny".toList) := by
    unfold FitsWords
    decide +kernel
  have locates := located fits
  have found := (locates.marks ⟨3, 1⟩).mpr ⟨by decide, by decide, by decide +kernel, by decide +kernel⟩
  have moved := location [.read, .read, .unread] (by decide +kernel)
  refine ⟨fits, by decide +kernel, next (List.cons_ne_nil _ _), found, moved, ?_, alike⟩
  exact locates.inLine.trans (if_neg (by decide +kernel))

end QueryLexer

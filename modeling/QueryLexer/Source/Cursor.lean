import QueryLexer.Source.Terminator

/-!
A reading position in a source that has been cut into lines. Reading goes on to the next line that has
characters left, so that terminators are never seen; a token that must stay on one line looks only at
`restOfLine`. Lines and columns are held from zero; they are reported from one, in 32 bits, so that a
count of 2^32 or more wraps.

The view of a cursor is `rest`, the characters still to be read: reading takes its head.
-/

namespace QueryLexer

structure Position where
  line : Nat
  column : Nat
  deriving DecidableEq, Repr

structure Location where
  line : UInt32
  column : UInt32
  deriving DecidableEq, Repr

def Position.location (position : Position) : Location :=
  ⟨UInt32.ofNat position.line + 1, UInt32.ofNat position.column + 1⟩

structure Cursor where
  lines : List (List Char)
  line : Nat
  column : Nat
  deriving DecidableEq, Repr

structure Snapshot where
  line : Nat
  column : Nat
  offset : Nat
  deriving DecidableEq, Repr

/-- The first character at or after `column` of the first line of `lines`. The lines are numbered from
`line`; those after the first are searched from their start. -/
def firstUnread : (lines : List (List Char)) → (line column : Nat) → Option Position
  | [], _, _ => none
  | text :: rest, line, column =>
      if column < text.length then some ⟨line, column⟩ else firstUnread rest (line + 1) 0

/-- The position one character before `column` of `line`, across line ends if need be. Before the first
character it is the start of the source. -/
def previous (lines : List (List Char)) : (line column : Nat) → Position
  | line, column + 1 => ⟨line, column⟩
  | 0, 0 => ⟨0, 0⟩
  | line + 1, 0 => previous lines line (lines[line]?.getD []).length

namespace Cursor

def ofSource (source : String) (terminator : Terminator) : Cursor :=
  ⟨terminator.lines source.toList, 0, 0⟩

def lineText (cursor : Cursor) : List Char := cursor.lines[cursor.line]?.getD []

def restOfLine (cursor : Cursor) : List Char := cursor.lineText.drop cursor.column

def rest (cursor : Cursor) : List Char :=
  cursor.restOfLine ++ (cursor.lines.drop (cursor.line + 1)).flatten

def nextPosition? (cursor : Cursor) : Option Position :=
  firstUnread (cursor.lines.drop cursor.line) cursor.line cursor.column

def charAt? (cursor : Cursor) (position : Position) : Option Char :=
  cursor.lines[position.line]?.bind (·[position.column]?)

def peek? (cursor : Cursor) : Option Char := cursor.nextPosition?.bind cursor.charAt?

def peekInLine? (cursor : Cursor) : Option Char := cursor.restOfLine.head?

def read? (cursor : Cursor) : Option (Char × Cursor) := do
  let position ← cursor.nextPosition?
  let c ← cursor.charAt? position
  return (c, { cursor with line := position.line, column := position.column + 1 })

def advance (cursor : Cursor) : Cursor := (cursor.read?.map (·.2)).getD cursor

def takeRun (accept : Char → Bool) (cursor : Cursor) : List Char × Cursor :=
  let run := cursor.restOfLine.takeWhile accept
  (run, { cursor with column := cursor.column + run.length })

def unread (cursor : Cursor) : Cursor :=
  let position := previous cursor.lines cursor.line cursor.column
  { cursor with line := position.line, column := position.column }

def unreadSpan : Nat → Cursor → Cursor
  | 0, cursor => cursor
  | count + 1, cursor => unreadSpan count cursor.unread

def isAtEnd (cursor : Cursor) : Bool := cursor.nextPosition?.isNone

def nextLocation? (cursor : Cursor) : Option Location := cursor.nextPosition?.map Position.location

def lineNumber (cursor : Cursor) : UInt32 := UInt32.ofNat cursor.line + 1

def columnNumber (cursor : Cursor) : UInt32 := UInt32.ofNat cursor.column + 1

def lineCount (cursor : Cursor) : Nat := cursor.lines.length

-- Terminators do not count.
def offset (cursor : Cursor) : Nat :=
  (cursor.lines.take cursor.line).flatten.length + cursor.column

def snapshot (cursor : Cursor) : Snapshot := ⟨cursor.line, cursor.column, cursor.offset⟩

def restore (cursor : Cursor) (saved : Snapshot) : Cursor :=
  { cursor with line := saved.line, column := saved.column }

/-- The number of characters read since the snapshot, or zero for a cursor in front of it. -/
def consumedSince (cursor : Cursor) (saved : Snapshot) : Nat := cursor.offset - saved.offset

end Cursor

-- The lines left of a search that found a character start with that character's line.
theorem firstUnread_rest (lines : List (List Char)) (line column : Nat) (position : Position)
    (found : firstUnread lines line column = some position) :
    ∃ skipped text later, lines = skipped ++ text :: later ∧
      position.line = line + skipped.length ∧ position.column < text.length ∧
      (lines[0]?.getD []).drop column ++ (lines.drop 1).flatten =
        text.drop position.column ++ later.flatten := by
  induction lines generalizing line column with
  | nil => simp [firstUnread] at found
  | cons head tail ih =>
      rw [firstUnread] at found
      split at found
      case isTrue inside =>
        cases found
        exact ⟨[], head, tail, by simp, by simp, inside, by simp⟩
      case isFalse exhausted =>
        obtain ⟨skipped, text, later, split, place, inside, same⟩ := ih (line + 1) 0 found
        refine ⟨head :: skipped, text, later, by simp [split], ?_, inside, ?_⟩
        · simp only [List.length_cons]; omega
        · have none : head.drop column = [] := List.drop_eq_nil_of_le (by omega)
          rw [← same]
          cases tail <;> simp [none]

namespace Cursor

theorem rest_of_read? (cursor after : Cursor) (c : Char) (read : cursor.read? = some (c, after)) :
    cursor.rest = c :: after.rest := by
  simp only [read?, Option.bind_eq_bind, Option.bind_eq_some_iff, Option.pure_def,
    Option.some.injEq, Prod.mk.injEq] at read
  obtain ⟨position, found, _, stands, rfl, rfl⟩ := read
  obtain ⟨skipped, text, later, split, place, inside, same⟩ := firstUnread_rest _ _ _ _ found
  have here : cursor.lines[position.line]? = some text := by
    rw [place, ← List.getElem?_drop, split]
    simp
  have beyond : cursor.lines.drop (position.line + 1) = later := by
    rw [place, Nat.add_assoc, ← List.drop_drop, split]
    simp
  have start : cursor.rest = text.drop position.column ++ later.flatten := by
    rw [← same, rest, restOfLine, lineText]
    simp
  simp only [charAt?, here, Option.bind_some] at stands
  obtain ⟨_, value⟩ := List.getElem?_eq_some_iff.mp stands
  rw [start, List.drop_eq_getElem_cons inside, value]
  simp [rest, restOfLine, lineText, here, beyond]

theorem rest_of_takeRun (accept : Char → Bool) (cursor : Cursor) :
    cursor.rest = (cursor.takeRun accept).1 ++ (cursor.takeRun accept).2.rest := by
  have cut : cursor.restOfLine.takeWhile accept ++
      cursor.restOfLine.drop (cursor.restOfLine.takeWhile accept).length = cursor.restOfLine := by
    obtain ⟨tail, whole⟩ := List.takeWhile_prefix accept (l := cursor.restOfLine)
    generalize cursor.restOfLine.takeWhile accept = run at whole
    rw [← whole, List.drop_left]
  simp only [rest, takeRun, restOfLine, lineText, List.drop_drop] at cut ⊢
  rw [← List.append_assoc, cut]

theorem rest_of_advance_le (cursor : Cursor) : cursor.advance.rest.length ≤ cursor.rest.length := by
  unfold advance
  cases read : cursor.read? with
  | none => simp
  | some result =>
      rw [rest_of_read? cursor result.2 result.1 read]
      simp

theorem lines_of_read? (cursor after : Cursor) (c : Char) (read : cursor.read? = some (c, after)) :
    after.lines = cursor.lines := by
  simp only [read?, Option.bind_eq_bind, Option.bind_eq_some_iff, Option.pure_def,
    Option.some.injEq, Prod.mk.injEq] at read
  obtain ⟨_, _, _, _, _, rfl⟩ := read
  rfl

theorem lines_of_advance (cursor : Cursor) : cursor.advance.lines = cursor.lines := by
  unfold advance
  cases read : cursor.read? with
  | none => rfl
  | some result => exact lines_of_read? cursor result.2 result.1 read

theorem lines_of_unreadSpan (count : Nat) (cursor : Cursor) :
    (cursor.unreadSpan count).lines = cursor.lines := by
  induction count generalizing cursor with
  | zero => rfl
  | succ count ih => exact ih cursor.unread

end Cursor

end QueryLexer

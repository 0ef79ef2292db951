import QueryLexer.Proofs.Source.Offset

/-!
A cursor over lines is a number. Of what a reader asks of a cursor, apart from lines and columns, the
answers depend only on how many characters stand before it: the flat cursor holds that number and the
text of the source without its terminators, and for every sequence of calls it answers as the cursor over
lines does. The end of a line, the starts of the blank lines below it and the start of the next line with
characters are one number, so a cursor is related to the number of its place, not to a position.

The cursor looks lines up by index. Behind every sequence of calls all indices are in range: with each look
checked, the next call comes to the same.
-/

namespace QueryLexer

inductive CursorCall where
  | read | peek | unread
  | unreadSpan (count : Nat)
  | snapshot
  /-- Back to the snapshot with this number; the first that was taken has the number zero. -/
  | restore (number : Nat)
  | offset | isAtEnd
  | consumedSince (number : Nat)
  deriving DecidableEq, Repr

inductive CursorAnswer where
  | char (c : Option Char)
  | count (characters : Nat)
  | flag (holds : Bool)
  | done
  | missing
  deriving DecidableEq, Repr

def runCursorCalls {State : Type} (call : State → CursorCall → CursorAnswer × State) :
    State → List CursorCall → List CursorAnswer × State
  | state, [] => ([], state)
  | state, first :: later =>
      let (answer, after) := call state first
      let (answers, final) := runCursorCalls call after later
      (answer :: answers, final)

/-- A cursor, and the snapshots that were taken of it. -/
structure CursorDesk where
  cursor : Cursor
  saved : List Snapshot
  deriving DecidableEq, Repr

namespace CursorDesk

def ofSource (source : String) (terminator : Terminator) : CursorDesk :=
  ⟨Cursor.ofSource source terminator, []⟩

def call (desk : CursorDesk) : CursorCall → CursorAnswer × CursorDesk
  | .read =>
      match desk.cursor.read? with
      | some (c, after) => (.char (some c), { desk with cursor := after })
      | none => (.char none, desk)
  | .peek => (.char desk.cursor.peek?, desk)
  | .unread => (.done, { desk with cursor := desk.cursor.unread })
  | .unreadSpan count => (.done, { desk with cursor := desk.cursor.unreadSpan count })
  | .snapshot =>
      (.count desk.cursor.snapshot.offset, { desk with saved := desk.saved ++ [desk.cursor.snapshot] })
  | .restore number =>
      match desk.saved[number]? with
      | some saved => (.done, { desk with cursor := desk.cursor.restore saved })
      | none => (.missing, desk)
  | .offset => (.count desk.cursor.offset, desk)
  | .isAtEnd => (.flag desk.cursor.isAtEnd, desk)
  | .consumedSince number =>
      match desk.saved[number]? with
      | some saved => (.count (desk.cursor.consumedSince saved), desk)
      | none => (.missing, desk)

end CursorDesk

/-- A number of characters that are read, and the numbers at which snapshots were taken. -/
structure FlatCursor where
  offset : Nat
  saved : List Nat
  deriving DecidableEq, Repr

namespace FlatCursor

def start : FlatCursor := ⟨0, []⟩

def call (text : List Char) (flat : FlatCursor) : CursorCall → CursorAnswer × FlatCursor
  | .read =>
      match text[flat.offset]? with
      | some c => (.char (some c), { flat with offset := flat.offset + 1 })
      | none => (.char none, flat)
  | .peek => (.char text[flat.offset]?, flat)
  | .unread => (.done, { flat with offset := flat.offset - 1 })
  | .unreadSpan count => (.done, { flat with offset := flat.offset - count })
  | .snapshot => (.count flat.offset, { flat with saved := flat.saved ++ [flat.offset] })
  | .restore number =>
      match flat.saved[number]? with
      | some offset => (.done, { flat with offset })
      | none => (.missing, flat)
  | .offset => (.count flat.offset, flat)
  | .isAtEnd => (.flag (flat.offset == text.length), flat)
  | .consumedSince number =>
      match flat.saved[number]? with
      | some offset => (.count (flat.offset - offset), flat)
      | none => (.missing, flat)

end FlatCursor

/-- The cursor stands in a source with this text, at the place with that number, and so do its snapshots. -/
structure Tracks (text : List Char) (desk : CursorDesk) (flat : FlatCursor) : Prop where
  text : desk.cursor.lines.flatten = text
  inSource : desk.cursor.InSource
  offset : desk.cursor.offset = flat.offset
  valid : ∀ snapshot ∈ desk.saved, snapshot.InSourceOf desk.cursor
  saved : desk.saved.map (·.offset) = flat.saved

section Steps

variable {text : List Char} {desk : CursorDesk} {flat : FlatCursor}

theorem Tracks.rest (tracks : Tracks text desk flat) : desk.cursor.rest = text.drop flat.offset := by
  rw [Cursor.rest_eq_drop _ tracks.inSource, tracks.text, tracks.offset]

theorem Tracks.within (tracks : Tracks text desk flat) : flat.offset ≤ text.length := by
  have whole := Cursor.offset_add_rest desk.cursor tracks.inSource
  rw [tracks.text, tracks.offset] at whole
  omega

theorem Tracks.moved (tracks : Tracks text desk flat) (after : Cursor) (offset : Nat)
    (same : after.lines = desk.cursor.lines) (inside : after.InSource) (place : after.offset = offset) :
    Tracks text { desk with cursor := after } { flat with offset } where
  text := by rw [← tracks.text, same]
  inSource := inside
  offset := place
  valid := fun snapshot member => (tracks.valid snapshot member).of_lines after same
  saved := tracks.saved

theorem read_tracks (tracks : Tracks text desk flat) :
    (desk.call .read).1 = (flat.call text .read).1 ∧
      Tracks text (desk.call .read).2 (flat.call text .read).2 := by
  have rest := tracks.rest
  cases read : desk.cursor.read? with
  | none =>
      have ended : text[flat.offset]? = none := by
        rw [← List.head?_drop, ← rest, (Cursor.read?_eq_none_iff _).mp read, List.head?_nil]
      simp only [CursorDesk.call, FlatCursor.call, read, ended]
      exact ⟨trivial, tracks⟩
  | some result =>
      rcases result with ⟨c, after⟩
      have here : text[flat.offset]? = some c := by
        rw [← List.head?_drop, ← rest, Cursor.rest_of_read? _ _ _ read, List.head?_cons]
      simp only [CursorDesk.call, FlatCursor.call, read, here]
      refine ⟨trivial, tracks.moved after _ (Cursor.lines_of_read? _ _ _ read) ?_ ?_⟩
      · exact Cursor.inSource_of_read? _ _ _ read
      · rw [Cursor.offset_of_read? _ _ _ tracks.inSource read, tracks.offset]

theorem snapshot_tracks (tracks : Tracks text desk flat) :
    Tracks text (desk.call .snapshot).2 (flat.call text .snapshot).2 where
  text := tracks.text
  inSource := tracks.inSource
  offset := tracks.offset
  valid := by
    intro snapshot member
    rcases List.mem_append.mp member with earlier | taken
    · exact tracks.valid snapshot earlier
    · obtain rfl := List.mem_singleton.mp taken
      exact Cursor.inSourceOf_snapshot desk.cursor desk.cursor tracks.inSource rfl
  saved := by
    simp only [CursorDesk.call, FlatCursor.call, List.map_append, tracks.saved, ← tracks.offset]
    rfl

theorem Tracks.lookup (tracks : Tracks text desk flat) (number : Nat) :
    flat.saved[number]? = desk.saved[number]?.map (·.offset) := by
  rw [← tracks.saved, List.getElem?_map]

theorem restore_tracks (tracks : Tracks text desk flat) (number : Nat) :
    (desk.call (.restore number)).1 = (flat.call text (.restore number)).1 ∧
      Tracks text (desk.call (.restore number)).2 (flat.call text (.restore number)).2 := by
  simp only [CursorDesk.call, FlatCursor.call, tracks.lookup]
  cases found : desk.saved[number]? with
  | none => exact ⟨rfl, tracks⟩
  | some snapshot =>
      have valid := tracks.valid snapshot (List.mem_of_getElem? found)
      exact ⟨rfl, tracks.moved _ _ rfl valid.1 valid.2⟩

theorem consumedSince_tracks (tracks : Tracks text desk flat) (number : Nat) :
    (desk.call (.consumedSince number)).1 = (flat.call text (.consumedSince number)).1 ∧
      Tracks text (desk.call (.consumedSince number)).2 (flat.call text (.consumedSince number)).2 := by
  simp only [CursorDesk.call, FlatCursor.call, tracks.lookup, Cursor.consumedSince, tracks.offset]
  cases desk.saved[number]? with
  | none => exact ⟨rfl, tracks⟩
  | some snapshot => exact ⟨rfl, tracks⟩

theorem Tracks.isAtEnd (tracks : Tracks text desk flat) :
    desk.cursor.isAtEnd = (flat.offset == text.length) := by
  have within := tracks.within
  rw [Cursor.isAtEnd_eq, tracks.rest, Bool.eq_iff_iff, List.isEmpty_iff, List.drop_eq_nil_iff, beq_iff_eq]
  omega

theorem call_tracks (tracks : Tracks text desk flat) (call : CursorCall) :
    (desk.call call).1 = (flat.call text call).1 ∧
      Tracks text (desk.call call).2 (flat.call text call).2 := by
  cases call with
  | read => exact read_tracks tracks
  | peek =>
      refine ⟨?_, tracks⟩
      rw [CursorDesk.call, FlatCursor.call, Cursor.peek?_eq_head, tracks.rest, List.head?_drop]
  | unread =>
      refine ⟨rfl, tracks.moved _ _ rfl (Cursor.inSource_unread _ tracks.inSource) ?_⟩
      rw [Cursor.offset_unread _ tracks.inSource, tracks.offset]
  | unreadSpan count =>
      have kept := Cursor.lines_of_unreadSpan count desk.cursor
      refine ⟨rfl, tracks.moved _ _ kept (Cursor.inSource_unreadSpan count _ tracks.inSource) ?_⟩
      rw [Cursor.offset_unreadSpan count _ tracks.inSource, tracks.offset]
  | snapshot => exact ⟨congrArg CursorAnswer.count tracks.offset, snapshot_tracks tracks⟩
  | restore number => exact restore_tracks tracks number
  | offset => exact ⟨congrArg CursorAnswer.count tracks.offset, tracks⟩
  | isAtEnd => exact ⟨congrArg CursorAnswer.flag tracks.isAtEnd, tracks⟩
  | consumedSince number => exact consumedSince_tracks tracks number

theorem run_tracks (tracks : Tracks text desk flat) (calls : List CursorCall) :
    (runCursorCalls CursorDesk.call desk calls).1 =
        (runCursorCalls (FlatCursor.call text) flat calls).1 ∧
      Tracks text (runCursorCalls CursorDesk.call desk calls).2
        (runCursorCalls (FlatCursor.call text) flat calls).2 := by
  induction calls generalizing desk flat with
  | nil => exact ⟨rfl, tracks⟩
  | cons call later ih =>
      rcases call_tracks tracks call with ⟨answer, after⟩
      rcases ih after with ⟨answers, final⟩
      refine ⟨?_, final⟩
      simp only [runCursorCalls, answer, answers]

end Steps

theorem tracks_ofSource (source : String) (terminator : Terminator) :
    Tracks (terminator.lines source.toList).flatten (.ofSource source terminator) .start where
  text := rfl
  inSource := Cursor.inSource_ofSource source terminator
  offset := rfl
  valid := fun _ member => absurd member List.not_mem_nil
  saved := rfl

-- Every look checked: the lines and the table of line starts are looked up by index, and `none` stands for
-- an index out of range.
/-- How many characters stand before each line, if `before` of them stand before the first. -/
def lineStarts (before : Nat) : List (List Char) → List Nat
  | [] => []
  | text :: later => before :: lineStarts (before + text.length) later

def checkedUnread (lines : List (List Char)) (line column : Nat) : Option (Option Position) :=
  match lines[line]? with
  | none => none
  | some text =>
      if column < text.length then some (some ⟨line, column⟩)
      else if lines.length ≤ line + 1 then some none
      else checkedUnread lines (line + 1) 0
termination_by lines.length - line

def checkedPrevious (lines : List (List Char)) : (line column : Nat) → Option Position
  | line, column + 1 => some ⟨line, column⟩
  | 0, 0 => some ⟨0, 0⟩
  | line + 1, 0 => lines[line]?.bind fun text => checkedPrevious lines line text.length

namespace Cursor

def checkedRead (cursor : Cursor) : Option (Option (Char × Cursor)) := do
  match ← checkedUnread cursor.lines cursor.line cursor.column with
  | none => return none
  | some position =>
      let c ← cursor.charAt? position
      return some (c, { cursor with line := position.line, column := position.column + 1 })

def checkedPeek (cursor : Cursor) : Option (Option Char) := do
  match ← checkedUnread cursor.lines cursor.line cursor.column with
  | none => return none
  | some position => return some (← cursor.charAt? position)

def checkedStepBack (cursor : Cursor) : Option Cursor := do
  let position ← checkedPrevious cursor.lines cursor.line cursor.column
  return { cursor with line := position.line, column := position.column }

def checkedStepsBack : Nat → Cursor → Option Cursor
  | 0, cursor => some cursor
  | count + 1, cursor => do checkedStepsBack count (← cursor.checkedStepBack)

def checkedOffset (cursor : Cursor) : Option Nat := do
  return (← (lineStarts 0 cursor.lines)[cursor.line]?) + cursor.column

end Cursor

def CursorDesk.checkedCall (desk : CursorDesk) : CursorCall → Option (CursorAnswer × CursorDesk)
  | .read => do
      match ← desk.cursor.checkedRead with
      | some (c, after) => return (.char (some c), { desk with cursor := after })
      | none => return (.char none, desk)
  | .peek => do return (.char (← desk.cursor.checkedPeek), desk)
  | .unread => do return (.done, { desk with cursor := ← desk.cursor.checkedStepBack })
  | .unreadSpan count => do
      return (.done, { desk with cursor := ← desk.cursor.checkedStepsBack count })
  | .snapshot => do
      let offset ← desk.cursor.checkedOffset
      return (.count offset,
        { desk with saved := desk.saved ++ [⟨desk.cursor.line, desk.cursor.column, offset⟩] })
  | .restore number => return desk.call (.restore number)
  | .offset => do return (.count (← desk.cursor.checkedOffset), desk)
  | .isAtEnd => do
      let next ← checkedUnread desk.cursor.lines desk.cursor.line desk.cursor.column
      return (.flag next.isNone, desk)
  | .consumedSince number =>
      match desk.saved[number]? with
      | some saved => do return (.count ((← desk.cursor.checkedOffset) - saved.offset), desk)
      | none => return (.missing, desk)

theorem getElem?_lineStarts (before : Nat) (lines : List (List Char)) (line : Nat)
    (inside : line < lines.length) :
    (lineStarts before lines)[line]? = some (before + (lines.take line).flatten.length) := by
  induction lines generalizing before line with
  | nil => exact absurd inside (Nat.not_lt_zero _)
  | cons text later ih =>
      cases line with
      | zero => rfl
      | succ line =>
          rw [lineStarts, List.getElem?_cons_succ, ih _ line (Nat.lt_of_succ_lt_succ inside),
            List.take_succ_cons, List.flatten_cons, List.length_append, Nat.add_assoc]

theorem checkedUnread_eq (lines : List (List Char)) (line column : Nat) (inside : line < lines.length) :
    checkedUnread lines line column = some (firstUnread (lines.drop line) line column) := by
  fun_induction checkedUnread lines line column with
  | case1 line column outside => simp [inside] at outside
  | case2 line column text found within =>
      have here : lines[line] = text := by simpa [inside] using found
      rw [List.drop_eq_getElem_cons inside, firstUnread, here, if_pos within]
  | case3 line column text found exhausted last =>
      have here : lines[line] = text := by simpa [inside] using found
      rw [List.drop_eq_getElem_cons inside, firstUnread, here, if_neg exhausted,
        List.drop_eq_nil_of_le last]
      rfl
  | case4 line column text found exhausted more ih =>
      have here : lines[line] = text := by simpa [inside] using found
      rw [List.drop_eq_getElem_cons inside, firstUnread, here, if_neg exhausted]
      exact ih (Nat.lt_of_not_le more)

theorem checkedPrevious_eq (lines : List (List Char)) (line column : Nat) (inside : line < lines.length) :
    checkedPrevious lines line column = some (previous lines line column) := by
  fun_induction checkedPrevious lines line column with
  | case1 line column => rw [previous]
  | case2 => rw [previous]
  | case3 line ih =>
      have above : line < lines.length := Nat.lt_of_succ_lt inside
      rw [List.getElem?_eq_getElem above, Option.bind_some, ih _ above, previous,
        List.getElem?_eq_getElem above, Option.getD_some]

namespace Cursor

theorem charAt?_nextPosition? (cursor : Cursor) (position : Position)
    (found : cursor.nextPosition? = some position) : ∃ c, cursor.charAt? position = some c := by
  have some : cursor.textAhead ≠ [] := restOfLine_settled_ne_nil cursor position found
  have place := nextPosition?_eq cursor
  rw [found, if_neg some] at place
  rcases List.exists_cons_of_ne_nil some with ⟨c, later, text⟩
  refine ⟨c, ?_⟩
  rw [Option.some.inj place, charAt?_settled, text, List.head?_cons]

section

variable (cursor : Cursor) (inside : cursor.InSource)

include inside

theorem checkedNext_eq :
    checkedUnread cursor.lines cursor.line cursor.column = some cursor.nextPosition? :=
  checkedUnread_eq _ _ _ inside.1

theorem checkedRead_eq : cursor.checkedRead = some cursor.read? := by
  rw [checkedRead, checkedNext_eq cursor inside, read?]
  cases found : cursor.nextPosition? with
  | none => rfl
  | some position =>
      rcases charAt?_nextPosition? cursor position found with ⟨c, here⟩
      simp [here]

theorem checkedPeek_eq : cursor.checkedPeek = some cursor.peek? := by
  rw [checkedPeek, checkedNext_eq cursor inside, peek?]
  cases found : cursor.nextPosition? with
  | none => rfl
  | some position =>
      rcases charAt?_nextPosition? cursor position found with ⟨c, here⟩
      simp [here]

theorem checkedStepBack_eq : cursor.checkedStepBack = some cursor.unread := by
  rw [checkedStepBack, checkedPrevious_eq _ _ _ inside.1]
  rfl

theorem checkedOffset_eq : cursor.checkedOffset = some cursor.offset := by
  rw [checkedOffset, getElem?_lineStarts _ _ _ inside.1, Nat.zero_add]
  rfl

end

theorem checkedStepsBack_eq (count : Nat) (cursor : Cursor) (inside : cursor.InSource) :
    cursor.checkedStepsBack count = some (cursor.unreadSpan count) := by
  induction count generalizing cursor with
  | zero => rfl
  | succ count ih =>
      rw [checkedStepsBack, checkedStepBack_eq cursor inside]
      exact ih cursor.unread (inSource_unread cursor inside)

end Cursor

theorem checkedCall_eq (desk : CursorDesk) (inside : desk.cursor.InSource) (call : CursorCall) :
    desk.checkedCall call = some (desk.call call) := by
  have next := Cursor.checkedNext_eq desk.cursor inside
  have offset := Cursor.checkedOffset_eq desk.cursor inside
  cases call with
  | read =>
      rw [CursorDesk.checkedCall, Cursor.checkedRead_eq _ inside, CursorDesk.call]
      cases desk.cursor.read? <;> rfl
  | peek =>
      rw [CursorDesk.checkedCall, Cursor.checkedPeek_eq _ inside]
      rfl
  | unread =>
      rw [CursorDesk.checkedCall, Cursor.checkedStepBack_eq _ inside]
      rfl
  | unreadSpan count =>
      rw [CursorDesk.checkedCall, Cursor.checkedStepsBack_eq count _ inside]
      rfl
  | snapshot =>
      rw [CursorDesk.checkedCall, offset]
      rfl
  | restore number => rfl
  | offset =>
      rw [CursorDesk.checkedCall, offset]
      rfl
  | isAtEnd =>
      rw [CursorDesk.checkedCall, next]
      rfl
  | consumedSince number =>
      rw [CursorDesk.checkedCall, CursorDesk.call, offset]
      cases desk.saved[number]? <;> rfl

theorem cursor_refines_offset (source : String) (terminator : Terminator) (calls : List CursorCall) :
    let text := (terminator.lines source.toList).flatten
    let reached := runCursorCalls CursorDesk.call (.ofSource source terminator) calls
    let flat := runCursorCalls (FlatCursor.call text) .start calls
    reached.1 = flat.1 ∧ flat.2.offset ≤ text.length ∧
      (∀ call, reached.2.checkedCall call = some (reached.2.call call)) ∧
      (flat.2.offset = text.length → (reached.2.call .read).2 = reached.2) := by
  intro text reached flat
  rcases run_tracks (tracks_ofSource source terminator) calls with ⟨answers, final⟩
  refine ⟨answers, final.within, checkedCall_eq _ final.inSource, ?_⟩
  intro ended
  have used : reached.2.cursor.rest = [] := by
    rw [final.rest]
    exact List.drop_eq_nil_of_le (Nat.le_of_eq ended.symm)
  simp only [CursorDesk.call, (Cursor.read?_eq_none_iff _).mpr used]

end QueryLexer

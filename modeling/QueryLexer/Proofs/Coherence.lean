import QueryLexer.Proofs.ListMachine
import QueryLexer.Proofs.Source.Offset

/-!
What holds of a stream after every sequence of calls. Its cursor stands in the source. Its undo record
tells where the last `get` began and how far it went: from there, `get` comes to the same place again. A
stream that is fused stands in front of the error that its iterator gave last.

A step lemma for each call, over the answers given so far, carries this through every run.
-/

namespace QueryLexer

namespace Classifier

theorem inSource_of_inTurn (cursor after : Cursor) (found : Match)
    (first : inTurn chain cursor = (some found, after)) : after.InSource := by
  rcases (inTurn_chain_eq_some_iff cursor after found).mp first with ⟨recognized, rfl⟩
  rcases written_of_tokenAt? _ _ recognized with ⟨chars, rest, text, written, taken, _⟩
  have some : cursor.settled.restOfLine ≠ [] := by
    rw [← Cursor.textAhead, text]
    simp [written.ne_nil]
  apply Cursor.inSource_moved _ _ (Cursor.inSource_of_restOfLine _ some)
  rw [← Cursor.textAhead, text, taken, List.length_append]
  exact Nat.le_add_right _ _

theorem inSource_of_scan (order : List Classifier) (usual : order = chain) (skipTrivia : Bool)
    (cursor : Cursor) (inside : cursor.InSource) : (scan order skipTrivia cursor).2.InSource := by
  fun_induction scan order skipTrivia cursor with
  | case1 => exact inside
  | case2 cursor location _ after missed =>
      rw [cursor_of_inTurn_none order cursor after missed]
      exact inside
  | case3 cursor location _ found after first _ ih =>
      subst usual
      exact ih (inSource_of_inTurn cursor after found first)
  | case4 cursor location _ found after first _ =>
      subst usual
      exact inSource_of_inTurn cursor after found first

theorem rest_le_of_scan (order : List Classifier) (skipTrivia : Bool) (cursor : Cursor) :
    (scan order skipTrivia cursor).2.rest.length ≤ cursor.rest.length := by
  fun_induction scan order skipTrivia cursor with
  | case1 => exact Nat.le_refl _
  | case2 cursor location _ after missed =>
      rw [cursor_of_inTurn_none order cursor after missed]
  | case3 cursor location _ found after first _ ih =>
      exact Nat.le_trans ih (Nat.le_of_lt (rest_lt_of_inTurn _ _ _ _ first))
  | case4 cursor location _ found after first _ =>
      exact Nat.le_of_lt (rest_lt_of_inTurn _ _ _ _ first)

end Classifier

namespace TokenStream

def rewound (stream : TokenStream) (saved : Snapshot) : TokenStream :=
  { stream with cursor := stream.cursor.restore saved }

-- What `get` gives and where it goes depend on the cursor only.
theorem get_of_cursor (first second : TokenStream) (order : first.order = second.order)
    (mode : first.mode = second.mode) (cursor : first.cursor = second.cursor) :
    first.get.1 = second.get.1 ∧ first.get.2.cursor = second.get.2.cursor ∧
      first.get.2.pushback = second.get.2.pushback := by
  simp only [get, order, mode, cursor]
  exact ⟨trivial, trivial, trivial⟩

theorem inSource_of_get (stream : TokenStream) (usual : stream.order = Classifier.chain)
    (inside : stream.cursor.InSource) : stream.get.2.cursor.InSource := by
  rcases cursor_of_get stream with kept | reached
  · rw [kept]
    exact inside
  · rw [reached]
    exact Classifier.inSource_of_scan _ usual _ _ inside

theorem offset_le_of_get (stream : TokenStream) (usual : stream.order = Classifier.chain)
    (inside : stream.cursor.InSource) : stream.cursor.offset ≤ stream.get.2.cursor.offset := by
  apply Cursor.offset_le_of_rest_le _ _ inside (inSource_of_get stream usual inside) (lines_of_get stream)
  rcases cursor_of_get stream with kept | reached
  · rw [kept]
  · rw [reached]
    exact Classifier.rest_le_of_scan _ _ _

/-- The undo record tells where the last `get` began, and how it came to where the stream is. -/
structure Undoes (stream : TokenStream) (saved : Pushback) : Prop where
  start : saved.start.InSourceOf stream.cursor
  span : saved.start.offset + saved.span = stream.cursor.offset
  again : (stream.rewound saved.start).get.2.cursor = stream.cursor ∧
    (stream.rewound saved.start).get.2.lastSpan = saved.span

theorem undoes_of_get (stream : TokenStream) (usual : stream.order = Classifier.chain)
    (inside : stream.cursor.InSource) (saved : Pushback) (found : stream.get.2.pushback = some saved) :
    stream.get.2.Undoes saved := by
  have same := lines_of_get stream
  obtain rfl : ⟨stream.cursor.snapshot,
      stream.get.2.cursor.consumedSince stream.cursor.snapshot⟩ = saved := Option.some.inj found
  constructor
  · exact Cursor.inSourceOf_snapshot stream.cursor _ inside same
  · exact Nat.add_sub_cancel' (offset_le_of_get stream usual inside)
  · have back : (stream.get.2.rewound stream.cursor.snapshot).cursor = stream.cursor :=
      Cursor.restore_snapshot _ _ same
    rcases get_of_cursor (stream.get.2.rewound stream.cursor.snapshot) stream rfl rfl back with
      ⟨_, cursor, pushback⟩
    refine ⟨cursor, ?_⟩
    rw [lastSpan, pushback]
    rfl

end TokenStream

def Answer.item? : Answer → Option (Except LexError Token)
  | .yielded item => item
  | _ => none

def lastYielded (history : List Answer) : Option (Except LexError Token) :=
  (history.filterMap Answer.item?).getLast?

theorem lastYielded_append (history : List Answer) (answer : Answer) :
    lastYielded (history ++ [answer]) = answer.item?.or (lastYielded history) := by
  rw [lastYielded, lastYielded, List.filterMap_append]
  cases item : answer.item? with
  | none => simp [item]
  | some found => simp [item]

namespace TokenStream

/-- What holds of a stream over `source` that was opened in `mode` and has given the answers `history`. -/
structure Coherent (source : String) (mode : LexMode) (history : List Answer) (stream : TokenStream) :
    Prop where
  usual : stream.order = Classifier.chain
  reading : stream.mode = mode
  lines : stream.cursor.lines = mode.terminator.lines source.toList
  inSource : stream.cursor.InSource
  undo : ∀ saved, stream.pushback = some saved → stream.Undoes saved
  fuse : stream.fused = true → ∃ error saved, lastYielded history = some (.error error) ∧
    stream.pushback = some saved ∧ saved.span = 0 ∧
    stream.get.1 = .error error ∧ stream.peek.1 = .error error

theorem coherent_ofSource (source : String) (mode : LexMode) :
    (ofSource source mode).Coherent source mode [] where
  usual := rfl
  reading := rfl
  lines := rfl
  inSource := Cursor.inSource_ofSource source mode.terminator
  undo := by
    intro saved found
    cases found
  fuse := by
    intro fused
    cases fused

section Steps

variable {source : String} {mode : LexMode} {history : List Answer} {stream : TokenStream}

theorem Coherent.of_silent (coherent : stream.Coherent source mode history) (answer : Answer)
    (silent : answer.item? = none) : stream.Coherent source mode (history ++ [answer]) := by
  refine { coherent with fuse := ?_ }
  rw [lastYielded_append, silent]
  exact coherent.fuse

-- The history matters to a fused stream only.
theorem Coherent.of_unfused (coherent : stream.Coherent source mode history)
    (unfused : stream.fused = false) (other : List Answer) : stream.Coherent source mode other := by
  refine { coherent with fuse := ?_ }
  intro fused
  cases unfused.symm.trans fused

-- Behind an error the stream is where it was, and the same error comes again.
theorem again_of_error (stream : TokenStream) (error : LexError) (taken : stream.get.1 = .error error) :
    ∃ saved, stream.get.2.pushback = some saved ∧ saved.span = 0 ∧
      stream.get.2.get.1 = .error error ∧ stream.get.2.peek.1 = .error error := by
  have kept := cursor_of_error stream error taken
  have repeated := (get_of_cursor stream.get.2 stream rfl rfl kept).1
  refine ⟨⟨stream.cursor.snapshot, _⟩, rfl, ?_, ?_, ?_⟩
  · change stream.get.2.cursor.consumedSince stream.cursor.snapshot = 0
    rw [kept]
    exact Nat.sub_self _
  · rw [repeated, taken]
  · exact repeated.trans taken

theorem get_coherent (coherent : stream.Coherent source mode history) :
    stream.get.2.Coherent source mode (history ++ [.taken stream.get.1]) := by
  apply Coherent.of_silent _ _ rfl
  constructor
  · exact coherent.usual
  · exact coherent.reading
  · exact (lines_of_get stream).trans coherent.lines
  · exact inSource_of_get stream coherent.usual coherent.inSource
  · exact undoes_of_get stream coherent.usual coherent.inSource
  · intro fused
    rcases coherent.fuse fused with ⟨error, _, last, _, _, taken, _⟩
    rcases again_of_error stream error taken with ⟨saved, found⟩
    exact ⟨error, saved, last, found⟩

theorem unget_coherent (coherent : stream.Coherent source mode history) :
    (stream.call .unget).2.Coherent source mode (history ++ [(stream.call .unget).1]) := by
  cases recorded : stream.pushback with
  | none =>
      simp only [call, unget, recorded]
      exact coherent.of_silent _ rfl
  | some saved =>
      simp only [call, unget, recorded]
      constructor
      · exact coherent.usual
      · exact coherent.reading
      · exact coherent.lines
      · exact (coherent.undo saved recorded).start.1
      · intro other found
        cases found
      · intro fused
        cases fused

theorem next_coherent (coherent : stream.Coherent source mode history) :
    stream.next.2.Coherent source mode (history ++ [.yielded stream.next.1]) := by
  have after := get_coherent coherent
  unfold next
  cases fused : stream.fused with
  | true => exact coherent.of_silent _ rfl
  | false =>
      have unfused : stream.get.2.fused = false := fused
      have again := again_of_error stream
      cases taken : stream.get with
      | mk outcome reached =>
          rw [taken] at after unfused again
          cases outcome with
          | ok result => cases result <;> exact after.of_unfused unfused _
          | error error =>
              rcases again error rfl with ⟨saved, found⟩
              constructor
              · exact after.usual
              · exact after.reading
              · exact after.lines
              · exact after.inSource
              · intro other recorded
                rcases after.undo other recorded with ⟨start, span, back⟩
                exact ⟨start, span, back⟩
              · intro _
                exact ⟨error, saved, lastYielded_append _ _, found⟩

theorem call_coherent (coherent : stream.Coherent source mode history) (call : Call) :
    (stream.call call).2.Coherent source mode (history ++ [(stream.call call).1]) := by
  cases call with
  | get => exact get_coherent coherent
  | peek =>
      rw [TokenStream.call, peek_eq]
      exact coherent.of_silent _ rfl
  | unget => exact unget_coherent coherent
  | next => exact next_coherent coherent

theorem run_coherent (coherent : stream.Coherent source mode history) (calls : List Call) :
    (runCalls call stream calls).2.Coherent source mode (history ++ (runCalls call stream calls).1) := by
  induction calls generalizing history stream with
  | nil =>
      rw [runCalls, List.append_nil]
      exact coherent
  | cons first later ih =>
      have step := ih (call_coherent coherent first)
      rw [List.append_assoc] at step
      exact step

end Steps

end TokenStream

theorem reachable_coherent (source : String) (mode : LexMode) (calls : List Call) :
    let reached := runCalls TokenStream.call (TokenStream.ofSource source mode) calls
    reached.2.Coherent source mode reached.1 :=
  TokenStream.run_coherent (TokenStream.coherent_ofSource source mode) calls

end QueryLexer

import QueryLexer.Proofs.Token.Page

/-!
A stream of tokens is a list with a reading position. The list machine holds the transcript of the whole
source and three things that change: the index of the next token, the index that an undo goes back to, and
whether an error was given to an iterator. For every sequence of calls, a stream answers as the machine
does. Positions of the cursor are finer than indices: blanks that are left out, line ends and the end of
the source give one index many cursors, so the stream is related to the machine through the transcript of
what is ahead of it.
-/

namespace QueryLexer

inductive Call where
  | get | peek | unget | next
  deriving DecidableEq, Repr

inductive Answer where
  | taken (outcome : Except LexError (Option Token))
  | undone (outcome : Except UngetError Unit)
  | yielded (item : Option (Except LexError Token))

def runCalls {State : Type} (call : State → Call → Answer × State) :
    State → List Call → List Answer × State
  | state, [] => ([], state)
  | state, first :: later =>
      let (answer, after) := call state first
      let (answers, final) := runCalls call after later
      (answer :: answers, final)

def TokenStream.call (stream : TokenStream) : Call → Answer × TokenStream
  | .get => (.taken stream.get.1, stream.get.2)
  | .peek => (.taken stream.peek.1, stream.peek.2)
  | .unget =>
      match stream.unget with
      | .ok after => (.undone (.ok ()), after)
      | .error error => (.undone (.error error), stream)
  | .next => (.yielded stream.next.1, stream.next.2)

namespace TokenStream

-- The scan moves the cursor, and putting it back undoes that, wherever the scan ends.
theorem peek_eq (stream : TokenStream) : stream.peek = (stream.get.1, stream) := by
  have same := Classifier.lines_of_scan stream.order stream.mode.skipTrivia stream.cursor
  cases scanned : Classifier.scan stream.order stream.mode.skipTrivia stream.cursor with
  | mk outcome reached =>
      rw [scanned] at same
      have back : reached.restore stream.cursor.snapshot = stream.cursor :=
        Cursor.restore_snapshot stream.cursor reached same
      simp only [peek, get, scanned, back]

-- What `get` and `unget` keep, every run keeps, as long as the fuse does not matter to it.
section Keeping

variable {Holds : TokenStream → Prop}
  (get_keeps : ∀ stream : TokenStream, Holds stream → Holds stream.get.2)
  (unget_keeps : ∀ stream after : TokenStream, Holds stream → stream.unget = .ok after → Holds after)
  (fuse_keeps : ∀ stream : TokenStream, Holds stream → Holds { stream with fused := true })

include get_keeps fuse_keeps

theorem next_keeps (stream : TokenStream) (holds : Holds stream) : Holds stream.next.2 := by
  have after := get_keeps stream holds
  unfold next
  split
  case isTrue => exact holds
  case isFalse =>
    split
    case h_1 token reached taken => rwa [taken] at after
    case h_2 reached taken => rwa [taken] at after
    case h_3 error reached taken =>
      rw [taken] at after
      exact fuse_keeps reached after

include unget_keeps

theorem call_keeps (stream : TokenStream) (holds : Holds stream) (call : Call) :
    Holds (stream.call call).2 := by
  cases call with
  | get => exact get_keeps stream holds
  | peek =>
      rw [TokenStream.call, peek_eq]
      exact holds
  | next => exact next_keeps get_keeps fuse_keeps stream holds
  | unget =>
      unfold TokenStream.call
      cases undone : stream.unget with
      | ok after => exact unget_keeps stream after holds undone
      | error error => exact holds

theorem run_keeps (stream : TokenStream) (holds : Holds stream) (calls : List Call) :
    Holds (runCalls call stream calls).2 := by
  induction calls generalizing stream with
  | nil => exact holds
  | cons first later ih =>
      apply ih
      exact call_keeps get_keeps unget_keeps fuse_keeps stream holds first

end Keeping

end TokenStream

structure ListMachine where
  index : Nat
  saved : Option Nat
  fused : Bool
  deriving DecidableEq, Repr

namespace ListMachine

def start : ListMachine := ⟨0, none, false⟩

/-- The token at the index; behind the last one, what the transcript ends with. -/
def shown (transcript : Transcript) (machine : ListMachine) : Except LexError (Option Token) :=
  match transcript.tokens[machine.index]? with
  | some token => .ok (some token)
  | none => transcript.outcome

def get (transcript : Transcript) (machine : ListMachine) :
    Except LexError (Option Token) × ListMachine :=
  (machine.shown transcript,
    { machine with
      index := if machine.index < transcript.tokens.length then machine.index + 1 else machine.index
      saved := some machine.index })

def unget (machine : ListMachine) : Except UngetError ListMachine :=
  match machine.saved with
  | some index => .ok ⟨index, none, false⟩
  | none => .error .nothingToUnget

def next (transcript : Transcript) (machine : ListMachine) :
    Option (Except LexError Token) × ListMachine :=
  if machine.fused then (none, machine)
  else match machine.get transcript with
    | (.ok (some token), after) => (some (.ok token), after)
    | (.ok none, after) => (none, after)
    | (.error error, after) => (some (.error error), { after with fused := true })

def call (transcript : Transcript) (machine : ListMachine) : Call → Answer × ListMachine
  | .get => (.taken (machine.get transcript).1, (machine.get transcript).2)
  | .peek => (.taken (machine.shown transcript), machine)
  | .unget =>
      match machine.unget with
      | .ok after => (.undone (.ok ()), after)
      | .error error => (.undone (.error error), machine)
  | .next => (.yielded (machine.next transcript).1, (machine.next transcript).2)

end ListMachine

namespace TokenStream

theorem lines_of_get (stream : TokenStream) : stream.get.2.cursor.lines = stream.cursor.lines := by
  have same := Classifier.lines_of_scan stream.order stream.mode.skipTrivia stream.cursor
  cases scanned : Classifier.scan stream.order stream.mode.skipTrivia stream.cursor with
  | mk outcome reached =>
      rw [scanned] at same
      cases outcome <;> simpa [get, scanned, Cursor.restore] using same

-- The transcript is that of the cursor, whatever the undo record and the fuse are.
theorem transcript_of_cursor (first second : TokenStream) (order : first.order = second.order)
    (mode : first.mode = second.mode) (cursor : first.cursor = second.cursor) :
    first.transcript = second.transcript := by
  rw [transcript_eq, transcript_eq, order, mode, cursor]

-- A `get` that does not fail is a scan.
theorem scan_of_get (stream : TokenStream) (answer : Option Token) (taken : stream.get.1 = .ok answer) :
    Classifier.scan stream.order stream.mode.skipTrivia stream.cursor =
      (.ok answer, stream.get.2.cursor) := by
  cases scanned : Classifier.scan stream.order stream.mode.skipTrivia stream.cursor with
  | mk outcome reached =>
      simp only [get, scanned] at taken ⊢
      subst taken
      rfl

theorem transcript_of_end (stream after : TokenStream) (taken : stream.get = (.ok none, after)) :
    after.transcript = .finished := by
  have scanned := scan_of_get stream none (congrArg Prod.fst taken)
  rw [taken] at scanned
  have ended := Classifier.nextLocation?_of_scan_end _ _ _ _ scanned
  rw [transcript_eq, Classifier.transcript_step]
  simp only [ended]

-- An error puts the cursor back, over the blanks that were left out too.
theorem cursor_of_error (stream : TokenStream) (error : LexError) (taken : stream.get.1 = .error error) :
    stream.get.2.cursor = stream.cursor := by
  have same := Classifier.lines_of_scan stream.order stream.mode.skipTrivia stream.cursor
  cases scanned : Classifier.scan stream.order stream.mode.skipTrivia stream.cursor with
  | mk outcome reached =>
      rw [scanned] at same
      simp only [get, scanned] at taken ⊢
      subst taken
      exact Cursor.restore_snapshot stream.cursor reached same

theorem cursor_of_get (stream : TokenStream) : stream.get.2.cursor = stream.cursor ∨
    stream.get.2.cursor =
      (Classifier.scan stream.order stream.mode.skipTrivia stream.cursor).2 := by
  cases taken : stream.get.1 with
  | error error => exact Or.inl (cursor_of_error stream error taken)
  | ok answer => exact Or.inr (by rw [scan_of_get stream answer taken])

theorem transcript_of_error (stream after : TokenStream) (error : LexError)
    (taken : stream.get = (.error error, after)) : after.transcript = stream.transcript := by
  have kept := cursor_of_error stream error (congrArg Prod.fst taken)
  rw [← show stream.get.2 = after from congrArg Prod.snd taken]
  exact transcript_of_cursor _ _ rfl rfl kept

theorem unget_of_get (stream : TokenStream) :
    ∃ restored, stream.get.2.unget = .ok restored ∧ restored.transcript = stream.transcript ∧
      restored.fused = false ∧ restored.pushback = none :=
  ⟨_, rfl, transcript_of_cursor _ _ rfl rfl (Cursor.restore_snapshot _ _ (lines_of_get stream)), rfl, rfl⟩

end TokenStream

def Transcript.drop (count : Nat) (transcript : Transcript) : Transcript :=
  ⟨transcript.tokens.drop count, transcript.failure⟩

namespace TokenStream

theorem get_of_token (transcript : Transcript) (stream : TokenStream) (index : Nat)
    (inside : index < transcript.tokens.length) (ahead : stream.transcript = transcript.drop index) :
    stream.get.1 = .ok (some transcript.tokens[index]) ∧
      stream.get.2.transcript = transcript.drop (index + 1) := by
  rw [transcript_of_get, Transcript.drop, List.drop_eq_getElem_cons inside] at ahead
  cases taken : stream.get with
  | mk outcome after =>
      rw [taken] at ahead
      cases outcome with
      | error error => cases (Transcript.mk.inj ahead).1
      | ok result =>
          cases result with
          | none => cases (Transcript.mk.inj ahead).1
          | some token =>
              obtain ⟨tokens, failure⟩ := Transcript.mk.inj ahead
              obtain ⟨rfl, later⟩ := List.cons.inj tokens
              refine ⟨rfl, ?_⟩
              rw [Transcript.drop, ← later, ← failure]

-- Behind the last token the end comes again and again, and so does an error.
theorem get_of_last (transcript : Transcript) (stream : TokenStream) (index : Nat)
    (last : transcript.tokens.length ≤ index) (ahead : stream.transcript = transcript.drop index) :
    stream.get.1 = transcript.outcome ∧ stream.get.2.transcript = stream.transcript := by
  have ended := ahead
  rw [transcript_of_get, Transcript.drop, List.drop_eq_nil_of_le last] at ended
  cases taken : stream.get with
  | mk outcome after =>
      rw [taken] at ended
      cases outcome with
      | error error =>
          have failure := (Transcript.mk.inj ended).2
          refine ⟨?_, transcript_of_error stream after error taken⟩
          simp [Transcript.outcome, ← failure]
      | ok result =>
          cases result with
          | none =>
              have failure := (Transcript.mk.inj ended).2
              refine ⟨by simp [Transcript.outcome, ← failure], ?_⟩
              rw [transcript_of_end stream after taken, transcript_of_get, taken]
          | some token => cases (Transcript.mk.inj ended).1

end TokenStream

structure Simulates (transcript : Transcript) (stream : TokenStream) (machine : ListMachine) : Prop where
  ahead : stream.transcript = transcript.drop machine.index
  within : machine.index ≤ transcript.tokens.length
  fuse : stream.fused = machine.fused
  undo : match machine.saved with
    | some index => index ≤ transcript.tokens.length ∧ ∃ restored, stream.unget = .ok restored ∧
        restored.transcript = transcript.drop index ∧ restored.fused = false ∧
        restored.pushback = none
    | none => stream.pushback = none

section Steps

variable {transcript : Transcript} {stream : TokenStream} {machine : ListMachine}

theorem get_answer (simulated : Simulates transcript stream machine) :
    stream.get.1 = machine.shown transcript := by
  by_cases inside : machine.index < transcript.tokens.length
  · rw [(TokenStream.get_of_token transcript stream machine.index inside simulated.ahead).1,
      ListMachine.shown, List.getElem?_eq_getElem inside]
  · have last := Nat.le_of_not_lt inside
    rw [(TokenStream.get_of_last transcript stream machine.index last simulated.ahead).1,
      ListMachine.shown, List.getElem?_eq_none last]

theorem get_simulates (simulated : Simulates transcript stream machine) :
    Simulates transcript stream.get.2 (machine.get transcript).2 := by
  have undo := TokenStream.unget_of_get stream
  rw [simulated.ahead] at undo
  by_cases inside : machine.index < transcript.tokens.length
  · have step := (TokenStream.get_of_token transcript stream machine.index inside simulated.ahead).2
    refine ⟨?_, ?_, simulated.fuse, simulated.within, undo⟩
    · simpa [ListMachine.get, inside] using step
    · simp only [ListMachine.get, inside, if_true]
      exact inside
  · have last := Nat.le_of_not_lt inside
    have step := (TokenStream.get_of_last transcript stream machine.index last simulated.ahead).2
    refine ⟨?_, ?_, simulated.fuse, simulated.within, undo⟩
    · simpa [ListMachine.get, inside] using step.trans simulated.ahead
    · simpa [ListMachine.get, inside] using simulated.within

theorem unget_simulates (simulated : Simulates transcript stream machine) :
    (stream.call .unget).1 = (machine.call transcript .unget).1 ∧
      Simulates transcript (stream.call .unget).2 (machine.call transcript .unget).2 := by
  have undo := simulated.undo
  cases saved : machine.saved with
  | none =>
      simp only [saved] at undo
      have refused : stream.unget = .error .nothingToUnget := by simp [TokenStream.unget, undo]
      simp only [TokenStream.call, ListMachine.call, refused, ListMachine.unget, saved]
      exact ⟨trivial, simulated⟩
  | some index =>
      simp only [saved] at undo
      obtain ⟨within, restored, done, ahead, unfused, cleared⟩ := undo
      simp only [TokenStream.call, ListMachine.call, done, ListMachine.unget, saved]
      exact ⟨trivial, ahead, within, unfused, cleared⟩

-- An iterator that has seen an error is undone like any other: `unget` clears the fuse.
theorem fuse_simulates (simulated : Simulates transcript stream machine) :
    Simulates transcript { stream with fused := true } { machine with fused := true } := by
  have same : { stream with fused := true }.transcript = stream.transcript :=
    TokenStream.transcript_of_cursor { stream with fused := true } stream rfl rfl rfl
  exact ⟨same.trans simulated.ahead, simulated.within, rfl, simulated.undo⟩

theorem next_simulates (simulated : Simulates transcript stream machine) :
    stream.next.1 = (machine.next transcript).1 ∧
      Simulates transcript stream.next.2 (machine.next transcript).2 := by
  have answer := get_answer simulated
  have after := get_simulates simulated
  unfold TokenStream.next ListMachine.next
  rw [simulated.fuse]
  cases machine.fused with
  | true => exact ⟨rfl, simulated⟩
  | false =>
      have shown : (machine.get transcript).1 = stream.get.1 := answer.symm
      cases taken : stream.get with
      | mk outcome reached =>
          cases moved : machine.get transcript with
          | mk same machineAfter =>
              rw [taken, moved] at shown after
              obtain rfl : same = outcome := shown
              cases same with
              | error error => exact ⟨rfl, fuse_simulates after⟩
              | ok result => cases result <;> exact ⟨rfl, after⟩

theorem call_simulates (simulated : Simulates transcript stream machine) (call : Call) :
    (stream.call call).1 = (machine.call transcript call).1 ∧
      Simulates transcript (stream.call call).2 (machine.call transcript call).2 := by
  cases call with
  | get =>
      refine ⟨?_, get_simulates simulated⟩
      exact congrArg Answer.taken (get_answer simulated)
  | peek =>
      rw [TokenStream.call, TokenStream.peek_eq]
      refine ⟨?_, simulated⟩
      exact congrArg Answer.taken (get_answer simulated)
  | unget => exact unget_simulates simulated
  | next =>
      refine ⟨?_, (next_simulates simulated).2⟩
      exact congrArg Answer.yielded (next_simulates simulated).1

theorem run_simulates (simulated : Simulates transcript stream machine) (calls : List Call) :
    (runCalls TokenStream.call stream calls).1 =
        (runCalls (ListMachine.call transcript) machine calls).1 ∧
      Simulates transcript (runCalls TokenStream.call stream calls).2
        (runCalls (ListMachine.call transcript) machine calls).2 := by
  induction calls generalizing stream machine with
  | nil => exact ⟨rfl, simulated⟩
  | cons call later ih =>
      obtain ⟨answer, after⟩ := call_simulates simulated call
      obtain ⟨answers, final⟩ := ih after
      refine ⟨?_, final⟩
      simp only [runCalls, answer, answers]

end Steps

def ListMachine.rest (transcript : Transcript) (machine : ListMachine) : Except LexError (List Token) :=
  match transcript.outcome with
  | .error error => .error error
  | .ok _ => .ok (transcript.tokens.drop machine.index)

theorem stream_refines_list (source : String) (mode : LexMode) (calls : List Call) :
    let stream := TokenStream.ofSource source mode
    let reached := runCalls TokenStream.call stream calls
    let machine := runCalls (ListMachine.call stream.transcript) .start calls
    reached.1 = machine.1 ∧ machine.2.index ≤ stream.transcript.tokens.length ∧
      reached.2.fused = machine.2.fused ∧
      (reached.2.fused = false → reached.2.collect.1 = machine.2.rest stream.transcript) := by
  intro stream reached machine
  have fresh : Simulates stream.transcript stream .start := ⟨rfl, Nat.zero_le _, rfl, rfl⟩
  obtain ⟨answers, final⟩ := run_simulates fresh calls
  refine ⟨answers, final.within, final.fuse, ?_⟩
  intro unfused
  rw [TokenStream.collect_eq _ unfused, final.ahead]
  unfold ListMachine.rest Transcript.result Transcript.outcome Transcript.drop
  cases stream.transcript.failure <;> rfl

end QueryLexer

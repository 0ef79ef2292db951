import QueryLexer.Token.Stream
import QueryLexer.Proofs.Token.Spelling

/-!
A transcript is all that a stream has to give: its tokens, and the error that ends them if one does.
Line by line it can be written down without a cursor: `lineTranscript` takes token after token off one
line, `pageTranscript` puts the lines together up to the first error. The transcript of a source is that
of its page, and leaving out blanks while reading is the same as leaving them out of the transcript.
-/

namespace QueryLexer

structure Transcript where
  tokens : List Token
  failure : Option LexError
  deriving DecidableEq, Repr

namespace Transcript

def finished : Transcript := ⟨[], none⟩

def failed (error : LexError) : Transcript := ⟨[], some error⟩

def cons (token : Token) (later : Transcript) : Transcript := ⟨token :: later.tokens, later.failure⟩

/-- One transcript after another: nothing comes behind an error. -/
def append (first second : Transcript) : Transcript :=
  match first.failure with
  | some _ => first
  | none => ⟨first.tokens ++ second.tokens, second.failure⟩

def withoutTrivia (transcript : Transcript) : Transcript :=
  ⟨transcript.tokens.filter fun token => !token.kind.isTrivia, transcript.failure⟩

def outcome (transcript : Transcript) : Except LexError (Option Token) :=
  match transcript.failure with
  | some error => .error error
  | none => .ok none

def result (transcript : Transcript) : Except LexError (List Token) :=
  match transcript.failure with
  | some error => .error error
  | none => .ok transcript.tokens

@[simp] theorem tokens_cons (token : Token) (later : Transcript) :
    (later.cons token).tokens = token :: later.tokens := rfl

@[simp] theorem failure_cons (token : Token) (later : Transcript) :
    (later.cons token).failure = later.failure := rfl

@[simp] theorem finished_append (second : Transcript) : finished.append second = second := rfl

@[simp] theorem cons_append (token : Token) (first second : Transcript) :
    (first.cons token).append second = (first.append second).cons token := by
  cases first with
  | mk tokens failure => cases failure <;> rfl

theorem failure_append_eq_none_iff (first second : Transcript) :
    (first.append second).failure = none ↔ first.failure = none ∧ second.failure = none := by
  cases first with
  | mk tokens failure => cases failure <;> simp [append]

theorem tokens_append (first second : Transcript) (whole : first.failure = none) :
    (first.append second).tokens = first.tokens ++ second.tokens := by
  simp [append, whole]

theorem append_finished (transcript : Transcript) : transcript.append finished = transcript := by
  cases transcript with
  | mk tokens failure => cases failure <;> simp [append, finished]

theorem append_assoc (first second third : Transcript) :
    (first.append second).append third = first.append (second.append third) := by
  cases first with
  | mk tokens failure =>
      cases failure with
      | some error => rfl
      | none => cases second with
        | mk tokens failure => cases failure <;> simp [append]

theorem withoutTrivia_append (first second : Transcript) :
    (first.append second).withoutTrivia = first.withoutTrivia.append second.withoutTrivia := by
  cases first with
  | mk tokens failure => cases failure <;> simp [append, withoutTrivia]

theorem result_append (first second : Transcript) : (first.append second).result =
    match first.result, second.result with
    | .error error, _ => .error error
    | .ok _, .error error => .error error
    | .ok tokens, .ok later => .ok (tokens ++ later) := by
  cases first with
  | mk tokens failure => cases failure with
    | some error => rfl
    | none => cases second with
      | mk later failure => cases failure <;> rfl

theorem result_withoutTrivia (transcript : Transcript) : transcript.withoutTrivia.result =
    transcript.result.map fun tokens => tokens.filter fun token => !token.kind.isTrivia := by
  cases transcript with
  | mk tokens failure => cases failure <;> rfl

theorem result_eq_ok_iff (transcript : Transcript) (tokens : List Token) :
    transcript.result = .ok tokens ↔ transcript.failure = none ∧ transcript.tokens = tokens := by
  cases transcript with
  | mk tokens failure => cases failure <;> simp [result]

theorem result_eq_error_iff (transcript : Transcript) (error : LexError) :
    transcript.result = .error error ↔ transcript.failure = some error := by
  cases transcript with
  | mk tokens failure => cases failure <;> simp [result]

end Transcript

theorem TokenStream.rest_lt_of_get (stream after : TokenStream) (token : Token)
    (taken : stream.get = (.ok (some token), after)) :
    after.cursor.rest.length < stream.cursor.rest.length := by
  cases scanned : Classifier.scan stream.order stream.mode.skipTrivia stream.cursor with
  | mk outcome reached =>
      simp only [get, scanned, Prod.mk.injEq] at taken
      obtain ⟨rfl, rfl⟩ := taken
      exact Classifier.rest_lt_of_scan _ _ _ _ _ scanned

def TokenStream.transcript (stream : TokenStream) : Transcript :=
  match _taken : stream.get with
  | (.ok (some token), after) => after.transcript.cons token
  | (.ok none, _) => .finished
  | (.error error, _) => .failed error
termination_by stream.cursor.rest.length
decreasing_by exact TokenStream.rest_lt_of_get _ _ _ _taken

namespace Classifier

def transcript (order : List Classifier) (skipTrivia : Bool) (cursor : Cursor) : Transcript :=
  match _scanned : scan order skipTrivia cursor with
  | (.ok (some token), after) => (transcript order skipTrivia after).cons token
  | (.ok none, _) => .finished
  | (.error error, _) => .failed error
termination_by cursor.rest.length
decreasing_by exact rest_lt_of_scan _ _ _ _ _ _scanned

theorem transcript_of_scan (order : List Classifier) (skipTrivia : Bool) (cursor : Cursor) :
    transcript order skipTrivia cursor =
      match scan order skipTrivia cursor with
      | (.ok (some token), after) => (transcript order skipTrivia after).cons token
      | (.ok none, _) => .finished
      | (.error error, _) => .failed error := by
  rw [transcript]
  split <;> simp_all

theorem scan_eq (order : List Classifier) (skipTrivia : Bool) (cursor : Cursor) :
    scan order skipTrivia cursor =
      match cursor.nextLocation? with
      | none => (.ok none, cursor)
      | some location =>
          match inTurn order cursor with
          | (none, after) => (.error
              (.unexpectedChar location.line location.column (after.peek?.getD '\x00')), after)
          | (some found, after) =>
              if skipTrivia && found.kind.isTrivia then scan order skipTrivia after
              else (.ok (some ⟨found.kind, found.lexeme, location.line⟩), after) := by
  rw [scan]
  cases cursor.nextLocation? with
  | none => rfl
  | some location =>
      simp only
      split
      case h_1 after missed => simp only [missed]
      case h_2 found after first => simp only [first]

-- One classification: the end, an error, a blank that is left out, or a token.
theorem transcript_step (order : List Classifier) (skipTrivia : Bool) (cursor : Cursor) :
    transcript order skipTrivia cursor =
      match cursor.nextLocation? with
      | none => .finished
      | some location =>
          match inTurn order cursor with
          | (none, after) => .failed
              (.unexpectedChar location.line location.column (after.peek?.getD '\x00'))
          | (some found, after) =>
              if skipTrivia && found.kind.isTrivia then transcript order skipTrivia after
              else (transcript order skipTrivia after).cons
                ⟨found.kind, found.lexeme, location.line⟩ := by
  rw [transcript_of_scan, scan_eq]
  cases cursor.nextLocation? with
  | none => rfl
  | some location =>
      rcases inTurn order cursor with ⟨_ | first, after⟩
      · rfl
      · by_cases left : (skipTrivia && first.kind.isTrivia) = true
        · simp only [left, if_true]
          rw [← transcript_of_scan]
        · simp only [left]
          rfl

theorem lines_of_inTurn (order : List Classifier) (cursor : Cursor) :
    (inTurn order cursor).2.lines = cursor.lines := by
  rw [inTurn_eq]
  cases order.findSome? (·.matchAt? cursor.textAhead) <;> simp

theorem lines_of_scan (order : List Classifier) (skipTrivia : Bool) (cursor : Cursor) :
    (scan order skipTrivia cursor).2.lines = cursor.lines := by
  fun_induction scan order skipTrivia cursor with
  | case1 => rfl
  | case2 cursor location _ after missed =>
      have same := lines_of_inTurn order cursor
      rwa [missed] at same
  | case3 cursor location _ found after first _ ih =>
      have same := lines_of_inTurn order cursor
      rw [first] at same
      exact ih.trans same
  | case4 cursor location _ found after first _ =>
      have same := lines_of_inTurn order cursor
      rwa [first] at same

-- The end is found where nothing is left to read, behind the blanks that were left out.
theorem nextLocation?_of_scan_end (order : List Classifier) (skipTrivia : Bool)
    (cursor reached : Cursor) (ended : scan order skipTrivia cursor = (.ok none, reached)) :
    reached.nextLocation? = none := by
  fun_induction scan order skipTrivia cursor with
  | case1 cursor none =>
      obtain rfl := (Prod.mk.inj ended).2
      exact none
  | case2 => simp at ended
  | case3 cursor location _ found after first _ ih => exact ih ended
  | case4 => simp at ended

-- Both runs take the same steps; a step over a blank is a token for one and nothing for the other.
theorem transcript_skipping (order : List Classifier) (cursor : Cursor) :
    transcript order true cursor = (transcript order false cursor).withoutTrivia := by
  induction size : cursor.rest.length using Nat.strongRecOn generalizing cursor with
  | ind size ih =>
      rw [transcript_step order true, transcript_step order false]
      cases cursor.nextLocation? with
      | none => rfl
      | some location =>
          rcases first : inTurn order cursor with ⟨_ | found, after⟩
          · rfl
          · have shorter := rest_lt_of_inTurn order cursor after found first
            simp only [Bool.true_and, Bool.false_and, Bool.false_eq_true, if_false]
            rw [ih _ (by omega) after rfl]
            cases blank : found.kind.isTrivia <;> simp [Transcript.withoutTrivia, blank]
            rfl

end Classifier

theorem TokenStream.transcript_eq (stream : TokenStream) : stream.transcript =
    Classifier.transcript stream.order stream.mode.skipTrivia stream.cursor := by
  fun_induction TokenStream.transcript stream with
  | case1 stream token after taken ih =>
      cases scanned : Classifier.scan stream.order stream.mode.skipTrivia stream.cursor with
      | mk outcome reached =>
          simp only [get, scanned, Prod.mk.injEq] at taken
          obtain ⟨rfl, rfl⟩ := taken
          rw [ih, Classifier.transcript_of_scan _ _ stream.cursor, scanned]
  | case2 stream after taken =>
      have ended : (Classifier.scan stream.order stream.mode.skipTrivia stream.cursor).1 = .ok none :=
        congrArg Prod.fst taken
      rw [Classifier.transcript_of_scan]
      split <;> simp_all
  | case3 stream error after taken =>
      have broken : (Classifier.scan stream.order stream.mode.skipTrivia stream.cursor).1 =
          .error error := congrArg Prod.fst taken
      rw [Classifier.transcript_of_scan]
      split <;> simp_all

theorem TokenStream.transcript_of_get (stream : TokenStream) : stream.transcript =
    match stream.get with
    | (.ok (some token), after) => after.transcript.cons token
    | (.ok none, _) => .finished
    | (.error error, _) => .failed error := by
  rw [TokenStream.transcript]
  split <;> simp_all

theorem TokenStream.collect_of_next (stream : TokenStream) : stream.collect =
    match stream.next with
    | (some (.ok token), after) => (after.collect.1.map (token :: ·), after.collect.2)
    | (some (.error error), after) => (.error error, after)
    | (none, after) => (.ok [], after) := by
  rw [TokenStream.collect]
  split
  case h_1 token after taken =>
    rw [taken]
    cases collected : after.collect with
    | mk result final => cases result <;> simp only [collected] <;> rfl
  case h_2 error after taken => rw [taken]
  case h_3 after taken => rw [taken]

-- `collect` goes on with `next`, which is `get` as long as there was no error.
theorem TokenStream.collect_eq (stream : TokenStream) (unfused : stream.fused = false) :
    stream.collect.1 = stream.transcript.result := by
  induction size : stream.cursor.rest.length using Nat.strongRecOn generalizing stream with
  | ind size ih =>
      rw [collect_of_next, transcript_of_get]
      simp only [next, unfused, Bool.false_eq_true, if_false]
      cases taken : stream.get with
      | mk outcome after =>
          cases outcome with
          | error error => rfl
          | ok token =>
              cases token with
              | none => rfl
              | some token =>
                  have shorter := rest_lt_of_get stream after token taken
                  have kept : stream.get.2.fused = stream.fused := rfl
                  have still : after.fused = false := by rwa [taken, unfused] at kept
                  simp only
                  rw [ih _ (by omega) after still rfl]
                  cases ended : after.transcript.failure <;> simp [Transcript.result, ended] <;> rfl

end QueryLexer

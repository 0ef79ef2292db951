import QueryLexer.Proofs.Token.Page

/-!
Tokens and errors put in another place. Where a text stands decides the line numbers of its tokens and
the position of its error, and nothing else: the transcripts of one text in two places are the same up to
the place. The pages of two lists of lines, one below the other, are those of the lists, with the lower one
moved down by the number of lines above it.
-/

namespace QueryLexer

def Token.relocated (line : UInt32 → UInt32) (token : Token) : Token := { token with line := line token.line }

def LexError.relocated (line column : UInt32 → UInt32) : LexError → LexError
  | unexpectedChar number start ch => unexpectedChar (line number) (column start) ch
  | integerOverflow number lexeme => integerOverflow (line number) lexeme
  | notAnInteger number kind => notAnInteger (line number) kind

namespace Transcript

def relocated (line column : UInt32 → UInt32) (transcript : Transcript) : Transcript :=
  ⟨transcript.tokens.map (·.relocated line), transcript.failure.map (·.relocated line column)⟩

/-- What a transcript says, wherever it was taken. -/
def unplaced (transcript : Transcript) : Transcript :=
  transcript.relocated (fun _ => 0) (fun _ => 0)

theorem relocated_cons (line column : UInt32 → UInt32) (token : Token) (later : Transcript) :
    (later.cons token).relocated line column =
      (later.relocated line column).cons (token.relocated line) := rfl

theorem relocated_append (line column : UInt32 → UInt32) (first second : Transcript) :
    (first.append second).relocated line column =
      (first.relocated line column).append (second.relocated line column) := by
  cases first with
  | mk tokens failure => cases failure <;> simp [append, relocated]

theorem relocated_id (transcript : Transcript) : transcript.relocated id id = transcript := by
  have error : ∀ error : LexError, error.relocated id id = error := by
    intro error
    cases error <;> rfl
  have token : ∀ token : Token, token.relocated id = token := fun _ => rfl
  simp [relocated, error, token]

-- Columns are told by errors only.
theorem relocated_columns (column : UInt32 → UInt32) (transcript : Transcript)
    (whole : transcript.failure = none) : transcript.relocated id column = transcript := by
  cases transcript with
  | mk tokens failure =>
      obtain rfl : failure = none := whole
      exact relocated_id ⟨tokens, none⟩

theorem withoutTrivia_relocated (line column : UInt32 → UInt32) (transcript : Transcript) :
    (transcript.relocated line column).withoutTrivia =
      transcript.withoutTrivia.relocated line column := by
  simp only [withoutTrivia, relocated, List.filter_map, mk.injEq, and_true]
  rfl

theorem result_relocated (line column : UInt32 → UInt32) (transcript : Transcript) :
    (transcript.relocated line column).result =
      match transcript.result with
      | .error error => .error (error.relocated line column)
      | .ok tokens => .ok (tokens.map (·.relocated line)) := by
  cases transcript with
  | mk tokens failure => cases failure <;> rfl

end Transcript

-- The induction is along the line; a token moves both starts by its length.
theorem relocated_lineTranscript (line column line' column' : UInt32 → UInt32)
    (number number' : UInt32) (start start' : Nat) (text : List Char)
    (sameLine : line number = line' number')
    (sameColumns : ∀ offset, column (.ofNat (start + offset)) = column' (.ofNat (start' + offset))) :
    (lineTranscript number start text).relocated line column =
      (lineTranscript number' start' text).relocated line' column' := by
  induction text using line_induction generalizing start start' with
  | nil => simp [lineTranscript_nil, Transcript.relocated, Transcript.finished]
  | missed c later none =>
      have here : column (.ofNat start) = column' (.ofNat start') := sameColumns 0
      simp [lineTranscript_of_none _ _ _ _ none, Transcript.relocated, Transcript.failed,
        LexError.relocated, sameLine, here]
  | token kind lexeme chars rest written stops ih =>
      have behind : ∀ offset, column (.ofNat (start + chars.length + offset)) =
          column' (.ofNat (start' + chars.length + offset)) := by
        intro offset
        rw [Nat.add_assoc, Nat.add_assoc]
        exact sameColumns (chars.length + offset)
      rw [lineTranscript_written _ _ kind lexeme chars rest written stops,
        lineTranscript_written _ _ kind lexeme chars rest written stops,
        Transcript.relocated_cons, Transcript.relocated_cons, ih _ _ behind]
      simp only [Token.relocated, sameLine]

theorem unplaced_lineTranscript (number number' : UInt32) (column column' : Nat) (text : List Char) :
    (lineTranscript number column text).unplaced = (lineTranscript number' column' text).unplaced :=
  relocated_lineTranscript _ _ _ _ _ _ _ _ text rfl fun _ => rfl

theorem lineTranscript_below (number count : UInt32) (column : Nat) (text : List Char) :
    lineTranscript (number + count) column text =
      (lineTranscript number column text).relocated (· + count) id := by
  have moved := relocated_lineTranscript id id (· + count) id (number + count) number column column text
    rfl fun _ => rfl
  rwa [Transcript.relocated_id] at moved

theorem pageTranscript_below (number count : Nat) (lines : List (List Char)) :
    pageTranscript (number + count) lines =
      (pageTranscript number lines).relocated (· + .ofNat count) id := by
  induction lines generalizing number with
  | nil => rfl
  | cons text later ih =>
      rw [pageTranscript, pageTranscript, Transcript.relocated_append, UInt32.ofNat_add,
        lineTranscript_below, Nat.add_right_comm, ih]

theorem pageTranscript_append (number : Nat) (above later : List (List Char)) :
    pageTranscript number (above ++ later) =
      (pageTranscript number above).append (pageTranscript (number + above.length) later) := by
  induction above generalizing number with
  | nil => rfl
  | cons text rest ih =>
      rw [List.cons_append, pageTranscript, pageTranscript, ih, Transcript.append_assoc,
        List.length_cons, Nat.add_assoc number 1, Nat.add_comm 1]

end QueryLexer

import QueryLexer.Proofs.Printing
import QueryLexer.Proofs.Token.Relocation

/-!
Blanks separate tokens and mean nothing else. A reader that leaves them out sees the tokens of one that
keeps them, less the blanks. No token goes on over a blank: a line is read up to a blank as if it ended
there, and from there on as if it began there, so a gap between two texts makes their transcripts stand one
after the other.
-/

namespace QueryLexer

theorem Kind.not_isTrivia (kind : Kind) : (!kind.isTrivia) = decide (kind ≠ .space) := by
  cases kind <;> rfl

theorem tokenize_leaving_out_blanks (source : String) (terminator : Terminator) :
    tokenize source ⟨terminator, true⟩ =
      (tokenize source ⟨terminator, false⟩).map fun tokens => tokens.filter (·.kind ≠ .space) := by
  have skipped : sourceTranscript source ⟨terminator, true⟩ =
      (sourceTranscript source ⟨terminator, false⟩).withoutTrivia := rfl
  rw [tokenize_eq, tokenize_eq, skipped, Transcript.result_withoutTrivia]
  simp only [Kind.not_isTrivia]

theorem Kind.absorbs_blank (kind : Kind) (c : Char) (blank : Text.isBlank c = true) :
    kind.absorbs c = false := by
  have apart : kind.merges .space = false := by
    cases kind <;> simp [Kind.merges, Kind.isWord]
  rw [absorbs_first kind .space "" c [] ⟨rfl, c, rfl, blank⟩, apart]

def Text.BlankAhead (text : List Char) : Prop := ∀ c ∈ text.head?, Text.isBlank c = true

theorem Kind.StopsAt.before_blank {kind : Kind} {text rest : List Char} (stops : kind.StopsAt text)
    (blank : Text.BlankAhead rest) : kind.StopsAt (text ++ rest) := by
  cases text with
  | nil => exact fun next first => kind.absorbs_blank next (blank next first)
  | cons c later => exact stops

theorem tokenAt?_none_before_blank (c : Char) (later rest : List Char)
    (missed : tokenAt? (c :: later) = none) (blank : Text.BlankAhead rest) :
    tokenAt? (c :: (later ++ rest)) = none := by
  rw [tokenAt?_eq_none_iff] at missed ⊢
  obtain ⟨visible, starts, digit, foreign | ⟨op, formed, single⟩⟩ := missed
  · exact ⟨visible, starts, digit, Or.inl foreign⟩
  · refine ⟨visible, starts, digit, Or.inr ⟨op, formed, ?_⟩⟩
    cases later with
    | cons d more => exact single
    | nil =>
        intro again
        have alsoBlank := blank c again
        simp [visible] at alsoBlank

theorem lineTranscript_before_blank (number : UInt32) (column : Nat) (text rest : List Char)
    (blank : Text.BlankAhead rest) :
    lineTranscript number column (text ++ rest) =
      (lineTranscript number column text).append
        (lineTranscript number (column + text.length) rest) := by
  induction text using line_induction generalizing column with
  | nil => simp [lineTranscript_nil]
  | missed c later none =>
      rw [lineTranscript_of_none _ _ _ _ none]
      exact lineTranscript_of_none _ _ _ _ (tokenAt?_none_before_blank c later rest none blank)
  | token kind lexeme chars later written stops ih =>
      rw [List.append_assoc,
        lineTranscript_written _ _ kind lexeme chars _ written (stops.before_blank blank),
        lineTranscript_written _ _ kind lexeme chars later written stops,
        Transcript.cons_append, ih, List.length_append, Nat.add_assoc]

theorem withoutTrivia_leading_blanks (number : UInt32) (column : Nat) (blanks rest : List Char)
    (blank : ∀ c ∈ blanks, Text.isBlank c = true) :
    (lineTranscript number column (blanks ++ rest)).withoutTrivia =
      (lineTranscript number (column + blanks.length) rest).withoutTrivia := by
  induction blanks generalizing column with
  | nil => rfl
  | cons c later ih =>
      have written : Kind.space.Written "" [c] := ⟨rfl, c, rfl, blank c (by simp)⟩
      have stops : Kind.space.StopsAt (later ++ rest) := fun _ _ => rfl
      have first := lineTranscript_written number column .space "" [c] (later ++ rest) written stops
      have below := ih (column + 1) fun d member => blank d (List.mem_cons_of_mem c member)
      calc (lineTranscript number column (c :: later ++ rest)).withoutTrivia
          = ((lineTranscript number (column + 1) (later ++ rest)).cons ⟨.space, "", number⟩).withoutTrivia :=
            congrArg Transcript.withoutTrivia first
        _ = (lineTranscript number (column + 1) (later ++ rest)).withoutTrivia := rfl
        _ = (lineTranscript number (column + (c :: later).length) rest).withoutTrivia := by
            rw [below, List.length_cons, Nat.add_comm later.length, Nat.add_assoc]

theorem withoutTrivia_gap (number : UInt32) (column : Nat) (text blanks rest : List Char)
    (nonempty : blanks ≠ []) (blank : ∀ c ∈ blanks, Text.isBlank c = true) :
    (lineTranscript number column (text ++ (blanks ++ rest))).withoutTrivia =
      (lineTranscript number column text).withoutTrivia.append
        (lineTranscript number (column + text.length + blanks.length) rest).withoutTrivia := by
  have ahead : Text.BlankAhead (blanks ++ rest) := by
    intro c first
    rw [List.head?_append_of_ne_nil _ nonempty] at first
    exact blank c (List.mem_of_mem_head? first)
  rw [lineTranscript_before_blank _ _ _ _ ahead, Transcript.withoutTrivia_append,
    withoutTrivia_leading_blanks _ _ _ _ blank]

end QueryLexer

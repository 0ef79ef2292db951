import QueryLexer.Proofs.Blanks

/-!
What is read before the end of a source is known. Text put behind a source can lengthen its last token,
join a sign that stood alone, or turn a return at its very end into half of a terminator; no token before
the last one changes, for every token is settled by the one character behind it.
-/

namespace QueryLexer

namespace Transcript

theorem tokens_prefix_append (first second : Transcript) :
    first.tokens <+: (first.append second).tokens := by
  cases first with
  | mk tokens failure =>
      cases failure with
      | some error => exact List.prefix_rfl
      | none => exact List.prefix_append _ _

theorem dropLast_append_left (above first second : Transcript)
    (kept : first.tokens.dropLast <+: second.tokens) :
    (above.append first).tokens.dropLast <+: (above.append second).tokens := by
  cases whole : above.failure with
  | some error =>
      have stopped : ∀ later, above.append later = above := by
        intro later
        simp [append, whole]
      rw [stopped, stopped]
      exact List.dropLast_prefix _
  | none =>
      rw [tokens_append _ _ whole, tokens_append _ _ whole]
      by_cases empty : first.tokens = []
      · rw [empty, List.append_nil]
        exact (List.dropLast_prefix _).trans (List.prefix_append _ _)
      · rw [List.dropLast_append_of_ne_nil empty]
        exact (List.prefix_append_right_inj _).mpr kept

theorem dropLast_withoutTrivia (first second : Transcript)
    (kept : first.tokens.dropLast <+: second.tokens) :
    first.withoutTrivia.tokens.dropLast <+: second.withoutTrivia.tokens := by
  have known : (first.tokens.dropLast.filter fun token => !token.kind.isTrivia) <+:
      second.withoutTrivia.tokens := kept.filter _
  rcases List.eq_nil_or_concat' first.tokens with empty | ⟨before, last, split⟩
  · simp [withoutTrivia, empty]
  · rw [split, List.dropLast_concat] at known
    refine List.IsPrefix.trans ?_ known
    simp only [withoutTrivia, split, List.filter_append]
    cases blank : last.kind.isTrivia with
    | true => simpa [blank] using List.dropLast_prefix _
    | false => simp [blank]

end Transcript

theorem dropLast_longer_line (number : UInt32) (column : Nat) (text more : List Char) :
    (lineTranscript number column text).tokens.dropLast <+:
      (lineTranscript number column (text ++ more)).tokens := by
  induction text using line_induction generalizing column with
  | nil => simp [lineTranscript_nil, Transcript.finished]
  | missed c later none => simp [lineTranscript_of_none _ _ _ _ none, Transcript.failed]
  | token kind lexeme chars rest written stops ih =>
      rw [lineTranscript_written _ _ kind lexeme chars rest written stops, Transcript.tokens_cons]
      by_cases last : (lineTranscript number (column + chars.length) rest).tokens = []
      · simp [last]
      · -- Another token follows, so the character that stopped this one is on the line already.
        have inside : rest ≠ [] := by
          rintro rfl
          exact last (by simp [lineTranscript_nil, Transcript.finished])
        rw [List.append_assoc, lineTranscript_written _ _ kind lexeme chars _ written
          (stops.before_more more inside), Transcript.tokens_cons, List.dropLast_cons_of_ne_nil last]
        exact (List.prefix_cons_inj _).mpr (ih _)

-- A blank at the end of a line is a token of its own.
theorem dropLast_blank_ended_line (number : UInt32) (column : Nat) (text : List Char) (c : Char)
    (blank : Text.isBlank c = true) :
    (lineTranscript number column (text ++ [c])).tokens.dropLast <+:
      (lineTranscript number column text).tokens := by
  have ahead : Text.BlankAhead [c] := by
    intro d first
    rwa [← Option.some.inj first]
  have space : lineTranscript number (column + text.length) [c] =
      ⟨[⟨.space, "", number⟩], none⟩ := by
    have written : Kind.space.Written "" [c] := ⟨rfl, c, rfl, blank⟩
    have read := lineTranscript_written number (column + text.length) .space "" [c] [] written
      fun _ _ => rfl
    rwa [lineTranscript_nil] at read
  have cut := Transcript.dropLast_append_left (lineTranscript number column text)
    ⟨[⟨.space, "", number⟩], none⟩ .finished (List.nil_prefix)
  rwa [← space, ← lineTranscript_before_blank _ _ _ _ ahead, Transcript.append_finished] at cut

theorem dropLast_longer_page (above below : List (List Char)) (last changed : List Char)
    (kept : ∀ number, (lineTranscript number 1 last).tokens.dropLast <+:
      (lineTranscript number 1 changed).tokens) :
    (pageTranscript 1 (above ++ [last])).tokens.dropLast <+:
      (pageTranscript 1 (above ++ changed :: below)).tokens := by
  rw [pageTranscript_append, pageTranscript_append]
  apply Transcript.dropLast_append_left
  rw [pageTranscript, pageTranscript, pageTranscript, Transcript.append_finished]
  exact (kept _).trans (Transcript.tokens_prefix_append _ _)

theorem dropLast_longer_text (terminator : Terminator) (text more : List Char) :
    (pageTranscript 1 (terminator.lines text)).tokens.dropLast <+:
      (pageTranscript 1 (terminator.lines (text ++ more))).tokens := by
  by_cases seam : terminator.Seam text more
  · cases terminator with
    | lf => exact seam.elim
    | crlf =>
        -- The return ended the last line; now it is part of a terminator, and the line ends before it.
        rcases seam with ⟨returned, feed⟩
        rcases List.getLast?_eq_some_iff.mp returned with ⟨first, rfl⟩
        rcases List.head?_eq_some_iff.mp feed with ⟨second, rfl⟩
        rcases Terminator.crlf.lines_seamless first ['\r'] (by simp [Terminator.Seam]) with
          ⟨above, last, head, below, upper, lower, whole⟩
        rcases List.cons.inj lower with ⟨rfl, rfl⟩
        have cut : Terminator.crlf.lines (first ++ ['\r'] ++ '\n' :: second) =
            above ++ last :: Terminator.crlf.lines second := by
          have apart := Terminator.crlf.lines_append first second
          rw [upper, List.append_assoc, List.singleton_append] at apart
          rw [← apart, List.append_assoc]
          rfl
        rw [whole, cut]
        apply dropLast_longer_page
        intro number
        exact dropLast_blank_ended_line number 1 last '\r' (by decide)
  · rcases terminator.lines_seamless text more seam with
      ⟨above, last, head, below, upper, _, whole⟩
    rw [upper, whole]
    apply dropLast_longer_page
    intro number
    exact dropLast_longer_line number 1 last head

theorem longer_source_keeps_tokens (source more : String) (mode : LexMode) :
    (TokenStream.ofSource source mode).transcript.tokens.dropLast <+:
      (TokenStream.ofSource (source ++ more) mode).transcript.tokens := by
  have page := dropLast_longer_text mode.terminator source.toList more.toList
  rw [transcript_ofSource, transcript_ofSource, sourceTranscript, sourceTranscript, String.toList_append]
  cases mode.skipTrivia with
  | false => exact page
  | true => exact Transcript.dropLast_withoutTrivia _ _ page

end QueryLexer

import QueryLexer.Proofs.Acceptance
import QueryLexer.Proofs.Blanks

/-!
Line ends. Nothing is read across one, so two sources with a terminator between them are lexed one after
the other. Which terminator it is does not matter for what the lines are: with the line feeds of a source
written as carriage return and line feed, cutting at the longer terminator gives the same lines. To a reader
that leaves blanks out it hardly matters where a source is cut at all, for the characters of a terminator
are blanks themselves: the words are those of the source read as one long line.
-/

namespace QueryLexer

theorem sourceTranscript_append (first second : String) (mode : LexMode) :
    sourceTranscript (first ++ mode.terminator.text ++ second) mode =
      (sourceTranscript first mode).append ((sourceTranscript second mode).relocated
        (· + .ofNat (mode.terminator.lines first.toList).length) id) := by
  have page : pageTranscript 1
        (mode.terminator.lines (first ++ mode.terminator.text ++ second).toList) =
      (pageTranscript 1 (mode.terminator.lines first.toList)).append
        ((pageTranscript 1 (mode.terminator.lines second.toList)).relocated
          (· + .ofNat (mode.terminator.lines first.toList).length) id) := by
    rw [String.toList_append, String.toList_append, List.append_assoc,
      mode.terminator.lines_append, pageTranscript_append, pageTranscript_below]
  unfold sourceTranscript
  rw [page]
  cases mode.skipTrivia with
  | false => rfl
  | true =>
      simp only [if_true]
      rw [Transcript.withoutTrivia_append, Transcript.withoutTrivia_relocated]

theorem line_of_sourceTranscript (source : String) (mode : LexMode)
    (few : (mode.terminator.lines source.toList).length < UInt32.size) :
    ∀ token ∈ (sourceTranscript source mode).tokens,
      token.line.toNat ≤ (mode.terminator.lines source.toList).length := by
  have bounds := line_bounds_of_pageTranscript 1 (mode.terminator.lines source.toList) (by omega)
  have page : ∀ token ∈ (pageTranscript 1 (mode.terminator.lines source.toList)).tokens,
      token.line.toNat ≤ (mode.terminator.lines source.toList).length := by
    intro token member
    have upper := (bounds token member).2
    omega
  unfold sourceTranscript
  split
  case isTrue => exact fun token member => page token (List.mem_filter.mp member).1
  case isFalse => exact page

theorem line_of_error (source : String) (mode : LexMode) (error : LexError)
    (few : (mode.terminator.lines source.toList).length < UInt32.size)
    (failed : tokenize source mode = .error error) :
    error.line.toNat ≤ (mode.terminator.lines source.toList).length := by
  obtain ⟨line, column, c, ⟨⟨text, here, _⟩, _⟩, rfl⟩ :=
    (tokenize_eq_error_iff source mode error).mp failed
  have inside := (List.getElem?_eq_some_iff.mp here).1
  rw [LexError.line, UInt32.toNat_ofNat_of_lt' (by omega)]
  exact inside

theorem toNat_add_ofNat (line : UInt32) (count : Nat) (fits : line.toNat + count < UInt32.size) :
    (line + UInt32.ofNat count).toNat = line.toNat + count := by
  have same : line + UInt32.ofNat count = UInt32.ofNat (line.toNat + count) := by
    rw [UInt32.ofNat_add, UInt32.ofNat_toNat]
  rw [same, UInt32.toNat_ofNat_of_lt' fits]

theorem tokenize_append_line (first second : String) (mode : LexMode) :
    let count := (Cursor.ofSource first mode.terminator).lineCount
    tokenize (first ++ mode.terminator.text ++ second) mode =
      (match tokenize first mode, tokenize second mode with
      | .error error, _ => .error error
      | .ok _, .error error => .error (error.relocated (· + .ofNat count) id)
      | .ok tokens, .ok later => .ok (tokens ++ later.map (·.relocated (· + .ofNat count)))) ∧
    (count + (Cursor.ofSource second mode.terminator).lineCount < UInt32.size →
      match tokenize second mode with
      | .error error => (error.line + .ofNat count).toNat = error.line.toNat + count
      | .ok later => ∀ token ∈ later, (token.line + .ofNat count).toNat = token.line.toNat + count) := by
  intro count
  constructor
  · rw [tokenize_eq, tokenize_eq, tokenize_eq, sourceTranscript_append, Transcript.result_append,
      Transcript.result_relocated]
    cases (sourceTranscript first mode).result with
    | error error => rfl
    | ok tokens => cases (sourceTranscript second mode).result <;> rfl
  · intro few
    have fewBelow : count + (mode.terminator.lines second.toList).length < UInt32.size := few
    cases lexed : tokenize second mode with
    | error error =>
        have line := line_of_error second mode error (by omega) lexed
        exact toNat_add_ofNat error.line count (by omega)
    | ok later =>
        rw [tokenize_eq, Transcript.result_eq_ok_iff] at lexed
        obtain ⟨_, rfl⟩ := lexed
        intro token member
        have line := line_of_sourceTranscript second mode (by omega) token member
        exact toNat_add_ofNat token.line count (by omega)

-- Two lines above the one with the error, the second of them blank.
theorem tokenize_append_line_below_blank :
    2 + (Cursor.ofSource " |" .lf).lineCount < UInt32.size ∧
      tokenize "x\n\n |" ⟨.lf, false⟩ = .error (.unexpectedChar (1 + .ofNat 2) 2 '|') ∧
      (1 + UInt32.ofNat 2).toNat = 1 + 2 := by
  have first : tokenize "x\n" ⟨.lf, false⟩ = .ok [⟨.identifier, "x", 1⟩] := by decide +kernel
  have second : tokenize " |" ⟨.lf, false⟩ = .error (.unexpectedChar 1 2 '|') := by decide +kernel
  have few : 2 + (Cursor.ofSource " |" .lf).lineCount < UInt32.size := by decide +kernel
  obtain ⟨whole, unwrapped⟩ := tokenize_append_line "x\n" " |" ⟨.lf, false⟩
  rw [first, second] at whole
  rw [second] at unwrapped
  exact ⟨few, whole, unwrapped few⟩

/-- The text with a carriage return put in front of every line feed. -/
def Text.feedsReturned (text : List Char) : List Char :=
  text.flatMap fun c => if c = '\n' then ['\r', '\n'] else [c]

namespace Terminator

theorem intercalate_lines_lf (text : List Char) :
    List.intercalate crlf.text.toList (lf.lines text) = Text.feedsReturned text := by
  induction text with
  | nil => rfl
  | cons c rest ih =>
      by_cases feed : c = '\n'
      · subst feed
        rw [Terminator.lines, intercalate_nil_cons _ _ (lines_ne_nil _ _), ih]
        rfl
      · have plain : ¬ lf.Begins (c :: rest) := fun same => feed (Option.some.inj same)
        rw [lines_cons lf c rest plain, intercalate_extendFirst _ _ _ (lines_ne_nil _ _), ih]
        simp [Text.feedsReturned, feed]

theorem no_feed_of_mem_lines (source : List Char) : ∀ text ∈ lf.lines source, '\n' ∉ text := by
  intro text member feed
  obtain ⟨before, after, rfl⟩ := List.append_of_mem feed
  exact not_infix_of_mem_lines lf source _ member ⟨before, after, by simp [Terminator.text]⟩

theorem lines_feedsReturned (source : List Char) :
    crlf.lines (Text.feedsReturned source) = lf.lines source := by
  have joined := lines_join crlf (lf.lines source) (lines_ne_nil _ _) (no_feed_of_mem_lines source)
  rwa [join, String.toList_ofList, intercalate_lines_lf] at joined

end Terminator

theorem tokenize_feedsReturned (source : String) (skipTrivia : Bool) :
    tokenize source ⟨.lf, skipTrivia⟩ =
      tokenize (String.ofList (Text.feedsReturned source.toList)) ⟨.crlf, skipTrivia⟩ := by
  have same : sourceTranscript source ⟨.lf, skipTrivia⟩ =
      sourceTranscript (String.ofList (Text.feedsReturned source.toList)) ⟨.crlf, skipTrivia⟩ := by
    unfold sourceTranscript
    simp only [String.toList_ofList, Terminator.lines_feedsReturned]
  rw [tokenize_eq, tokenize_eq, same]

-- Lines joined by blanks: what stands on the page is what stands on the line.
theorem unplaced_joined (number : Nat) (line : UInt32) (column : Nat) (gap : List Char) (lines : List (List Char))
    (wide : gap ≠ []) (blank : ∀ c ∈ gap, Text.isBlank c = true) :
    (pageTranscript number lines).withoutTrivia.unplaced =
      (lineTranscript line column (List.intercalate gap lines)).withoutTrivia.unplaced := by
  induction lines generalizing number column with
  | nil => simp [pageTranscript, lineTranscript_nil]
  | cons text later ih =>
      have here : (lineTranscript (.ofNat number) 1 text).withoutTrivia.unplaced =
          (lineTranscript line column text).withoutTrivia.unplaced := by
        simp only [Transcript.unplaced, ← Transcript.withoutTrivia_relocated]
        exact congrArg _ (unplaced_lineTranscript _ line 1 column text)
      cases later with
      | nil =>
          rw [pageTranscript, pageTranscript, Transcript.append_finished, List.intercalate_singleton,
            here]
      | cons next below =>
          rw [List.intercalate_cons_cons, List.append_assoc, withoutTrivia_gap _ _ _ _ _ wide blank,
            pageTranscript, Transcript.withoutTrivia_append, Transcript.unplaced, Transcript.unplaced,
            Transcript.relocated_append, Transcript.relocated_append]
          exact congrArg₂ Transcript.append here (ih (number + 1) _)

theorem unplaced_sourceTranscript (source : String) (terminator : Terminator) :
    (sourceTranscript source ⟨terminator, true⟩).unplaced =
      (lineTranscript 1 1 source.toList).withoutTrivia.unplaced := by
  have wide : terminator.text.toList ≠ [] := by cases terminator <;> decide
  have blank : terminator.text.toList.all Text.isBlank = true := by cases terminator <;> decide
  have joined := unplaced_joined 1 1 1 terminator.text.toList (terminator.lines source.toList) wide
    (List.all_eq_true.mp blank)
  rwa [terminator.intercalate_lines] at joined

/-- Every line feed comes right behind a carriage return. -/
def Text.ReturnBeforeFeed (text : List Char) : Prop :=
  text.head? ≠ some '\n' ∧ text.IsChain fun first second => second = '\n' → first = '\r'

instance (text : List Char) : Decidable (Text.ReturnBeforeFeed text) :=
  inferInstanceAs (Decidable (_ ∧ _))

namespace Terminator

/-- The lines with a carriage return at the end of each, except for the last. -/
def withReturns : List (List Char) → List (List Char)
  | [] => []
  | [last] => [last]
  | text :: next :: later => (text ++ ['\r']) :: withReturns (next :: later)

theorem withReturns_cons (text : List Char) (later : List (List Char)) (more : later ≠ []) :
    withReturns (text :: later) = (text ++ ['\r']) :: withReturns later := by
  cases later with
  | nil => exact absurd rfl more
  | cons next below => rfl

theorem withReturns_extendFirst (c : Char) (lines : List (List Char)) (nonempty : lines ≠ []) :
    withReturns (extendFirst c lines) = extendFirst c (withReturns lines) := by
  cases lines with
  | nil => exact absurd rfl nonempty
  | cons text later => cases later <;> rfl

theorem lines_lf_of_returnBeforeFeed (text : List Char) (returned : Text.ReturnBeforeFeed text) :
    lf.lines text = withReturns (crlf.lines text) := by
  generalize same : crlf = terminator
  fun_induction Terminator.lines terminator text with
  | case1 => rfl
  | case2 rest => cases same
  | case3 rest ih =>
      -- A feed right behind the pair would have the feed of the pair before it, and no return.
      obtain ⟨_, chain⟩ := returned
      rw [List.isChain_cons, List.isChain_cons] at chain
      have apart : rest.head? ≠ some '\n' := fun feed => absurd (chain.2.1 '\n' feed rfl) (by decide)
      rw [withReturns_cons _ _ (lines_ne_nil _ _), ← ih ⟨apart, chain.2.2⟩ rfl,
        lines_cons lf '\r' _ (by simp [Begins]), Terminator.lines]
      rfl
  | case4 terminator c rest noFeed noReturn ih =>
      -- No terminator stands here, so a feed right behind `c` would have no return before it.
      subst same
      obtain ⟨first, chain⟩ := returned
      rw [List.isChain_cons] at chain
      have plain : ¬ crlf.Begins (c :: rest) := not_begins crlf c rest noFeed noReturn
      have apart : rest.head? ≠ some '\n' := by
        intro feed
        exact plain ⟨congrArg some (chain.1 '\n' feed rfl), by simpa [List.head?_eq_getElem?] using feed⟩
      rw [lines_cons lf c rest first, ih ⟨apart, chain.2⟩ rfl,
        withReturns_extendFirst _ _ (lines_ne_nil _ _)]

end Terminator

theorem withoutTrivia_withReturns (number : Nat) (lines : List (List Char)) :
    (pageTranscript number (Terminator.withReturns lines)).withoutTrivia =
      (pageTranscript number lines).withoutTrivia := by
  induction lines generalizing number with
  | nil => rfl
  | cons text later ih =>
      cases later with
      | nil => rfl
      | cons next below =>
          have line : (lineTranscript (.ofNat number) 1 (text ++ ['\r'])).withoutTrivia =
              (lineTranscript (.ofNat number) 1 text).withoutTrivia := by
            have gap := withoutTrivia_gap (.ofNat number) 1 text ['\r'] [] (List.cons_ne_nil _ _)
              (List.forall_mem_singleton.mpr (by decide))
            rw [List.append_nil, lineTranscript_nil] at gap
            exact gap.trans (Transcript.append_finished _)
          rw [Terminator.withReturns, pageTranscript, pageTranscript, Transcript.withoutTrivia_append,
            Transcript.withoutTrivia_append, line, ih]

theorem sourceTranscript_of_returnBeforeFeed (source : String)
    (returned : Text.ReturnBeforeFeed source.toList) :
    sourceTranscript source ⟨.lf, true⟩ = sourceTranscript source ⟨.crlf, true⟩ := by
  unfold sourceTranscript
  simp only [if_true]
  rw [Terminator.lines_lf_of_returnBeforeFeed _ returned, withoutTrivia_withReturns]

/-- What the token says, wherever it stands. -/
def Token.wording (token : Token) : Kind × String := (token.kind, token.lexeme)

theorem wording_of_unplaced (first second : Transcript) (same : first.unplaced = second.unplaced) :
    first.tokens.map Token.wording = second.tokens.map Token.wording := by
  have kept : ∀ transcript : Transcript,
      transcript.unplaced.tokens.map Token.wording = transcript.tokens.map Token.wording := by
    intro transcript
    simp only [Transcript.unplaced, Transcript.relocated, List.map_map]
    rfl
  rw [← kept first, same, kept second]

theorem ch_of_unplaced (first second : Transcript) (line column : UInt32) (ch : Char)
    (same : first.unplaced = second.unplaced)
    (failure : first.failure = some (.unexpectedChar line column ch)) :
    ∃ line' column', second.failure = some (.unexpectedChar line' column' ch) := by
  have failures := congrArg Transcript.failure same
  simp only [Transcript.unplaced, Transcript.relocated, failure, Option.map_some] at failures
  obtain ⟨error, found, moved⟩ := Option.map_eq_some_iff.mp failures.symm
  cases error with
  | unexpectedChar line' column' ch' =>
      obtain ⟨_, _, rfl⟩ := LexError.unexpectedChar.inj moved
      exact ⟨line', column', found⟩
  | integerOverflow line' lexeme => cases moved
  | notAnInteger line' kind => cases moved

theorem tokenize_either_terminator (source : String) :
    ((∃ tokens tokens', tokenize source ⟨.lf, true⟩ = .ok tokens ∧
          tokenize source ⟨.crlf, true⟩ = .ok tokens' ∧
          tokens.map Token.wording = tokens'.map Token.wording) ∨
        ∃ line column line' column' ch,
          tokenize source ⟨.lf, true⟩ = .error (.unexpectedChar line column ch) ∧
          tokenize source ⟨.crlf, true⟩ = .error (.unexpectedChar line' column' ch) ∧
          (TokenStream.ofSource source ⟨.lf, true⟩).transcript.tokens.map Token.wording =
            (TokenStream.ofSource source ⟨.crlf, true⟩).transcript.tokens.map Token.wording) ∧
      (Text.ReturnBeforeFeed source.toList →
        tokenize source ⟨.lf, true⟩ = tokenize source ⟨.crlf, true⟩) := by
  have same : (sourceTranscript source ⟨.lf, true⟩).unplaced =
      (sourceTranscript source ⟨.crlf, true⟩).unplaced :=
    (unplaced_sourceTranscript source .lf).trans (unplaced_sourceTranscript source .crlf).symm
  have words := wording_of_unplaced _ _ same
  simp only [tokenize_eq, transcript_ofSource, Transcript.result_eq_ok_iff,
    Transcript.result_eq_error_iff]
  constructor
  · rcases failure_of_pageTranscript 1 (Terminator.lf.lines source.toList) with
      ⟨whole, _⟩ | ⟨line, column, ch, failure, _⟩
    · left
      have whole' : (sourceTranscript source ⟨.crlf, true⟩).failure = none := by
        have failures := congrArg Transcript.failure same
        rw [← failure_sourceTranscript source ⟨.lf, true⟩] at whole
        simpa [Transcript.unplaced, Transcript.relocated, whole] using failures.symm
      exact ⟨_, _, ⟨whole, rfl⟩, ⟨whole', rfl⟩, words⟩
    · right
      obtain ⟨line', column', failure'⟩ := ch_of_unplaced _ _ _ _ _ same failure
      exact ⟨_, _, line', column', ch, failure, failure', words⟩
  · intro returned
    rw [sourceTranscript_of_returnBeforeFeed source returned]

theorem tokenize_either_terminator_stray_return :
    Text.ReturnBeforeFeed "a\r\r\n\r\n \r1&".toList ∧
      tokenize "a\r\r\n\r\n \r1&" ⟨.lf, true⟩ = .error (.unexpectedChar 3 4 '&') ∧
      tokenize "a\r\r\n\r\n \r1&" ⟨.crlf, true⟩ = .error (.unexpectedChar 3 4 '&') := by
  have returned : Text.ReturnBeforeFeed "a\r\r\n\r\n \r1&".toList := by decide
  have same := (tokenize_either_terminator "a\r\r\n\r\n \r1&").2 returned
  have lexed : tokenize "a\r\r\n\r\n \r1&" ⟨.lf, true⟩ = .error (.unexpectedChar 3 4 '&') := by
    rw [tokenize_eq, Transcript.result_eq_error_iff]
    decide +kernel
  exact ⟨returned, lexed, same.symm.trans lexed⟩

end QueryLexer

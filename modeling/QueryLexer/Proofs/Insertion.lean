import QueryLexer.Proofs.Blanks

/-!
Room between tokens. A blank may be put at the start of a line, at its end, or between two tokens, and a
reader that leaves blanks out does not notice. A line is cut there into two lines' worth of tokens: what
stops a token at the next one also stops it at the end of a line, and at a blank.
-/

namespace QueryLexer

def Text.insertAt (column : Nat) (c : Char) (text : List Char) : List Char :=
  text.take column ++ c :: text.drop column

namespace Terminator

/-- The source with `c` put in at `column` of the line at `index`, both counted from zero. -/
def insertInLine (terminator : Terminator) (source : String) (index column : Nat) (c : Char) : String :=
  terminator.join ((terminator.lines source.toList).modify index (Text.insertAt column c))

-- Neither side has a terminator in it, and the new character is no part of one.
theorem not_infix_insertAt (terminator : Terminator) (text : List Char) (column : Nat) (c : Char)
    (inLine : c ≠ '\r' ∧ c ≠ '\n') (single : ¬ terminator.text.toList <:+: text) :
    ¬ terminator.text.toList <:+: Text.insertAt column c text := by
  have before := lines_of_not_infix terminator (text.take column) fun inside =>
    single (inside.trans (List.take_prefix column text).isInfix)
  have after := lines_of_not_infix terminator (text.drop column) fun inside =>
    single (inside.trans (List.drop_suffix column text).isInfix)
  have plain : ¬ terminator.Begins (c :: text.drop column) := by
    cases terminator <;> simp [Begins, inLine]
  have seamless : ¬ terminator.Seam (text.take column) (c :: text.drop column) := by
    cases terminator <;> simp [Seam, inLine]
  rcases terminator.lines_seamless _ _ seamless with ⟨above, last, head, below, upper, lower, whole⟩
  rw [before] at upper
  rw [lines_cons terminator c _ plain, after] at lower
  rcases List.append_singleton_inj.mp (show [] ++ [text.take column] = above ++ [last] from upper) with
    ⟨rfl, rfl⟩
  rcases List.cons.inj lower with ⟨rfl, rfl⟩
  exact not_infix_of_mem_lines terminator _ _ (by rw [whole]; exact List.mem_cons_self)

theorem lines_insertInLine (terminator : Terminator) (source : String) (index column : Nat) (c : Char)
    (inLine : c ≠ '\r' ∧ c ≠ '\n') :
    terminator.lines (terminator.insertInLine source index column c).toList =
      (terminator.lines source.toList).modify index (Text.insertAt column c) := by
  have single := not_infix_of_mem_lines terminator source.toList
  apply lines_of_separates
  · simp [lines_ne_nil]
  · constructor
    · rfl
    · intro text member
      rcases List.mem_iff_getElem?.mp member with ⟨place, found⟩
      rw [List.getElem?_modify] at found
      rcases Option.map_eq_some_iff.mp found with ⟨original, stood, rfl⟩
      have kept := single original (List.mem_of_getElem? stood)
      split
      case isTrue => exact not_infix_insertAt terminator original column c inLine kept
      case isFalse => exact kept

end Terminator

-- The induction is on the tokens before the cut.
theorem lineTranscript_cut (number : UInt32) (column : Nat) (before after : List Char)
    (read left : List Token) (tokens : (lineTranscript number column (before ++ after)).tokens = read ++ left)
    (length : (read.flatMap (·.text.toList)).length = before.length) :
    lineTranscript number column (before ++ after) =
      (lineTranscript number column before).append
        (lineTranscript number (column + before.length) after) := by
  induction read generalizing column before with
  | nil =>
      obtain rfl : before = [] := List.length_eq_zero_iff.mp length.symm
      simp [lineTranscript_nil]
  | cons token read ih =>
      rcases lineTranscript_first _ _ _ _ _ tokens with
        ⟨chars, rest, split, written, stops, rfl, below⟩
      have size : token.text.toList.length = chars.length := by
        rw [text_of_written token.kind token.lexeme token.line chars written, List.length_map]
      rw [List.flatMap_cons, List.length_append, size] at length
      have start : chars <+: before ++ after := by
        rw [split]
        exact List.prefix_append _ _
      have shorter := List.prefix_of_prefix_length_le start (List.prefix_append _ _) (by omega)
      rcases shorter with ⟨inside, rfl⟩
      rw [List.append_assoc] at split
      obtain rfl := List.append_cancel_left split
      rw [List.length_append] at length
      have cut := ih (column + chars.length) inside below (by omega)
      rw [List.append_assoc, lineTranscript_written _ _ token.kind token.lexeme chars _ written stops,
        lineTranscript_written _ _ token.kind token.lexeme chars inside written stops.of_append, cut,
        Transcript.cons_append, List.length_append, Nat.add_assoc]

/-- A place between two tokens, blanks counted as tokens: as many characters stand before it as the tokens
up to the first of the two are written with. -/
def BetweenTokens (source : String) (terminator : Terminator) (index column : Nat) : Prop :=
  ∃ before first second after,
    tokenize source ⟨terminator, false⟩ = .ok (before ++ first :: second :: after) ∧
    ((terminator.lines source.toList).take index).flatten.length + column =
      ((before ++ [first]).flatMap (·.text.toList)).length

/-- The line is read as what stands before the place and what stands behind it, one after the other. -/
def PartsAt (number : UInt32) (text : List Char) (column : Nat) : Prop :=
  lineTranscript number 1 text = (lineTranscript number 1 (text.take column)).append
    (lineTranscript number (1 + (text.take column).length) (text.drop column))

theorem partsAt_start (number : UInt32) (text : List Char) : PartsAt number text 0 := by
  simp [PartsAt, lineTranscript_nil]

theorem partsAt_end (number : UInt32) (text : List Char) : PartsAt number text text.length := by
  simp [PartsAt, lineTranscript_nil, Transcript.append_finished]

theorem tokens_around_line (number : Nat) (lines : List (List Char))
    (whole : (pageTranscript number lines).failure = none) (index : Nat) (text : List Char)
    (line : lines[index]? = some text) :
    (lineTranscript (.ofNat (number + index)) 1 text).failure = none ∧
      ∃ above below, (pageTranscript number lines).tokens =
          above ++ ((lineTranscript (.ofNat (number + index)) 1 text).tokens ++ below) ∧
        (above.flatMap (·.text.toList)).length = (lines.take index).flatten.length := by
  obtain ⟨inside, rfl⟩ := List.getElem?_eq_some_iff.mp line
  have size : (lines.take index).length = index := List.length_take_of_le (Nat.le_of_lt inside)
  have split : pageTranscript number lines = (pageTranscript number (lines.take index)).append
      ((lineTranscript (.ofNat (number + index)) 1 lines[index]).append
        (pageTranscript (number + index + 1) (lines.drop (index + 1)))) := by
    conv => lhs; rw [← List.take_append_drop index lines, List.drop_eq_getElem_cons inside]
    rw [pageTranscript_append, size, pageTranscript]
  rw [split, Transcript.failure_append_eq_none_iff, Transcript.failure_append_eq_none_iff] at whole
  obtain ⟨above, here, _⟩ := whole
  refine ⟨here, (pageTranscript number (lines.take index)).tokens,
    (pageTranscript (number + index + 1) (lines.drop (index + 1))).tokens, ?_, ?_⟩
  · rw [split, Transcript.tokens_append _ _ above, Transcript.tokens_append _ _ here]
  · rw [text_of_pageTranscript _ _ above, List.length_map]

-- Every token is written with at least one character, so the number of characters tells how many tokens.
theorem prefix_of_width_le (first second tokens : List Token) (left : first <+: tokens)
    (right : second <+: tokens) (wellFormed : ∀ token ∈ tokens, token.WellFormed)
    (narrow : (first.flatMap (·.text.toList)).length ≤ (second.flatMap (·.text.toList)).length) :
    first <+: second := by
  rcases List.prefix_or_prefix_of_prefix left right with shorter | ⟨more, rfl⟩
  · exact shorter
  · cases more with
    | nil => simp
    | cons token later =>
        have member : token ∈ tokens := left.subset (by simp)
        have written := List.length_pos_iff.mpr (wellFormed token member).written.ne_nil
        simp only [List.flatMap_append, List.flatMap_cons, List.length_append] at narrow
        omega

theorem partsAt_between (source : String) (terminator : Terminator) (index column : Nat) (text : List Char)
    (line : (terminator.lines source.toList)[index]? = some text) (inside : column ≤ text.length)
    (between : BetweenTokens source terminator index column) :
    PartsAt (.ofNat (1 + index)) text column := by
  rcases between with ⟨before, first, second, after, lexed, place⟩
  rw [tokenize_eq, sourceTranscript_plain, Transcript.result_eq_ok_iff] at lexed
  rcases lexed with ⟨whole, tokens⟩
  have wellFormed := wellFormed_of_pageTranscript 1 (terminator.lines source.toList)
  rcases tokens_around_line 1 _ whole index text line with ⟨finished, above, below, around, width⟩
  have spelled := congrArg List.length (text_of_lineTranscript _ _ _ finished)
  rw [List.length_map] at spelled
  have upTo : before ++ [first] <+: (pageTranscript 1 (terminator.lines source.toList)).tokens := by
    rw [tokens]
    exact ⟨second :: after, by simp⟩
  have start : above <+: (pageTranscript 1 (terminator.lines source.toList)).tokens := by
    rw [around]
    exact List.prefix_append _ _
  have stop : above ++ (lineTranscript (.ofNat (1 + index)) 1 text).tokens <+:
      (pageTranscript 1 (terminator.lines source.toList)).tokens := by
    rw [around, ← List.append_assoc]
    exact List.prefix_append _ _
  obtain ⟨read, cut⟩ := prefix_of_width_le _ _ _ start upTo wellFormed (by omega)
  have reach : ((above ++ (lineTranscript (.ofNat (1 + index)) 1 text).tokens).flatMap
      (·.text.toList)).length = (above.flatMap (·.text.toList)).length + text.length := by
    rw [List.flatMap_append, List.length_append, spelled]
  have within := prefix_of_width_le _ _ _ upTo stop wellFormed (by omega)
  rw [← cut] at within place
  obtain ⟨left, rest⟩ := (List.prefix_append_right_inj above).mp within
  rw [List.flatMap_append, List.length_append] at place
  rw [PartsAt]
  conv => lhs; rw [← List.take_append_drop column text]
  apply lineTranscript_cut _ _ _ _ read left
  · rw [List.take_append_drop, rest]
  · rw [List.length_take]
    omega

theorem lineTranscript_aside (number : UInt32) (column count : Nat) (text : List Char)
    (whole : (lineTranscript number column text).failure = none) :
    lineTranscript number (column + count) text = lineTranscript number column text := by
  have moved := relocated_lineTranscript id id id (· + .ofNat count) number number (column + count) column
    text rfl (by intro offset; rw [Nat.add_right_comm, UInt32.ofNat_add]; rfl)
  rw [Transcript.relocated_id, Transcript.relocated_columns _ _ whole] at moved
  exact moved

theorem withoutTrivia_insertAt (number : UInt32) (column : Nat) (text : List Char) (c : Char)
    (blank : Text.isBlank c = true) (whole : (lineTranscript number 1 text).failure = none)
    (parts : PartsAt number text column) :
    (lineTranscript number 1 (Text.insertAt column c text)).withoutTrivia =
      (lineTranscript number 1 text).withoutTrivia := by
  have gap := withoutTrivia_gap number 1 (text.take column) [c] (text.drop column)
    (List.cons_ne_nil _ _) (List.forall_mem_singleton.mpr blank)
  rw [parts, Transcript.failure_append_eq_none_iff] at whole
  rw [parts, Transcript.withoutTrivia_append, ← lineTranscript_aside _ _ 1 _ whole.2]
  exact gap

theorem withoutTrivia_modify (change : List Char → List Char) (number index : Nat)
    (lines : List (List Char)) (text : List Char) (line : lines[index]? = some text)
    (unnoticed : (lineTranscript (.ofNat (number + index)) 1 (change text)).withoutTrivia =
      (lineTranscript (.ofNat (number + index)) 1 text).withoutTrivia) :
    (pageTranscript number (lines.modify index change)).withoutTrivia =
      (pageTranscript number lines).withoutTrivia := by
  induction lines generalizing number index with
  | nil => simp at line
  | cons first later ih =>
      cases index with
      | zero =>
          rw [Nat.add_zero] at unnoticed
          obtain rfl : first = text := by simpa using line
          rw [List.modify_zero_cons, pageTranscript, pageTranscript, Transcript.withoutTrivia_append,
            Transcript.withoutTrivia_append, unnoticed]
      | succ index =>
          rw [← Nat.add_assoc, Nat.add_right_comm] at unnoticed
          rw [List.modify_succ_cons, pageTranscript, pageTranscript, Transcript.withoutTrivia_append,
            Transcript.withoutTrivia_append, ih (number + 1) index (by simpa using line) unnoticed]

theorem tokenize_blank_inserted (source : String) (terminator : Terminator) (tokens : List Token)
    (lexed : tokenize source ⟨terminator, true⟩ = .ok tokens) (c : Char) (blank : Text.isBlank c = true)
    (inLine : c ≠ '\r' ∧ c ≠ '\n') (index column : Nat) (text : List Char)
    (line : (terminator.lines source.toList)[index]? = some text)
    (place : column = 0 ∨ column = text.length ∨
      column ≤ text.length ∧ BetweenTokens source terminator index column) :
    tokenize (terminator.insertInLine source index column c) ⟨terminator, true⟩ = .ok tokens := by
  have parts : PartsAt (.ofNat (1 + index)) text column := by
    rcases place with rfl | rfl | ⟨inside, between⟩
    · exact partsAt_start _ text
    · exact partsAt_end _ text
    · exact partsAt_between source terminator index column text line inside between
  rw [tokenize_eq, Transcript.result_eq_ok_iff] at lexed
  have whole := (tokens_around_line 1 _ lexed.1 index text line).1
  have unnoticed := withoutTrivia_insertAt _ column text c blank whole parts
  have same : sourceTranscript (terminator.insertInLine source index column c) ⟨terminator, true⟩ =
      sourceTranscript source ⟨terminator, true⟩ := by
    simp only [sourceTranscript, if_true, terminator.lines_insertInLine source index column c inLine]
    exact withoutTrivia_modify _ 1 index _ text line unnoticed
  rw [tokenize_eq, same, Transcript.result_eq_ok_iff]
  exact lexed

theorem tokenize_blank_inserted_before_letter :
    BetweenTokens "x\r\n\n1z>" .crlf 1 2 ∧
      tokenize "x\r\n\n1z>" ⟨.crlf, true⟩ = .ok [⟨.identifier, "x", 1⟩, ⟨.integer, "1", 2⟩,
        ⟨.identifier, "z", 2⟩, ⟨.operator .greaterThan, "", 2⟩] ∧
      tokenize "x\r\n\n1\u3000z>" ⟨.crlf, true⟩ = .ok [⟨.identifier, "x", 1⟩, ⟨.integer, "1", 2⟩,
        ⟨.identifier, "z", 2⟩, ⟨.operator .greaterThan, "", 2⟩] := by
  have between : BetweenTokens "x\r\n\n1z>" .crlf 1 2 := by
    refine ⟨[⟨.identifier, "x", 1⟩, ⟨.space, "", 2⟩], ⟨.integer, "1", 2⟩, ⟨.identifier, "z", 2⟩,
      [⟨.operator .greaterThan, "", 2⟩], ?_, by decide⟩
    rw [tokenize_eq, Transcript.result_eq_ok_iff]
    decide +kernel
  have lexed : tokenize "x\r\n\n1z>" ⟨.crlf, true⟩ = .ok [⟨.identifier, "x", 1⟩, ⟨.integer, "1", 2⟩,
      ⟨.identifier, "z", 2⟩, ⟨.operator .greaterThan, "", 2⟩] := by
    rw [tokenize_eq, Transcript.result_eq_ok_iff]
    decide +kernel
  have source : Terminator.crlf.insertInLine "x\r\n\n1z>" 1 2 '\u3000' = "x\r\n\n1\u3000z>" := by
    decide +kernel
  have spaced := tokenize_blank_inserted "x\r\n\n1z>" .crlf _ lexed '\u3000' (by decide) (by decide) 1 2
    ['\n', '1', 'z', '>'] (by decide) (Or.inr (Or.inr ⟨by decide, between⟩))
  rw [source] at spaced
  exact ⟨between, lexed, spaced⟩

end QueryLexer

import QueryLexer.Proofs.Token.Page

/-!
Nothing is lost in lexing. Tokens keep no text of blanks and operators, but their kinds say how they are
written: put together, the texts of the tokens of a line are that line, with every blank written as a
space. Tokens come in the order of their lines, and none stands on a line that does not exist.
-/

namespace QueryLexer

def Text.blankAsSpace (c : Char) : Char := if Text.isBlank c then ' ' else c

theorem Text.map_eq_self (change : Char → Char) (chars : List Char) (kept : ∀ c ∈ chars, change c = c) :
    chars.map change = chars := by
  conv => rhs; rw [← List.map_id chars]
  exact List.map_congr_left kept

theorem Text.map_blankAsSpace (chars : List Char) (visible : ∀ c ∈ chars, Text.isBlank c = false) :
    chars.map Text.blankAsSpace = chars := by
  apply Text.map_eq_self
  intro c member
  simp [Text.blankAsSpace, visible c member]

theorem Text.isBlank_continuesName (c : Char) (continues : Text.continuesName c = true) :
    Text.isBlank c = false := by
  rcases Bool.or_eq_true_iff.mp continues with starts | digit
  · exact Text.isBlank_startsName c starts
  · exact Text.isBlank_digit c digit

theorem IsName.continues {word : List Char} (named : IsName word) :
    ∀ c ∈ word, Text.continuesName c = true := by
  obtain ⟨first, later, rfl, starts, continues⟩ := named
  intro c member
  rcases List.mem_cons.mp member with rfl | inside
  · simp [Text.continuesName, starts]
  · exact continues c inside

-- One case for each kind: only a blank is written with a blank.
theorem Kind.Written.visible {kind : Kind} {lexeme : String} {chars : List Char}
    (written : kind.Written lexeme chars) (meaningful : kind.isTrivia = false) :
    ∀ c ∈ chars, Text.isBlank c = false := by
  intro c member
  cases kind with
  | space => cases meaningful
  | operator op =>
      rw [written.2] at member
      exact Text.isBlank_operator c (op.symbol_chars.2 c member)
  | keyword spelled =>
      have named := isName_of_ofWord? chars spelled written.2
      exact Text.isBlank_continuesName c (named.continues c member)
  | identifier => exact Text.isBlank_continuesName c (written.2.1.continues c member)
  | integer => exact Text.isBlank_digit c (written.2.2 c member)

theorem text_of_written (kind : Kind) (lexeme : String) (number : UInt32) (chars : List Char)
    (written : kind.Written lexeme chars) :
    (Token.mk kind lexeme number).text.toList = chars.map Text.blankAsSpace := by
  have same : kind.isTrivia = false → chars.map Text.blankAsSpace = chars :=
    fun meaningful => Text.map_blankAsSpace chars (written.visible meaningful)
  cases kind with
  | space =>
      obtain ⟨_, c, rfl, blank⟩ := written
      simp [Token.text, Text.blankAsSpace, blank]
  | operator op =>
      rw [same rfl, written.2]
      rfl
  | keyword spelled =>
      rw [same rfl, Token.text, written.1, String.toList_ofList]
  | identifier =>
      rw [same rfl, Token.text, written.1, String.toList_ofList]
  | integer =>
      rw [same rfl, Token.text, written.1, String.toList_ofList]

theorem line_of_lineTranscript (number : UInt32) (column : Nat) (text : List Char) :
    ∀ token ∈ (lineTranscript number column text).tokens, token.line = number := by
  induction text using line_induction generalizing column with
  | nil => simp [lineTranscript_nil, Transcript.finished]
  | missed c later none => simp [lineTranscript_of_none _ _ _ _ none, Transcript.failed]
  | token kind lexeme chars rest written stops ih =>
      rw [lineTranscript_written _ _ kind lexeme chars rest written stops]
      intro token member
      rcases List.mem_cons.mp member with rfl | later
      · rfl
      · exact ih _ token later

theorem text_of_lineTranscript (number : UInt32) (column : Nat) (text : List Char)
    (whole : (lineTranscript number column text).failure = none) :
    (lineTranscript number column text).tokens.flatMap (·.text.toList) =
      text.map Text.blankAsSpace := by
  induction text using line_induction generalizing column with
  | nil => simp [lineTranscript_nil, Transcript.finished]
  | missed c later none =>
      simp [lineTranscript_of_none _ _ _ _ none, Transcript.failed] at whole
  | token kind lexeme chars rest written stops ih =>
      rw [lineTranscript_written _ _ kind lexeme chars rest written stops] at whole ⊢
      simp only [Transcript.tokens_cons, List.flatMap_cons, List.map_append]
      rw [text_of_written kind lexeme number chars written, ih _ whole]

theorem text_of_pageTranscript (number : Nat) (lines : List (List Char))
    (whole : (pageTranscript number lines).failure = none) :
    (pageTranscript number lines).tokens.flatMap (·.text.toList) =
      lines.flatten.map Text.blankAsSpace := by
  induction lines generalizing number with
  | nil => rfl
  | cons text later ih =>
      rw [pageTranscript, Transcript.failure_append_eq_none_iff] at whole
      rw [pageTranscript, Transcript.tokens_append _ _ whole.1, List.flatMap_append, List.flatten_cons,
        List.map_append, text_of_lineTranscript _ _ _ whole.1, ih _ whole.2]

-- From here on the lines of a page are few enough to be numbered without wrapping.
theorem line_bounds_of_pageTranscript (number : Nat) (lines : List (List Char))
    (few : number + lines.length ≤ UInt32.size) :
    ∀ token ∈ (pageTranscript number lines).tokens,
      number ≤ token.line.toNat ∧ token.line.toNat < number + lines.length := by
  induction lines generalizing number with
  | nil => simp [pageTranscript, Transcript.finished]
  | cons text later ih =>
      intro token member
      have split : token ∈ (lineTranscript (.ofNat number) 1 text).tokens ∨
          token ∈ (pageTranscript (number + 1) later).tokens := by
        simp only [pageTranscript, Transcript.append] at member
        split at member
        case h_1 => exact Or.inl member
        case h_2 => exact List.mem_append.mp member
      rw [List.length_cons] at few ⊢
      rcases split with here | below
      · rw [line_of_lineTranscript _ 1 text token here, UInt32.toNat_ofNat_of_lt' (by omega)]
        omega
      · have bounds := ih (number + 1) (by omega) token below
        omega

theorem ordered_of_pageTranscript (number : Nat) (lines : List (List Char))
    (few : number + lines.length ≤ UInt32.size)
    (whole : (pageTranscript number lines).failure = none) :
    (pageTranscript number lines).tokens.Pairwise (fun first second => first.line ≤ second.line) := by
  induction lines generalizing number with
  | nil => simp [pageTranscript, Transcript.finished]
  | cons text later ih =>
      rw [List.length_cons] at few
      rw [pageTranscript, Transcript.failure_append_eq_none_iff] at whole
      have here := line_of_lineTranscript (.ofNat number) 1 text
      have below := line_bounds_of_pageTranscript (number + 1) later (by omega)
      rw [pageTranscript, Transcript.tokens_append _ _ whole.1, List.pairwise_append]
      refine ⟨?_, ih (number + 1) (by omega) whole.2, ?_⟩
      · apply List.pairwise_of_forall_mem_list
        intro first left second right
        exact UInt32.le_of_eq ((here first left).trans (here second right).symm)
      · intro first left second right
        have lower := (below second right).1
        rw [here first left, UInt32.le_iff_toNat_le, UInt32.toNat_ofNat_of_lt' (by omega)]
        omega

-- Of a line's tokens, a line number keeps all or none.
theorem filter_of_lineTranscript (number : UInt32) (column other : Nat) (text : List Char) :
    (lineTranscript number column text).tokens.filter (·.line.toNat = other) =
      if number.toNat = other then (lineTranscript number column text).tokens else [] := by
  have here := line_of_lineTranscript number column text
  split
  case isTrue same =>
    apply List.filter_eq_self.mpr
    intro token member
    simpa [here token member] using same
  case isFalse different =>
    apply List.filter_eq_nil_iff.mpr
    intro token member
    simpa [here token member] using different

theorem filter_of_pageTranscript (number other : Nat) (lines : List (List Char))
    (few : number + lines.length ≤ UInt32.size) (above : other < number) :
    (pageTranscript number lines).tokens.filter (·.line.toNat = other) = [] := by
  apply List.filter_eq_nil_iff.mpr
  intro token member
  have lower := (line_bounds_of_pageTranscript number lines few token member).1
  simp only [decide_eq_true_eq]
  omega

theorem filter_line_of_pageTranscript (number : Nat) (lines : List (List Char))
    (few : number + lines.length ≤ UInt32.size)
    (whole : (pageTranscript number lines).failure = none) (index : Nat) (text : List Char)
    (line : lines[index]? = some text) :
    (pageTranscript number lines).tokens.filter (·.line.toNat = number + index) =
        (lineTranscript (.ofNat (number + index)) 1 text).tokens ∧
      (lineTranscript (.ofNat (number + index)) 1 text).failure = none := by
  induction lines generalizing number index with
  | nil => simp at line
  | cons first later ih =>
      rw [List.length_cons] at few
      have numbered : (UInt32.ofNat number).toNat = number := UInt32.toNat_ofNat_of_lt' (by omega)
      rw [pageTranscript, Transcript.failure_append_eq_none_iff] at whole
      rw [pageTranscript, Transcript.tokens_append _ _ whole.1, List.filter_append,
        filter_of_lineTranscript, numbered]
      cases index with
      | zero =>
          obtain rfl : first = text := by simpa using line
          rw [filter_of_pageTranscript _ _ _ (by omega) (by omega), if_pos (by omega), List.append_nil]
          exact ⟨rfl, whole.1⟩
      | succ index =>
          have below := ih (number + 1) (by omega) whole.2 index (by simpa using line)
          rw [Nat.add_assoc, Nat.add_comm 1 index] at below
          rwa [if_neg (by omega), List.nil_append]

theorem spelled_of_pageTranscript (number : Nat) (lines : List (List Char))
    (few : number + lines.length ≤ UInt32.size)
    (whole : (pageTranscript number lines).failure = none) (index : Nat) (text : List Char)
    (line : lines[index]? = some text) :
    ((pageTranscript number lines).tokens.filter (·.line.toNat = number + index)).flatMap
        (·.text.toList) = text.map Text.blankAsSpace := by
  rcases filter_line_of_pageTranscript number lines few whole index text line with ⟨tokens, finished⟩
  rw [tokens, text_of_lineTranscript _ _ _ finished]

theorem tokenize_lossless (source : String) (terminator : Terminator) (tokens : List Token)
    (few : (terminator.lines source.toList).length < UInt32.size)
    (lexed : tokenize source ⟨terminator, false⟩ = .ok tokens) :
    terminator.Separates source (terminator.lines source.toList) ∧
      tokens.Pairwise (fun first second => first.line ≤ second.line) ∧
      (∀ index text, (terminator.lines source.toList)[index]? = some text →
        String.join ((tokens.filter (·.line.toNat = index + 1)).map Token.text) =
          String.ofList (text.map Text.blankAsSpace)) ∧
      ∀ token ∈ tokens,
        1 ≤ token.line.toNat ∧ token.line.toNat ≤ (terminator.lines source.toList).length := by
  rw [tokenize_eq, Transcript.result_eq_ok_iff] at lexed
  obtain ⟨whole, rfl⟩ := lexed
  have numbered : 1 + (terminator.lines source.toList).length ≤ UInt32.size := by omega
  refine ⟨terminator.separates_lines source, ordered_of_pageTranscript 1 _ numbered whole, ?_, ?_⟩
  · intro index text line
    rw [← String.toList_inj, String.toList_join, List.flatMap_map, String.toList_ofList,
      ← spelled_of_pageTranscript 1 _ numbered whole index text line]
    simp only [Nat.add_comm index 1]
    rfl
  · intro token member
    have bounds := line_bounds_of_pageTranscript 1 _ numbered token member
    omega

theorem tokenize_lossless_blank_line :
    (Terminator.crlf.lines "x\t==12\r\n\r\nwhere".toList).length < UInt32.size ∧
      tokenize "x\t==12\r\n\r\nwhere" ⟨.crlf, false⟩ =
        .ok [⟨.identifier, "x", 1⟩, ⟨.space, "", 1⟩, ⟨.operator .equalTo, "", 1⟩,
          ⟨.integer, "12", 1⟩, ⟨.keyword .whereWord, "where", 3⟩] ∧
      String.join ([⟨.identifier, "x", 1⟩, ⟨.space, "", 1⟩, ⟨.operator .equalTo, "", 1⟩,
        ⟨.integer, "12", 1⟩].map Token.text) = "x ==12" := by
  have few : (Terminator.crlf.lines "x\t==12\r\n\r\nwhere".toList).length < UInt32.size := by
    decide +kernel
  have lexed : tokenize "x\t==12\r\n\r\nwhere" ⟨.crlf, false⟩ =
      .ok [⟨.identifier, "x", 1⟩, ⟨.space, "", 1⟩, ⟨.operator .equalTo, "", 1⟩,
        ⟨.integer, "12", 1⟩, ⟨.keyword .whereWord, "where", 3⟩] := by
    rw [tokenize_eq, Transcript.result_eq_ok_iff]
    decide +kernel
  refine ⟨few, lexed, ?_⟩
  exact ((tokenize_lossless _ .crlf _ few lexed).2.2.1 0 ['x', '\t', '=', '=', '1', '2']
    (by decide)).trans (by decide)

end QueryLexer

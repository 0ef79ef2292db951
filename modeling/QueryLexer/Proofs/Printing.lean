import Mathlib.Data.List.Chain
import QueryLexer.Proofs.Lossless

/-!
Lexing undoes printing. A list of tokens is printed by writing the text of each token on its line. The
well-formed lists are those that a source can have: lexemes fit their kinds, lines are in order, and no
two neighbours on a line would be read as one token, or as two others. Every result of lexing is well
formed, and every well-formed list is what its printed form is lexed to.
-/

namespace QueryLexer

namespace Kind

def isWord : Kind → Bool
  | keyword _ | identifier => true
  | _ => false

/-- Written without a blank between them, are two tokens of these kinds read differently? -/
def merges (first second : Kind) : Bool :=
  first.isWord && (second.isWord || second == integer) ||
    first == integer && second == integer ||
    [operator .assignment, operator .not, operator .greaterThan, operator .lessThan].contains first &&
      [operator .assignment, operator .equalTo].contains second

end Kind

namespace Token

def WellFormed (token : Token) : Prop :=
  match token.kind with
  | .space => token.lexeme = ""
  | .operator _ => token.lexeme = ""
  | .keyword word => Keyword.ofWord? token.lexeme.toList = some word
  | .identifier => IsName token.lexeme.toList ∧ Keyword.ofWord? token.lexeme.toList = none
  | .integer => token.lexeme.toList ≠ [] ∧ ∀ c ∈ token.lexeme.toList, Text.isDigit c = true

def Precedes (first second : Token) : Prop :=
  first.line ≤ second.line ∧ (first.line = second.line → first.kind.merges second.kind = false)

/-- A list of tokens that a source can have. -/
def ListWellFormed (tokens : List Token) : Prop :=
  (∀ token ∈ tokens, 1 ≤ token.line ∧ token.WellFormed) ∧ tokens.IsChain Precedes

instance : (token : Token) → Decidable token.WellFormed
  | ⟨.space, lexeme, _⟩ => inferInstanceAs (Decidable (lexeme = ""))
  | ⟨.operator _, lexeme, _⟩ => inferInstanceAs (Decidable (lexeme = ""))
  | ⟨.keyword word, lexeme, _⟩ =>
      inferInstanceAs (Decidable (Keyword.ofWord? lexeme.toList = some word))
  | ⟨.identifier, lexeme, _⟩ =>
      inferInstanceAs (Decidable (IsName lexeme.toList ∧ Keyword.ofWord? lexeme.toList = none))
  | ⟨.integer, lexeme, _⟩ => decidable_of_iff
      (lexeme.toList ≠ [] ∧ lexeme.toList.all Text.isDigit = true)
      (and_congr_right fun _ => List.all_eq_true)

instance (first second : Token) : Decidable (first.Precedes second) :=
  inferInstanceAs (Decidable (_ ∧ (_ → _)))

instance (tokens : List Token) : Decidable (ListWellFormed tokens) :=
  inferInstanceAs (Decidable (_ ∧ _))

def printedLine (tokens : List Token) (number : Nat) : List Char :=
  (tokens.filter (·.line.toNat = number)).flatMap (·.text.toList)

def lastLine (tokens : List Token) : Nat := (tokens.map (·.line.toNat)).foldr max 0

/-- The source in which every token is written on its line. -/
def printed (terminator : Terminator) (tokens : List Token) : String :=
  terminator.join ((List.range' 1 (lastLine tokens)).map (printedLine tokens))

end Token

theorem wellFormed_of_written (kind : Kind) (lexeme : String) (number : UInt32) (chars : List Char)
    (written : kind.Written lexeme chars) : (Token.mk kind lexeme number).WellFormed := by
  cases kind with
  | space => exact written.1
  | operator op => exact written.1
  | keyword spelled =>
      obtain ⟨rfl, found⟩ := written
      simpa [Token.WellFormed] using found
  | identifier =>
      obtain ⟨rfl, named, unreserved⟩ := written
      simpa [Token.WellFormed] using And.intro named unreserved
  | integer =>
      obtain ⟨rfl, nonempty, digits⟩ := written
      simpa [Token.WellFormed] using And.intro nonempty digits

theorem Token.WellFormed.written {token : Token} (wellFormed : token.WellFormed) :
    token.kind.Written token.lexeme token.text.toList := by
  cases token with
  | mk kind lexeme line =>
      cases kind with
      | space => exact ⟨wellFormed, ' ', by simp [Token.text], by decide⟩
      | operator op => exact ⟨wellFormed, rfl⟩
      | keyword spelled => exact ⟨String.ofList_toList.symm, wellFormed⟩
      | identifier => exact ⟨String.ofList_toList.symm, wellFormed⟩
      | integer => exact ⟨String.ofList_toList.symm, wellFormed⟩

-- Equality is in none of the classes that begin a name, a number or a blank.
theorem ne_equal (c : Char) (other : c ∉ Text.operatorChars) : (c == '=') = false := by
  have different : c ≠ '=' := by
    rintro rfl
    exact other (by decide)
  simpa using different

theorem classes_of_first (kind : Kind) (lexeme : String) (c : Char) (more : List Char)
    (written : kind.Written lexeme (c :: more)) :
    Text.continuesName c = (kind.isWord || kind == .integer) ∧
      Text.isDigit c = (kind == .integer) ∧
      (c == '=') = [.operator .assignment, .operator .equalTo].contains kind := by
  have word : IsName (c :: more) →
      Text.startsName c = true ∧ Text.isDigit c = false ∧ (c == '=') = false := by
    rintro ⟨first, later, same, starts, _⟩
    obtain rfl := (List.cons.inj same).1
    exact ⟨starts, Text.isDigit_startsName c starts, ne_equal c (Text.not_operator_startsName c starts)⟩
  cases kind with
  | space =>
      obtain ⟨_, blank, same, isBlank⟩ := written
      obtain rfl := (List.cons.inj same).1
      have unequal := ne_equal c (Text.not_operator_blank c isBlank)
      simp [Text.continuesName, Text.startsName_blank c isBlank, Text.isDigit_blank c isBlank, unequal,
        Kind.isWord]
  | operator op =>
      have sign : c ∈ Text.operatorChars := op.symbol_chars.2 c (by simp [← written.2])
      have symbol : op.symbol.toList = c :: more := written.2.symm
      have equal : (c == '=') = [Kind.operator .assignment, .operator .equalTo].contains (.operator op) := by
        revert symbol
        cases op <;> rintro ⟨⟩ <;> decide
      refine ⟨?_, ?_, equal⟩
      · simp [Text.continuesName, Text.startsName_operator c sign, Text.isDigit_operator c sign,
          Kind.isWord]
      · simp [Text.isDigit_operator c sign]
  | keyword spelled =>
      obtain ⟨starts, digit, unequal⟩ := word (isName_of_ofWord? _ spelled written.2)
      simp [Text.continuesName, starts, digit, unequal, Kind.isWord]
  | identifier =>
      obtain ⟨starts, digit, unequal⟩ := word written.2.1
      simp [Text.continuesName, starts, digit, unequal, Kind.isWord]
  | integer =>
      have digit : Text.isDigit c = true := written.2.2 c (by simp)
      have unequal := ne_equal c (Text.not_operator_digit c digit)
      simp [Text.continuesName, digit, unequal, Kind.isWord]

theorem absorbs_first (first second : Kind) (lexeme : String) (c : Char) (more : List Char)
    (written : second.Written lexeme (c :: more)) : first.absorbs c = first.merges second := by
  obtain ⟨continues, digit, equal⟩ := classes_of_first second lexeme c more written
  cases first with
  | keyword spelled => simp [Kind.absorbs, Kind.merges, Kind.isWord, continues]
  | identifier => simp [Kind.absorbs, Kind.merges, Kind.isWord, continues]
  | integer => simp [Kind.absorbs, Kind.merges, Kind.isWord, digit]
  | operator op => cases op <;> simp [Kind.absorbs, Kind.merges, Kind.isWord, Operator.takesEqual, equal]
  | space => simp [Kind.absorbs, Kind.merges, Kind.isWord]

theorem first_of_lineTranscript (number : UInt32) (column : Nat) (text : List Char) (token : Token)
    (first : token ∈ (lineTranscript number column text).tokens.head?) :
    ∃ c more rest, text = c :: more ++ rest ∧ token.kind.Written token.lexeme (c :: more) := by
  rcases List.head?_eq_some_iff.mp first with ⟨later, tokens⟩
  rcases lineTranscript_first _ _ _ _ _ tokens with ⟨chars, rest, rfl, written, _⟩
  rcases List.exists_cons_of_ne_nil written.ne_nil with ⟨c, more, rfl⟩
  exact ⟨c, more, rest, rfl, written⟩

theorem chain_of_lineTranscript (number : UInt32) (column : Nat) (text : List Char) :
    (∀ token ∈ (lineTranscript number column text).tokens, token.WellFormed) ∧
      (lineTranscript number column text).tokens.IsChain Token.Precedes := by
  induction text using line_induction generalizing column with
  | nil => simp [lineTranscript_nil, Transcript.finished]
  | missed c later none => simp [lineTranscript_of_none _ _ _ _ none, Transcript.failed]
  | token kind lexeme chars rest written stops ih =>
      obtain ⟨wellFormed, chain⟩ := ih (column + chars.length)
      rw [lineTranscript_written _ _ kind lexeme chars rest written stops, Transcript.tokens_cons]
      constructor
      · intro token member
        rcases List.mem_cons.mp member with rfl | later
        · exact wellFormed_of_written kind lexeme number chars written
        · exact wellFormed token later
      · rw [List.isChain_cons]
        refine ⟨?_, chain⟩
        intro next first
        have line := line_of_lineTranscript number _ rest next (List.mem_of_mem_head? first)
        obtain ⟨c, more, later, rfl, writtenNext⟩ := first_of_lineTranscript _ _ _ _ first
        refine ⟨UInt32.le_of_eq line.symm, fun _ => ?_⟩
        rw [← absorbs_first kind next.kind next.lexeme c more writtenNext]
        exact stops c rfl

theorem wellFormed_of_pageTranscript (number : Nat) (lines : List (List Char)) :
    ∀ token ∈ (pageTranscript number lines).tokens, token.WellFormed := by
  induction lines generalizing number with
  | nil => simp [pageTranscript, Transcript.finished]
  | cons text later ih =>
      have wellFormed := (chain_of_lineTranscript (.ofNat number) 1 text).1
      simp only [pageTranscript, Transcript.append]
      split
      case h_1 => exact wellFormed
      case h_2 =>
        intro token member
        rcases List.mem_append.mp member with here | below
        · exact wellFormed token here
        · exact ih (number + 1) token below

theorem chain_of_pageTranscript (number : Nat) (lines : List (List Char))
    (few : number + lines.length ≤ UInt32.size) :
    (pageTranscript number lines).tokens.IsChain Token.Precedes := by
  induction lines generalizing number with
  | nil => simp [pageTranscript, Transcript.finished]
  | cons text later ih =>
      rw [List.length_cons] at few
      have chain := (chain_of_lineTranscript (.ofNat number) 1 text).2
      simp only [pageTranscript, Transcript.append]
      split
      case h_1 => exact chain
      case h_2 =>
        refine chain.append (ih (number + 1) (by omega)) ?_
        intro last isLast next isNext
        have upper := line_of_lineTranscript _ 1 text last (List.mem_of_getLast? isLast)
        have lower := (line_bounds_of_pageTranscript (number + 1) later (by omega) next
          (List.mem_of_mem_head? isNext)).1
        have above : last.line.toNat < next.line.toNat := by
          rw [upper, UInt32.toNat_ofNat_of_lt' (by omega)]
          omega
        refine ⟨UInt32.le_iff_toNat_le.mpr (Nat.le_of_lt above), ?_⟩
        intro same
        rw [same] at above
        exact absurd above (Nat.lt_irrefl _)

theorem wellFormed_of_lexed (source : String) (mode : LexMode) (tokens : List Token)
    (lexed : tokenize source mode = .ok tokens) : ∀ token ∈ tokens, token.WellFormed := by
  have page := wellFormed_of_pageTranscript 1 (mode.terminator.lines source.toList)
  rw [tokenize_eq, Transcript.result_eq_ok_iff] at lexed
  obtain ⟨_, rfl⟩ := lexed
  intro token member
  unfold sourceTranscript at member
  split at member
  case isTrue => exact page token (List.mem_filter.mp member).1
  case isFalse => exact page token member

theorem stopsAt_printed (token : Token) (later : List Token)
    (wellFormed : ∀ next ∈ later, next.WellFormed)
    (apart : ∀ next ∈ later.head?, token.kind.merges next.kind = false) :
    token.kind.StopsAt (later.flatMap (·.text.toList)) := by
  cases later with
  | nil => simp [Kind.StopsAt]
  | cons next more =>
      have written := (wellFormed next (by simp)).written
      obtain ⟨c, chars, text⟩ := List.exists_cons_of_ne_nil written.ne_nil
      rw [text] at written
      intro d first
      obtain rfl : c = d := by simpa [text] using first
      rw [absorbs_first token.kind next.kind next.lexeme c chars written]
      exact apart next rfl

theorem lineTranscript_printed (number : UInt32) (column : Nat) (tokens : List Token)
    (wellFormed : ∀ token ∈ tokens, token.WellFormed) (lines : ∀ token ∈ tokens, token.line = number)
    (chain : tokens.IsChain Token.Precedes) :
    lineTranscript number column (tokens.flatMap (·.text.toList)) = ⟨tokens, none⟩ := by
  induction tokens generalizing column with
  | nil => exact lineTranscript_nil number column
  | cons token later ih =>
      rw [List.isChain_cons] at chain
      have here : token.line = number := lines token (by simp)
      have laterWellFormed : ∀ next ∈ later, next.WellFormed :=
        fun next member => wellFormed next (List.mem_cons_of_mem token member)
      have laterLines : ∀ next ∈ later, next.line = number :=
        fun next member => lines next (List.mem_cons_of_mem token member)
      have apart : ∀ next ∈ later.head?, token.kind.merges next.kind = false := by
        intro next first
        have below := laterLines next (List.mem_of_mem_head? first)
        exact (chain.1 next first).2 (here.trans below.symm)
      rw [List.flatMap_cons, lineTranscript_written _ _ token.kind token.lexeme _ _
        (wellFormed token (by simp)).written (stopsAt_printed token later laterWellFormed apart)]
      rw [ih _ laterWellFormed laterLines chain.2, ← here]
      rfl

-- Tokens in the order of their lines can be cut at any line.
theorem filter_lines_split (tokens : List Token) (number : Nat)
    (ordered : tokens.Pairwise fun first second => first.line.toNat ≤ second.line.toNat) :
    tokens = tokens.filter (·.line.toNat < number) ++ tokens.filter (number ≤ ·.line.toNat) := by
  induction tokens with
  | nil => rfl
  | cons token later ih =>
      obtain ⟨above, orderedLater⟩ := List.pairwise_cons.mp ordered
      by_cases early : token.line.toNat < number
      · have late : ¬ number ≤ token.line.toNat := by omega
        rw [List.filter_cons_of_pos (by simpa using early), List.filter_cons_of_neg (by simpa using late),
          List.cons_append, ← ih orderedLater]
      · have least : ∀ next ∈ token :: later, token.line.toNat ≤ next.line.toNat := by
          intro next member
          rcases List.mem_cons.mp member with rfl | inLater
          · exact Nat.le_refl _
          · exact above next inLater
        have none : (token :: later).filter (·.line.toNat < number) = [] := by
          apply List.filter_eq_nil_iff.mpr
          intro next member
          have := least next member
          simp only [decide_eq_true_eq]
          omega
        have all : (token :: later).filter (number ≤ ·.line.toNat) = token :: later := by
          apply List.filter_eq_self.mpr
          intro next member
          have := least next member
          simp only [decide_eq_true_eq]
          omega
        rw [none, all, List.nil_append]

theorem filter_line_first (tokens : List Token) (number : Nat)
    (ordered : tokens.Pairwise fun first second => first.line.toNat ≤ second.line.toNat) :
    tokens.filter (number ≤ ·.line.toNat) =
      tokens.filter (·.line.toNat = number) ++ tokens.filter (number + 1 ≤ ·.line.toNat) := by
  rw [filter_lines_split (tokens.filter (number ≤ ·.line.toNat)) (number + 1) (ordered.filter _),
    List.filter_filter, List.filter_filter]
  congr 1
  · apply List.filter_congr
    intro token _
    rw [← Bool.decide_and, decide_eq_decide]
    omega
  · apply List.filter_congr
    intro token _
    rw [← Bool.decide_and, decide_eq_decide]
    omega

theorem ordered_of_chain (tokens : List Token) (chain : tokens.IsChain Token.Precedes) :
    tokens.Pairwise fun first second => first.line.toNat ≤ second.line.toNat := by
  have : Trans (fun first second : Token => first.line.toNat ≤ second.line.toNat)
      (fun first second : Token => first.line.toNat ≤ second.line.toNat)
      (fun first second : Token => first.line.toNat ≤ second.line.toNat) := ⟨Nat.le_trans⟩
  rw [← List.isChain_iff_pairwise]
  exact chain.imp fun _ _ precedes => UInt32.le_iff_toNat_le.mp precedes.1

theorem chain_of_line (tokens : List Token) (chain : tokens.IsChain Token.Precedes) (number : Nat) :
    (tokens.filter (·.line.toNat = number)).IsChain Token.Precedes := by
  have ordered := ordered_of_chain tokens chain
  rw [filter_lines_split tokens number ordered] at chain
  have from_line := chain.right_of_append
  rw [filter_line_first tokens number ordered] at from_line
  exact from_line.left_of_append

-- The induction is on the number of lines that are still to be printed.
theorem pageTranscript_printed (tokens : List Token) (wellFormed : ∀ token ∈ tokens, token.WellFormed)
    (chain : tokens.IsChain Token.Precedes) (number count : Nat)
    (bound : ∀ token ∈ tokens, token.line.toNat < number + count) :
    pageTranscript number ((List.range' number count).map (Token.printedLine tokens)) =
      ⟨tokens.filter (number ≤ ·.line.toNat), none⟩ := by
  induction count generalizing number with
  | zero =>
      have none : tokens.filter (number ≤ ·.line.toNat) = [] := by
        apply List.filter_eq_nil_iff.mpr
        intro token member
        have := bound token member
        simp only [decide_eq_true_eq]
        omega
      rw [none]
      rfl
  | succ count ih =>
      have line : lineTranscript (.ofNat number) 1 (Token.printedLine tokens number) =
          ⟨tokens.filter (·.line.toNat = number), none⟩ := by
        apply lineTranscript_printed
        · intro token member
          exact wellFormed token (List.mem_filter.mp member).1
        · intro token member
          have same : token.line.toNat = number := by simpa using (List.mem_filter.mp member).2
          rw [← same, UInt32.ofNat_toNat]
        · exact chain_of_line tokens chain number
      have later := ih (number + 1) (by intro token member; have := bound token member; omega)
      rw [List.range'_succ, List.map_cons, pageTranscript, line, later,
        filter_line_first tokens number (ordered_of_chain tokens chain)]
      rfl

theorem line_le_lastLine (tokens : List Token) :
    ∀ token ∈ tokens, token.line.toNat ≤ Token.lastLine tokens := by
  induction tokens with
  | nil => simp
  | cons first later ih =>
      intro token member
      simp only [Token.lastLine, List.map_cons, List.foldr_cons]
      rcases List.mem_cons.mp member with rfl | inLater
      · exact Nat.le_max_left _ _
      · exact Nat.le_trans (ih token inLater) (Nat.le_max_right _ _)

theorem no_feed_printedLine (tokens : List Token) (wellFormed : ∀ token ∈ tokens, token.WellFormed)
    (number : Nat) : '\n' ∉ Token.printedLine tokens number := by
  intro member
  obtain ⟨token, selected, inText⟩ := List.mem_flatMap.mp member
  have written := (wellFormed token (List.mem_filter.mp selected).1).written
  have same := text_of_written token.kind token.lexeme token.line _ written
  rw [same] at inText
  obtain ⟨c, _, feed⟩ := List.mem_map.mp inText
  unfold Text.blankAsSpace at feed
  split at feed
  case isTrue => exact absurd feed (by decide)
  case isFalse visible =>
    rw [feed] at visible
    exact visible (by decide)

-- No lines at all are joined to the empty source, which has one blank line.
theorem pageTranscript_join (terminator : Terminator) (lines : List (List Char))
    (single : ∀ text ∈ lines, '\n' ∉ text) :
    pageTranscript 1 (terminator.lines (terminator.join lines).toList) = pageTranscript 1 lines := by
  cases lines with
  | nil =>
      have blank : terminator.lines (terminator.join []).toList = [[]] := by
        cases terminator <;> rfl
      simp [blank, pageTranscript, lineTranscript_nil]
  | cons text later => rw [terminator.lines_join _ (by simp) single]

theorem wellFormed_of_tokenize (terminator : Terminator) (source : String) (tokens : List Token)
    (few : (terminator.lines source.toList).length < UInt32.size)
    (lexed : tokenize source ⟨terminator, false⟩ = .ok tokens) :
    Token.ListWellFormed tokens ∧
      ∀ token ∈ tokens, token.line.toNat ≤ (terminator.lines source.toList).length := by
  rw [tokenize_eq, sourceTranscript_plain, Transcript.result_eq_ok_iff] at lexed
  obtain ⟨_, rfl⟩ := lexed
  have numbered : 1 + (terminator.lines source.toList).length ≤ UInt32.size := by omega
  have bounds := line_bounds_of_pageTranscript 1 _ numbered
  refine ⟨⟨?_, chain_of_pageTranscript 1 _ numbered⟩, ?_⟩
  · intro token member
    exact ⟨UInt32.le_iff_toNat_le.mpr (bounds token member).1,
      wellFormed_of_pageTranscript 1 _ token member⟩
  · intro token member
    have upper := (bounds token member).2
    omega

theorem transcript_printed (terminator : Terminator) (tokens : List Token)
    (wellFormed : Token.ListWellFormed tokens) :
    sourceTranscript (Token.printed terminator tokens) ⟨terminator, false⟩ = ⟨tokens, none⟩ := by
  obtain ⟨each, chain⟩ := wellFormed
  have fits : ∀ token ∈ tokens, token.WellFormed := fun token member => (each token member).2
  have single : ∀ text ∈ (List.range' 1 (Token.lastLine tokens)).map (Token.printedLine tokens),
      '\n' ∉ text := by
    intro text member
    obtain ⟨number, _, rfl⟩ := List.mem_map.mp member
    exact no_feed_printedLine tokens fits number
  have bound : ∀ token ∈ tokens, token.line.toNat < 1 + Token.lastLine tokens := by
    intro token member
    have upper := line_le_lastLine tokens token member
    omega
  have all : tokens.filter (1 ≤ ·.line.toNat) = tokens := by
    apply List.filter_eq_self.mpr
    intro token member
    exact decide_eq_true (UInt32.le_iff_toNat_le.mp (each token member).1)
  rw [sourceTranscript_plain, Token.printed, pageTranscript_join terminator _ single,
    pageTranscript_printed tokens fits chain 1 _ bound, all]

theorem tokenize_printed (terminator : Terminator) :
    (∀ source tokens, (terminator.lines source.toList).length < UInt32.size →
      tokenize source ⟨terminator, false⟩ = .ok tokens → Token.ListWellFormed tokens ∧
        ∀ token ∈ tokens, token.line.toNat ≤ (terminator.lines source.toList).length) ∧
      ∀ tokens, Token.ListWellFormed tokens →
        tokenize (Token.printed terminator tokens) ⟨terminator, false⟩ = .ok tokens := by
  constructor
  · exact wellFormed_of_tokenize terminator
  · intro tokens wellFormed
    rw [tokenize_eq, transcript_printed terminator tokens wellFormed]
    rfl

theorem tokenize_printed_neighbours :
    Token.ListWellFormed [⟨.integer, "7", 1⟩, ⟨.identifier, "a7", 1⟩,
        ⟨.operator .greaterThan, "", 2⟩, ⟨.operator .greaterOrEqual, "", 2⟩,
        ⟨.operator .assignment, "", 2⟩] ∧
      tokenize "7a7\r\n>>==" ⟨.crlf, false⟩ =
        .ok [⟨.integer, "7", 1⟩, ⟨.identifier, "a7", 1⟩, ⟨.operator .greaterThan, "", 2⟩,
          ⟨.operator .greaterOrEqual, "", 2⟩, ⟨.operator .assignment, "", 2⟩] := by
  have wellFormed : Token.ListWellFormed [⟨.integer, "7", 1⟩, ⟨.identifier, "a7", 1⟩,
      ⟨.operator .greaterThan, "", 2⟩, ⟨.operator .greaterOrEqual, "", 2⟩,
      ⟨.operator .assignment, "", 2⟩] := by
    decide +kernel
  have source : Token.printed .crlf [⟨.integer, "7", 1⟩, ⟨.identifier, "a7", 1⟩,
      ⟨.operator .greaterThan, "", 2⟩, ⟨.operator .greaterOrEqual, "", 2⟩,
      ⟨.operator .assignment, "", 2⟩] = "7a7\r\n>>==" := by
    decide +kernel
  have lexed := (tokenize_printed .crlf).2 _ wellFormed
  rw [source] at lexed
  exact ⟨wellFormed, lexed⟩

end QueryLexer

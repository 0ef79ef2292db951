import QueryLexer.Proofs.ListMachine
import QueryLexer.Proofs.Printing

/-!
Words: keywords and names. A keyword is tried first, on the letters alone, and given back if a name goes on
behind it; then a name is tried from the same place. That comes to the same as taking the longest run that
a name can be and looking it up once. So no name spells a keyword.

Nor is a keyword cut out of a longer name. A stream never stops in the middle of a name: a fresh one does
not, and taking a token from a place that no name goes across leads to another such place.
-/

namespace QueryLexer

theorem tokenAt?_of_startsName (c : Char) (later : List Char) (starts : Text.startsName c = true) :
    tokenAt? (c :: later) = some (.ofRun (wordKind ((c :: later).takeWhile Text.continuesName))
      ((c :: later).takeWhile Text.continuesName)) := by
  have continues : Text.continuesName c = true := by simp [Text.continuesName, starts]
  simp [tokenAt?, Text.isBlank_startsName c starts, starts, continues]

theorem inTurn_of_startsName (cursor : Cursor) (c : Char) (next : cursor.peek? = some c)
    (starts : Text.startsName c = true) :
    ∃ position run, cursor.nextPosition? = some position ∧
      run = ((cursor.lines[position.line]?.getD []).drop position.column).takeWhile Text.continuesName ∧
      Classifier.inTurn Classifier.chain cursor = (some (.ofRun (wordKind run) run),
        { cursor with line := position.line, column := position.column + run.length }) := by
  rw [Cursor.peek?_eq] at next
  obtain ⟨later, text⟩ := List.head?_eq_some_iff.mp next
  have ahead : cursor.textAhead =
      (cursor.lines[cursor.settled.line]?.getD []).drop cursor.settled.column := by
    rw [Cursor.textAhead, Cursor.restOfLine, Cursor.lineText, Cursor.lines_settled]
  refine ⟨⟨cursor.settled.line, cursor.settled.column⟩, (c :: later).takeWhile Text.continuesName,
    ?_, ?_, ?_⟩
  · rw [Cursor.nextPosition?_eq, if_neg (by simp [text])]
  · rw [← ahead, text]
  · rw [Classifier.inTurn_chain, text, tokenAt?_of_startsName c later starts]
    simp [Match.ofRun, Cursor.moved]

theorem Keyword.unspelled_of_ofWord?_none (chars : List Char) (unreserved : Keyword.ofWord? chars = none)
    (word : Keyword) : Text.foldCase chars ≠ Text.foldCase word.symbol.toList := by
  have listed : word ∈ Keyword.all := by cases word <;> decide
  intro same
  have missed := List.find?_eq_none.mp unreserved word listed
  simp [Keyword.spelledBy, same] at missed

namespace Text

/-- Does a name that begins in `before` go on in `behind`? -/
def NameAcross (before behind : List Char) : Prop :=
  ∃ name next, name <:+ before ∧ IsName name ∧ next ∈ behind.head? ∧ continuesName next = true

theorem not_nameAcross_start (behind : List Char) : ¬ NameAcross [] behind := by
  rintro ⟨name, _, inside, ⟨c, later, rfl, _⟩, _⟩
  simp at inside

end Text

theorem IsName.of_append {first last : List Char} (named : IsName (first ++ last)) (some : first ≠ []) :
    IsName first := by
  obtain ⟨c, later, rfl⟩ := List.exists_cons_of_ne_nil some
  obtain ⟨d, more, same, starts, continues⟩ := named
  obtain ⟨rfl, rfl⟩ := List.cons.inj same
  refine ⟨c, later, rfl, starts, ?_⟩
  intro e member
  exact continues e (List.mem_append_left last member)

-- Blanks, operators and numbers: a name begins nowhere in them.
theorem Kind.Written.no_name_begins {kind : Kind} {lexeme : String} {chars : List Char}
    (written : kind.Written lexeme chars) (other : kind.isWord = false) :
    ∀ c ∈ chars, Text.startsName c = false := by
  intro c member
  cases kind with
  | space =>
      obtain ⟨_, blank, rfl, isBlank⟩ := written
      obtain rfl := List.mem_singleton.mp member
      exact Text.startsName_blank c isBlank
  | operator op =>
      rw [written.2] at member
      exact Text.startsName_operator c (op.symbol_chars.2 c member)
  | integer => exact Text.startsName_digit c (written.2.2 c member)
  | keyword spelled => simp [Kind.isWord] at other
  | identifier => simp [Kind.isWord] at other

theorem Kind.absorbs_of_isWord (kind : Kind) (word : kind.isWord = true) :
    kind.absorbs = Text.continuesName := by
  cases kind with
  | keyword spelled => rfl
  | identifier => rfl
  | space => simp [Kind.isWord] at word
  | operator op => simp [Kind.isWord] at word
  | integer => simp [Kind.isWord] at word

-- A name across the end of a token would begin in it, or go across its start already.
theorem not_nameAcross_behind (kind : Kind) (lexeme : String) (before chars rest : List Char)
    (written : kind.Written lexeme chars) (stops : kind.StopsAt rest)
    (outside : ¬ Text.NameAcross before (chars ++ rest)) : ¬ Text.NameAcross (before ++ chars) rest := by
  rintro ⟨name, next, inside, named, first, continues⟩
  cases word : kind.isWord with
  | true =>
      have ended := stops next first
      rw [Kind.absorbs_of_isWord kind word] at ended
      simp [ended] at continues
  | false =>
      have begins := written.no_name_begins word
      rcases List.suffix_or_suffix_of_suffix inside (List.suffix_append before chars) with short | long
      · obtain ⟨c, later, rfl, starts, _⟩ := named
        simp [begins c (short.subset List.mem_cons_self)] at starts
      · obtain ⟨start, rfl⟩ := long
        obtain ⟨c, later, rfl⟩ := List.exists_cons_of_ne_nil written.ne_nil
        have nonempty : start ≠ [] := by
          rintro rfl
          obtain ⟨d, more, same, starts, _⟩ := named
          obtain ⟨rfl, _⟩ := List.cons.inj same
          simp [begins c List.mem_cons_self] at starts
        have earlier : start <:+ before := by
          obtain ⟨skipped, whole⟩ := inside
          rw [← List.append_assoc] at whole
          exact ⟨skipped, List.append_cancel_right whole⟩
        exact outside ⟨start, c, earlier, named.of_append nonempty, rfl, named.continues c (by simp)⟩

theorem whole_name (before chars rest : List Char) (nonempty : chars ≠ [])
    (outside : ¬ Text.NameAcross before (chars ++ rest))
    (stops : ∀ next ∈ rest.head?, Text.continuesName next = false) (first last : List Char)
    (earlier : first <:+ before) (later : last <+: rest) (named : IsName (first ++ chars ++ last)) :
    first = [] ∧ last = [] := by
  constructor
  · by_contra some
    obtain ⟨c, more, rfl⟩ := List.exists_cons_of_ne_nil nonempty
    rw [List.append_assoc] at named
    exact outside ⟨first, c, earlier, named.of_append some, rfl, named.continues c (by simp)⟩
  · cases last with
    | nil => rfl
    | cons next more =>
        obtain ⟨tail, rfl⟩ := later
        have continues := named.continues next (by simp)
        simp [stops next rfl] at continues

namespace Cursor

def OutsideNames (cursor : Cursor) : Prop :=
  ¬ Text.NameAcross (cursor.lineText.take cursor.column) cursor.restOfLine

theorem outsideNames_lineStart (cursor : Cursor) (start : cursor.column = 0) : cursor.OutsideNames := by
  rw [OutsideNames, start]
  exact Text.not_nameAcross_start _

theorem firstUnread_here_or_start (lines : List (List Char)) (line column : Nat) (position : Position)
    (found : firstUnread lines line column = some position) :
    position = ⟨line, column⟩ ∨ position.column = 0 := by
  induction lines generalizing line column with
  | nil => simp [firstUnread] at found
  | cons text later ih =>
      rw [firstUnread] at found
      split at found
      case isTrue => exact Or.inl (Option.some.inj found).symm
      case isFalse =>
        rcases ih (line + 1) 0 found with rfl | start
        · exact Or.inr rfl
        · exact Or.inr start

theorem outsideNames_settled (cursor : Cursor) (outside : cursor.OutsideNames) :
    cursor.settled.OutsideNames := by
  cases found : cursor.nextPosition? with
  | none =>
      simp only [settled, found]
      exact outside
  | some position =>
      rcases firstUnread_here_or_start _ _ _ _ found with rfl | start
      · simp only [settled, found]
        exact outside
      · apply outsideNames_lineStart
        simp only [settled, found]
        exact start

/-- A token of this kind, with this lexeme, is written right before the cursor as `chars`, between `before`
and `rest` on its line; it is not longer, and no name goes across its start. -/
structure Behind (cursor : Cursor) (kind : Kind) (lexeme : String) (before chars rest : List Char) :
    Prop where
  line : cursor.lineText = before ++ (chars ++ rest)
  column : cursor.column = (before ++ chars).length
  written : kind.Written lexeme chars
  stops : kind.StopsAt rest
  outside : ¬ Text.NameAcross before (chars ++ rest)

theorem Behind.outsideNames {cursor : Cursor} {kind : Kind} {lexeme : String}
    {before chars rest : List Char} (behind : cursor.Behind kind lexeme before chars rest) :
    cursor.OutsideNames := by
  have split : cursor.lineText = before ++ chars ++ rest := by rw [behind.line, List.append_assoc]
  rw [OutsideNames, restOfLine, split, behind.column, List.take_left, List.drop_left]
  exact not_nameAcross_behind kind lexeme before chars rest behind.written behind.stops behind.outside

end Cursor

namespace Classifier

theorem behind_of_inTurn (cursor after : Cursor) (found : Match) (outside : cursor.OutsideNames)
    (first : inTurn chain cursor = (some found, after)) :
    after.line = cursor.settled.line ∧
      ∃ before chars rest, after.Behind found.kind found.lexeme before chars rest := by
  obtain ⟨recognized, rfl⟩ := (inTurn_chain_eq_some_iff cursor after found).mp first
  obtain ⟨chars, rest, text, written, taken, stops⟩ := written_of_tokenAt? _ _ recognized
  have settled := cursor.outsideNames_settled outside
  have ahead : cursor.settled.lineText.drop cursor.settled.column = chars ++ rest := text
  have within : cursor.settled.column ≤ cursor.settled.lineText.length := by
    apply Nat.le_of_lt
    apply Nat.lt_of_not_le
    intro beyond
    rw [List.drop_eq_nil_of_le beyond] at ahead
    exact written.ne_nil (List.append_eq_nil_iff.mp ahead.symm).1
  refine ⟨rfl, cursor.settled.lineText.take cursor.settled.column, chars, rest, ?_, ?_, written, stops, ?_⟩
  · rw [← ahead, List.take_append_drop]
    rfl
  · rw [List.length_append, List.length_take, Nat.min_eq_left within, ← taken]
    rfl
  · rw [← ahead]
    exact settled

theorem outsideNames_of_scan (order : List Classifier) (usual : order = chain) (skipTrivia : Bool)
    (cursor : Cursor) (outside : cursor.OutsideNames) :
    (scan order skipTrivia cursor).2.OutsideNames := by
  fun_induction scan order skipTrivia cursor with
  | case1 => exact outside
  | case2 cursor location _ after missed =>
      rw [cursor_of_inTurn_none order cursor after missed]
      exact outside
  | case3 cursor location _ found after first _ ih =>
      subst usual
      obtain ⟨_, _, _, _, behind⟩ := behind_of_inTurn cursor after found outside first
      exact ih behind.outsideNames
  | case4 cursor location _ found after first _ =>
      subst usual
      obtain ⟨_, _, _, _, behind⟩ := behind_of_inTurn cursor after found outside first
      exact behind.outsideNames

theorem behind_of_scan (order : List Classifier) (usual : order = chain) (skipTrivia : Bool)
    (cursor after : Cursor) (token : Token) (outside : cursor.OutsideNames)
    (scanned : scan order skipTrivia cursor = (.ok (some token), after)) :
    token.line = after.lineNumber ∧
      ∃ before chars rest, after.Behind token.kind token.lexeme before chars rest := by
  fun_induction scan order skipTrivia cursor with
  | case1 => simp at scanned
  | case2 => simp at scanned
  | case3 cursor location _ found reached first _ ih =>
      subst usual
      obtain ⟨_, _, _, _, behind⟩ := behind_of_inTurn cursor reached found outside first
      exact ih behind.outsideNames scanned
  | case4 cursor location place found reached first _ =>
      subst usual
      obtain ⟨line, before, chars, rest, behind⟩ :=
        behind_of_inTurn cursor reached found outside first
      obtain ⟨rfl, rfl⟩ : ⟨found.kind, found.lexeme, location.line⟩ = token ∧ reached = after := by
        simpa using scanned
      rw [Cursor.nextLocation?_eq] at place
      refine ⟨?_, before, chars, rest, behind⟩
      split at place
      case isTrue => simp at place
      case isFalse =>
        obtain rfl := Option.some.inj place
        rw [Cursor.lineNumber, Cursor.lineNumber, line]

end Classifier

namespace TokenStream

/-- Neither the stream nor the place to which it can be undone is inside a name. -/
structure BetweenNames (stream : TokenStream) : Prop where
  usual : stream.order = Classifier.chain
  here : stream.cursor.OutsideNames
  undo : ∀ saved, stream.pushback = some saved → (stream.cursor.restore saved.start).OutsideNames

theorem betweenNames_ofSource (source : String) (mode : LexMode) :
    (ofSource source mode).BetweenNames where
  usual := rfl
  here := Cursor.outsideNames_lineStart _ rfl
  undo := by
    intro saved found
    cases found

theorem get_betweenNames (stream : TokenStream) (between : stream.BetweenNames) :
    stream.get.2.BetweenNames where
  usual := between.usual
  here := by
    rcases cursor_of_get stream with kept | reached
    · rw [kept]
      exact between.here
    · rw [reached]
      exact Classifier.outsideNames_of_scan _ between.usual _ _ between.here
  undo := by
    intro saved found
    obtain rfl : ⟨stream.cursor.snapshot,
        stream.get.2.cursor.consumedSince stream.cursor.snapshot⟩ = saved := Option.some.inj found
    rw [Cursor.restore_snapshot _ _ (lines_of_get stream)]
    exact between.here

theorem unget_betweenNames (stream after : TokenStream) (between : stream.BetweenNames)
    (undone : stream.unget = .ok after) : after.BetweenNames := by
  cases recorded : stream.pushback with
  | none => simp [unget, recorded] at undone
  | some saved =>
      simp only [unget, recorded, Except.ok.injEq] at undone
      subst undone
      constructor
      · exact between.usual
      · exact between.undo saved recorded
      · intro other found
        cases found

theorem run_betweenNames (source : String) (mode : LexMode) (calls : List Call) :
    (runCalls call (ofSource source mode) calls).2.BetweenNames := by
  apply run_keeps get_betweenNames unget_betweenNames
  · intro stream between
    exact ⟨between.usual, between.here, between.undo⟩
  · exact betweenNames_ofSource source mode

theorem behind_of_get (stream : TokenStream) (between : stream.BetweenNames) (token : Token)
    (taken : stream.get.1 = .ok (some token)) :
    token.line = stream.get.2.cursor.lineNumber ∧
      ∃ before chars rest, stream.get.2.cursor.Behind token.kind token.lexeme before chars rest := by
  have scanned := scan_of_get stream (some token) taken
  exact Classifier.behind_of_scan _ between.usual _ _ _ _ between.here scanned

end TokenStream

/-- The token ends at the cursor, and it is a name that is part of no other: it cannot be made longer
on either side. -/
def Token.IsWholeNameBefore (token : Token) (cursor : Cursor) : Prop :=
  token.line = cursor.lineNumber ∧
    ∃ before rest, cursor.lineText = before ++ token.lexeme.toList ++ rest ∧
      cursor.column = (before ++ token.lexeme.toList).length ∧ IsName token.lexeme.toList ∧
      ∀ first last, first <:+ before → last <+: rest → IsName (first ++ token.lexeme.toList ++ last) →
        first = [] ∧ last = []

theorem isWholeNameBefore_of_behind (token : Token) (cursor : Cursor) (before chars rest : List Char)
    (keyword : token.kind.isKeyword = true) (line : token.line = cursor.lineNumber)
    (behind : cursor.Behind token.kind token.lexeme before chars rest) :
    token.IsWholeNameBefore cursor := by
  cases kind : token.kind with
  | keyword word =>
      obtain ⟨text, column, written, stops, outside⟩ := behind
      rw [kind] at written stops
      obtain ⟨lexeme, spelled⟩ := written
      have same : token.lexeme.toList = chars := by rw [lexeme, String.toList_ofList]
      rw [← same] at text column spelled outside
      have named := isName_of_ofWord? _ word spelled
      refine ⟨line, before, rest, ?_, column, named, ?_⟩
      · rw [text, List.append_assoc]
      · have nonempty : token.lexeme.toList ≠ [] := (Keyword.letters_of_ofWord? _ word spelled).1
        exact whole_name before _ rest nonempty outside stops
  | identifier => simp [kind, Kind.isKeyword] at keyword
  | integer => simp [kind, Kind.isKeyword] at keyword
  | operator op => simp [kind, Kind.isKeyword] at keyword
  | space => simp [kind, Kind.isKeyword] at keyword

theorem word_is_longest_run :
    (∀ (cursor : Cursor) (c : Char), cursor.peek? = some c → Text.startsName c = true →
      ∃ position run, cursor.nextPosition? = some position ∧
        run = ((cursor.lines[position.line]?.getD []).drop position.column).takeWhile
          Text.continuesName ∧
        let found : Match := ⟨wordKind run, String.ofList run, run.length⟩
        let behind : Cursor :=
          { cursor with line := position.line, column := position.column + run.length }
        Classifier.inTurn Classifier.chain cursor = (some found, behind)) ∧
    ∀ (source : String) (mode : LexMode) (calls : List Call) (token : Token),
      let stream := (runCalls TokenStream.call (TokenStream.ofSource source mode) calls).2
      stream.get.1 = .ok (some token) →
        (token.kind = .identifier →
          ∀ word : Keyword, Text.foldCase token.lexeme.toList ≠ Text.foldCase word.symbol.toList) ∧
        (token.kind.isKeyword = true → token.IsWholeNameBefore stream.get.2.cursor) := by
  constructor
  · intro cursor c next starts
    exact inTurn_of_startsName cursor c next starts
  · intro source mode calls token stream taken
    have between := TokenStream.run_betweenNames source mode calls
    obtain ⟨line, before, chars, rest, behind⟩ := stream.behind_of_get between token taken
    constructor
    · intro identifier
      have written := behind.written
      rw [identifier] at written
      obtain ⟨lexeme, _, unreserved⟩ := written
      rw [lexeme, String.toList_ofList]
      exact Keyword.unspelled_of_ofWord?_none chars unreserved
    · intro keyword
      exact isWholeNameBefore_of_behind token _ before chars rest keyword line behind

-- A word behind a blank line, with a digit behind its letters; and a keyword right behind a digit.
theorem word_is_longest_run_around_digits :
    Classifier.inTurn Classifier.chain ⟨[['x'], [], ['W', 'h', 'e', 'r', 'e', '1', '=']], 0, 1⟩ =
        (some ⟨.identifier, "Where1", 6⟩, ⟨[['x'], [], ['W', 'h', 'e', 'r', 'e', '1', '=']], 2, 6⟩) ∧
      (Token.mk (.keyword .whereWord) "where" 1).IsWholeNameBefore
        ⟨[['7', 'w', 'h', 'e', 'r', 'e', ' ', 'a']], 0, 6⟩ := by
  constructor
  · obtain ⟨position, run, found, taken, matched⟩ := word_is_longest_run.1
      ⟨[['x'], [], ['W', 'h', 'e', 'r', 'e', '1', '=']], 0, 1⟩ 'W' (by decide) (by decide +kernel)
    obtain rfl : ⟨2, 0⟩ = position := Option.some.inj found
    obtain rfl : run = ['W', 'h', 'e', 'r', 'e', '1'] := taken.trans (by decide +kernel)
    exact matched
  · have reached : (runCalls TokenStream.call (TokenStream.ofSource "7where a" ⟨.lf, false⟩)
        [.get]).2.get.2.cursor = ⟨[['7', 'w', 'h', 'e', 'r', 'e', ' ', 'a']], 0, 6⟩ := by
      decide +kernel
    rw [← reached]
    exact (word_is_longest_run.2 "7where a" ⟨.lf, false⟩ [.get] ⟨.keyword .whereWord, "where", 1⟩
      (by decide +kernel)).2 rfl

end QueryLexer

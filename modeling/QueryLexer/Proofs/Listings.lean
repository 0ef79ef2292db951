import QueryLexer.Proofs.Agreement
import QueryLexer.Proofs.Operators
import QueryLexer.Proofs.Printing
import QueryLexer.Proofs.Text.Numerals

/-!
Listings can be read back. A listing gives the line, the kind and the lexeme of every token, and all three
are made of characters that can stand in a name: none is a blank, a line end, a quote or a character that
is escaped. So a listing can be cut at its separators. Rows are cut at line ends and then at spaces, an
array of records at its quotes; the pieces give the tokens, which is why no two results of lexing have the
same listing. And a listing is written whole: what makes a file fail is known before the first row.
-/

namespace QueryLexer

section Cuts

variable (mark : Char)

theorem splitOn_append (first second : List Char) (absent : mark ∉ first) :
    (first ++ second).splitOn mark = (second.splitOn mark).modifyHead (first ++ ·) := by
  induction first with
  | nil => exact List.modifyHead_id.symm ▸ rfl
  | cons c rest ih =>
      have other : (c == mark) = false := by simpa using (List.ne_of_not_mem_cons absent).symm
      rw [List.cons_append, List.splitOn_cons_eq_if_modifyHead, other,
        ih (List.not_mem_of_not_mem_cons absent)]
      simp [List.modifyHead_modifyHead, Function.comp_def]

theorem splitOn_flatMap (pieces : List (List Char)) (rest : List Char)
    (absent : ∀ piece ∈ pieces, mark ∉ piece) :
    (pieces.flatMap (· ++ [mark]) ++ rest).splitOn mark = pieces ++ rest.splitOn mark := by
  induction pieces with
  | nil => rfl
  | cons piece later ih =>
      have cut := List.splitOn_append_cons_self_of_not_mem (absent piece List.mem_cons_self)
        (later.flatMap (· ++ [mark]) ++ rest)
      rw [ih fun other member => absent other (List.mem_cons_of_mem piece member)] at cut
      simpa using cut

theorem tail_splitOn_append (first second : List Char) (absent : mark ∉ first) :
    ((first ++ second).splitOn mark).tail = (second.splitOn mark).tail := by
  rw [splitOn_append mark first second absent, List.tail_modifyHead]

end Cuts

namespace Text

/-- The text is one that a listing shows as it is, and nothing in it separates fields. -/
def IsField (chars : List Char) : Prop := ∀ c ∈ chars, continuesName c = true

theorem le_toNat_of_inRanges (least : Nat) (ranges : List (Nat × Nat))
    (above : ∀ range ∈ ranges, least ≤ range.1) (c : Char) (inside : inRanges ranges c = true) :
    least ≤ c.toNat := by
  rw [inRanges, List.any_eq_true] at inside
  rcases inside with ⟨range, member, between⟩
  rw [Bool.and_eq_true, decide_eq_true_eq, decide_eq_true_eq] at between
  exact le_trans (above range member) between.1

theorem le_toNat_of_isLetter (c : Char) (letter : isLetter c = true) : 65 ≤ c.toNat := by
  simp only [isLetter, Bool.or_eq_true] at letter
  rcases letter with ((first | second) | third) | last
  · exact le_toNat_of_inRanges 65 lettersBelow1000 (by decide +kernel) c first
  · exact le_toNat_of_inRanges 65 lettersBelow10000 (by decide +kernel) c second
  · exact le_toNat_of_inRanges 65 lettersBelow12000 (by decide +kernel) c third
  · exact le_toNat_of_inRanges 65 lettersFrom12000 (by decide +kernel) c last

theorem le_toNat_of_continuesName (c : Char) (continues : continuesName c = true) : 48 ≤ c.toNat := by
  simp only [continuesName, startsName, isDigit, Bool.or_eq_true, Bool.and_eq_true, beq_iff_eq,
    decide_eq_true_eq, Char.le_def, UInt32.le_iff_toNat_le] at continues
  rcases continues with (rfl | letter) | digit
  · decide
  · exact le_trans (by decide) (le_toNat_of_isLetter c letter)
  · exact digit.1

theorem jsonChar_of_continuesName (c : Char) (continues : continuesName c = true) : jsonChar c = [c] := by
  have least := le_toNat_of_continuesName c continues
  have other : ∀ mark : Char, mark.toNat < 48 → c ≠ mark := by
    rintro mark small rfl
    omega
  have slash : c ≠ '\\' := by
    rintro rfl
    exact absurd continues (by decide +kernel)
  rw [jsonChar, if_neg (other '"' (by decide)), if_neg slash, if_neg (other '\x08' (by decide)),
    if_neg (other '\t' (by decide)), if_neg (other '\n' (by decide)), if_neg (other '\x0c' (by decide)),
    if_neg (other '\r' (by decide)), if_neg (by omega)]

theorem IsField.not_mem {chars : List Char} (field : IsField chars) (mark : Char)
    (small : mark.toNat < 48) : mark ∉ chars := by
  intro member
  have least := le_toNat_of_continuesName mark (field mark member)
  omega

theorem IsField.toList_jsonString {text : String} (field : IsField text.toList) :
    (jsonString text).toList = '"' :: (text.toList ++ ['"']) := by
  have plain : text.toList.flatMap jsonChar = text.toList := by
    have same : text.toList.flatMap jsonChar = text.toList.flatMap fun c => [c] :=
      List.flatMap_congr fun c member => jsonChar_of_continuesName c (field c member)
    rw [same, List.flatMap_singleton']
  rw [jsonString, plain]
  simp

end Text

theorem Kind.mem_all (kind : Kind) : kind ∈ Kind.all := by
  cases kind with
  | keyword word => cases word <;> decide
  | operator op => simp [Kind.all, op.mem_all]
  | integer => decide
  | identifier => decide
  | space => decide

theorem Kind.isField_name (kind : Kind) : Text.IsField kind.name.toList := by
  have table : ∀ kind ∈ Kind.all, kind.name.toList.all Text.continuesName = true := by decide +kernel
  exact List.all_eq_true.mp (table kind kind.mem_all)

theorem Kind.ofName?_name (kind : Kind) : Kind.ofName? kind.name = some kind := by
  have table : ∀ kind ∈ Kind.all, Kind.ofName? kind.name = some kind := by decide +kernel
  exact table kind kind.mem_all

theorem isField_toDigits (number : Nat) : Text.IsField (Nat.toDigits 10 number) := by
  intro c member
  simp [Text.continuesName, Text.isDigit_of_mem_toDigits number c member]

namespace Token

theorem WellFormed.isField_lexeme {token : Token} (wellFormed : token.WellFormed) :
    Text.IsField token.lexeme.toList := by
  cases token with
  | mk kind lexeme line =>
      cases kind with
      | space =>
          obtain rfl : lexeme = "" := wellFormed
          simp [Text.IsField]
      | operator op =>
          obtain rfl : lexeme = "" := wellFormed
          simp [Text.IsField]
      | keyword word => exact (isName_of_ofWord? _ word wellFormed).continues
      | identifier => exact wellFormed.1.continues
      | integer =>
          intro c member
          simp [Text.continuesName, wellFormed.2 c member]

theorem toList_line (token : Token) : (toString token.line).toList = Nat.toDigits 10 token.line.toNat :=
  Nat.toList_repr

def ofFields? (line name lexeme : List Char) : Option Token :=
  (Kind.ofName? (String.ofList name)).map fun kind =>
    ⟨kind, String.ofList lexeme, .ofNat (Text.decimalValue line)⟩

theorem ofFields?_fields (token : Token) :
    ofFields? (Nat.toDigits 10 token.line.toNat) token.kind.name.toList token.lexeme.toList =
      some token := by
  rw [ofFields?, Text.decimalValue_toDigits, UInt32.ofNat_toNat, String.ofList_toList,
    String.ofList_toList, Kind.ofName?_name]
  rfl

def fields (token : Token) : List (List Char) :=
  Nat.toDigits 10 token.line.toNat :: token.kind.name.toList ::
    (if token.lexeme = "" then [] else [token.lexeme.toList])

theorem toList_row (token : Token) : token.row.toList = List.intercalate [' '] token.fields := by
  rw [row, fields]
  split <;> simp [toList_line, List.intercalate, List.intersperse]

theorem WellFormed.isField_of_mem_fields {token : Token} (wellFormed : token.WellFormed)
    (field : List Char) (member : field ∈ token.fields) : Text.IsField field := by
  rw [fields] at member
  rcases List.mem_cons.mp member with rfl | later
  · exact isField_toDigits token.line.toNat
  · rcases List.mem_cons.mp later with rfl | last
    · exact token.kind.isField_name
    · split at last
      · cases last
      · rw [List.mem_singleton.mp last]
        exact wellFormed.isField_lexeme

theorem WellFormed.newline_not_mem_row {token : Token} (wellFormed : token.WellFormed) :
    '\n' ∉ token.row.toList := by
  have line := (isField_toDigits token.line.toNat).not_mem '\n' (by decide)
  have name := token.kind.isField_name.not_mem '\n' (by decide)
  have lexeme := wellFormed.isField_lexeme.not_mem '\n' (by decide)
  rw [row]
  split <;> simp [toList_line, line, name, lexeme]

def ofRow? (row : List Char) : Option Token :=
  match row.splitOn ' ' with
  | [line, name] => ofFields? line name []
  | [line, name, lexeme] => ofFields? line name lexeme
  | _ => none

theorem WellFormed.ofRow?_row {token : Token} (wellFormed : token.WellFormed) :
    ofRow? token.row.toList = some token := by
  have cut : token.row.toList.splitOn ' ' = token.fields := by
    rw [toList_row]
    apply List.splitOn_intercalate
    · intro field member
      exact (wellFormed.isField_of_mem_fields field member).not_mem ' ' (by decide)
    · exact List.cons_ne_nil _ _
  have read := ofFields?_fields token
  rw [ofRow?, cut, fields]
  by_cases empty : token.lexeme = ""
  · rw [if_pos empty]
    rwa [empty] at read
  · rw [if_neg empty]
    exact read

end Token

namespace ListingFormat

-- The rows are written one by one, so the induction has what is written before them generalized.
theorem toList_write_text (tokens : List Token) (out : String) :
    (text.write tokens out).toList = out.toList ++ (tokens.map (·.row.toList)).flatMap (· ++ ['\n']) := by
  rw [write]
  induction tokens generalizing out with
  | nil => simp
  | cons token later ih =>
      rw [List.foldl_cons, ih]
      simp

theorem write_eq_append (format : ListingFormat) (tokens : List Token) (out : String) :
    format.write tokens out = out ++ format.write tokens "" := by
  cases format with
  | json => simp [write, String.append_assoc]
  | text =>
      apply String.toList_inj.mp
      rw [String.toList_append, toList_write_text, toList_write_text]
      simp

theorem splitOn_write_text (tokens : List Token)
    (wellFormed : ∀ token ∈ tokens, token.WellFormed) :
    (text.write tokens "").toList.splitOn '\n' = tokens.map (·.row.toList) ++ [[]] := by
  have ended : (text.write tokens "").toList = (tokens.map (·.row.toList)).flatMap (· ++ ['\n']) := by
    rw [toList_write_text, String.toList_empty, List.nil_append]
  have cut := splitOn_flatMap '\n' (tokens.map (·.row.toList)) [] (by
    intro row member
    rcases List.mem_map.mp member with ⟨token, inside, rfl⟩
    exact (wellFormed token inside).newline_not_mem_row)
  rwa [List.append_nil, ← ended] at cut

theorem mapM_ofRow?_row (tokens : List Token) (wellFormed : ∀ token ∈ tokens, token.WellFormed) :
    (tokens.map (·.row.toList)).mapM Token.ofRow? = some tokens := by
  induction tokens with
  | nil => rfl
  | cons token later ih =>
      have rest := ih fun other member => wellFormed other (List.mem_cons_of_mem token member)
      rw [List.map_cons, List.mapM_cons, (wellFormed token List.mem_cons_self).ofRow?_row, rest]
      rfl

/-- The texts of a record up to its last quote, cut at the quotes. -/
def recordPieces (token : Token) : List (List Char) :=
  ["  \x7b\n    ".toList, "kind".toList, ": ".toList, token.kind.name.toList, ",\n    ".toList,
    "lexeme".toList, ": ".toList, token.lexeme.toList, ",\n    ".toList, "line".toList]

theorem toList_jsonRecord (token : Token) (wellFormed : token.WellFormed) :
    (jsonRecord token).toList =
      (recordPieces token).flatMap (· ++ ['"']) ++
        (": ".toList ++ (Nat.toDigits 10 token.line.toNat ++ "\n  \x7d".toList)) := by
  unfold jsonRecord
  simp only [String.toList_append, token.kind.isField_name.toList_jsonString,
    wellFormed.isField_lexeme.toList_jsonString, token.toList_line]
  simp [recordPieces]

/-- The tokens of the records whose pieces these are, ten to a record. The last of the ten begins with the
line and runs on to the first quote of the next record. -/
def ofPieces? : List (List Char) → Option (List Token)
  | _ :: _ :: name :: _ :: _ :: _ :: lexeme :: _ :: _ :: number :: later =>
      (Token.ofFields? ((number.drop 2).takeWhile Text.isDigit) name lexeme).bind fun token =>
        (ofPieces? later).map (token :: ·)
  | _ => some []

theorem quote_not_mem_recordPieces (token : Token) (wellFormed : token.WellFormed) :
    ∀ piece ∈ recordPieces token, '"' ∉ piece := by
  have name := token.kind.isField_name.not_mem '"' (by decide)
  have lexeme := wellFormed.isField_lexeme.not_mem '"' (by decide)
  simp [recordPieces, name, lexeme]

theorem takeWhile_toDigits (number : Nat) (rest : List Char) :
    (Nat.toDigits 10 number ++ '\n' :: rest).takeWhile Text.isDigit = Nat.toDigits 10 number := by
  rw [List.takeWhile_append_of_pos (Text.isDigit_of_mem_toDigits number)]
  simp [Text.isDigit]

-- What stands behind the line, up to the next quote, is no part of the number.
theorem ofPieces?_record (token : Token) (wellFormed : token.WellFormed) (rest : List Char) :
    ofPieces? (((jsonRecord token).toList ++ rest).splitOn '"').tail =
      (ofPieces? (rest.splitOn '"').tail).map (token :: ·) := by
  have digits := (isField_toDigits token.line.toNat).not_mem '"' (by decide)
  have line : '"' ∉ ": ".toList ++ (Nat.toDigits 10 token.line.toNat ++ "\n  \x7d".toList) := by
    simp [digits]
  rw [toList_jsonRecord token wellFormed, List.append_assoc,
    splitOn_flatMap '"' _ _ (quote_not_mem_recordPieces token wellFormed), splitOn_append '"' _ _ line]
  cases cut : rest.splitOn '"' with
  | nil => exact absurd cut (List.splitOn_ne_nil _ _)
  | cons first later =>
      simp [recordPieces, ofPieces?, takeWhile_toDigits, Token.ofFields?_fields]

theorem ofPieces?_records (tokens : List Token) (wellFormed : ∀ token ∈ tokens, token.WellFormed) :
    ofPieces? (((String.intercalate ",\n" (tokens.map jsonRecord)).toList ++ "\n]\n".toList).splitOn
      '"').tail = some tokens := by
  have ending : ofPieces? ("\n]\n".toList.splitOn '"').tail = some [] := by
    rw [List.splitOn_eq_singleton (by decide)]
    rfl
  induction tokens with
  | nil => exact ending
  | cons token later ih =>
      have record := ofPieces?_record token (wellFormed token List.mem_cons_self)
      cases later with
      | nil =>
          rw [List.map_singleton, String.intercalate_singleton, record, ending]
          rfl
      | cons next others =>
          have rest := ih fun other member => wellFormed other (List.mem_cons_of_mem token member)
          rw [List.map_cons] at rest
          rw [List.map_cons, List.map_cons, String.intercalate_cons_cons, String.toList_append,
            String.toList_append, List.append_assoc, List.append_assoc, record,
            tail_splitOn_append '"' _ _ (by decide), rest]
          rfl

theorem ofPieces?_write_json (tokens : List Token)
    (wellFormed : ∀ token ∈ tokens, token.WellFormed) :
    ofPieces? ((json.write tokens "").toList.splitOn '"').tail = some tokens := by
  cases tokens with
  | nil =>
      rw [List.splitOn_eq_singleton (by decide)]
      rfl
  | cons token later =>
      have records := ofPieces?_records (token :: later) wellFormed
      rw [← tail_splitOn_append '"' "[\n".toList _ (by decide)] at records
      simpa [write, jsonArray] using records

def decode? : ListingFormat → String → Option (List Token)
  | text, listing => (listing.toList.splitOn '\n').dropLast.mapM Token.ofRow?
  | json, listing => ofPieces? (listing.toList.splitOn '"').tail

theorem decode?_write (format : ListingFormat) (tokens : List Token)
    (wellFormed : ∀ token ∈ tokens, token.WellFormed) :
    format.decode? (format.write tokens "") = some tokens := by
  cases format with
  | json => exact ofPieces?_write_json tokens wellFormed
  | text =>
      rw [decode?, splitOn_write_text tokens wellFormed, List.dropLast_concat]
      exact mapM_ofRow?_row tokens wellFormed

end ListingFormat

section Outcomes

variable (files : FileSystem) (mode : LexMode) (format : ListingFormat) (path out : String)

theorem listTokens_eq_ok_iff (count : Nat) (written : String) :
    listTokens files mode format path out = (.ok count, written) ↔
      ∃ text tokens, files.HasText path text ∧ tokenize text mode = .ok tokens ∧
        count = tokens.length ∧ written = out ++ format.write tokens "" := by
  rw [listTokens]
  constructor
  · intro listed
    cases found : files.tokens mode path with
    | error failure => simp [found] at listed
    | ok tokens =>
        obtain ⟨text, hasText, lexed⟩ := (FileSystem.tokens_eq_ok_iff tokens).mp found
        simp only [found, Prod.mk.injEq, Except.ok.injEq] at listed
        exact ⟨text, tokens, hasText, lexed, listed.1.symm,
          listed.2.symm.trans (format.write_eq_append tokens out)⟩
  · rintro ⟨text, tokens, hasText, lexed, rfl, rfl⟩
    rw [hasText.tokens_eq lexed, ← format.write_eq_append tokens out]

theorem listTokens_eq_error_iff (failure : Failure) (written : String) :
    listTokens files mode format path out = (.error failure, written) ↔
      files.FailsWith mode path failure ∧ written = out := by
  rw [listTokens, ← FileSystem.tokens_eq_error_iff]
  cases files.tokens mode path with
  | ok tokens => simp
  | error cause => simp [eq_comm]

end Outcomes

theorem Session.output_perform_tokens (files : FileSystem) (settings : Settings) (path : String)
    (skips : Bool) (format : Option ListingFormat) (choice : Option TerminatorChoice) :
    let request := Request.tokens path skips format choice
    (perform files settings request).output =
      (listTokens files (mode settings request) (format.getD settings.format) path "").2 := by
  intro request
  simp only [perform, request]
  split <;> simp only [Outcome.printed, *]

theorem listing_is_whole_and_decodable :
    (∀ (files : FileSystem) (mode : LexMode) (format : ListingFormat) (path out : String),
      let listed := listTokens files mode format path out
      (∀ count written, listed = (.ok count, written) ↔
        ∃ text tokens, files.HasText path text ∧ tokenize text mode = .ok tokens ∧
          count = tokens.length ∧ written = out ++ format.write tokens "") ∧
      ∀ failure written, listed = (.error failure, written) ↔
        files.FailsWith mode path failure ∧ written = out) ∧
    (∀ (files : FileSystem) (settings : Settings) (path : String) (skips : Bool)
        (format : Option ListingFormat) (choice : Option TerminatorChoice),
      let request := Request.tokens path skips format choice
      (Session.perform files settings request).output =
        (listTokens files (Session.mode settings request) (format.getD settings.format) path "").2) ∧
    (∀ source mode tokens, tokenize source mode = .ok tokens →
      (ListingFormat.text.write tokens "").toList.splitOn '\n' = tokens.map (·.row.toList) ++ [[]] ∧
        ∀ format : ListingFormat, format.decode? (format.write tokens "") = some tokens) ∧
    ∀ (format : ListingFormat) source mode tokens source' mode' tokens',
      tokenize source mode = .ok tokens → tokenize source' mode' = .ok tokens' →
        format.write tokens "" = format.write tokens' "" → tokens = tokens' := by
  have decoded : ∀ source mode tokens (format : ListingFormat), tokenize source mode = .ok tokens →
      format.decode? (format.write tokens "") = some tokens := by
    intro source mode tokens format lexed
    exact format.decode?_write tokens (wellFormed_of_lexed source mode tokens lexed)
  refine ⟨?_, Session.output_perform_tokens, ?_, ?_⟩
  · intro files mode format path out
    exact ⟨listTokens_eq_ok_iff files mode format path out, listTokens_eq_error_iff files mode format path out⟩
  · intro source mode tokens lexed
    have wellFormed := wellFormed_of_lexed source mode tokens lexed
    exact ⟨ListingFormat.splitOn_write_text tokens wellFormed,
      fun format => decoded source mode tokens format lexed⟩
  · intro format source mode tokens source' mode' tokens' lexed lexed' same
    apply Option.some.inj
    calc
      some tokens = format.decode? (format.write tokens "") := (decoded source mode tokens format lexed).symm
      _ = format.decode? (format.write tokens' "") := by rw [same]
      _ = some tokens' := decoded source' mode' tokens' format lexed'

-- A file above the working directory, with a token without a lexeme between two that have one, and a file
-- that may not be opened.
theorem listing_is_whole_and_decodable_in_directory :
    let files : FileTree := ⟨["home"], [([], .directory), (["home"], .directory),
      (["home", "q"], .locked (.other "Permission denied (os error 13)")),
      (["q"], .file "prix_ñ \r\n>= 010".toUTF8)]⟩
    let tokens := [⟨.identifier, "prix_ñ", 1⟩, ⟨.operator .greaterOrEqual, "", 2⟩, ⟨.integer, "010", 2⟩]
    files.system.HasText "../q" "prix_ñ \r\n>= 010" ∧
      listTokens files.system ⟨.crlf, true⟩ .text "../q" "> " =
        (.ok 3, "> 1 Identifier prix_ñ\n2 GreaterOrEqual\n2 IntegerLiteral 010\n") ∧
      listTokens files.system ⟨.crlf, true⟩ .text "q" "> " =
        (.error (.unread "q" (.other "Permission denied (os error 13)")), "> ") ∧
      ListingFormat.json.decode? (ListingFormat.json.write tokens "") = some tokens := by
  intro files tokens
  have hasText : files.system.HasText "../q" "prix_ñ \r\n>= 010" := ⟨by decide +kernel, rfl⟩
  have lexed : tokenize "prix_ñ \r\n>= 010" ⟨.crlf, true⟩ = .ok tokens := by decide +kernel
  have refused : files.system.FailsWith ⟨.crlf, true⟩ "q"
      (.unread "q" (.other "Permission denied (os error 13)")) :=
    .unread (.closed (by decide +kernel) _ rfl)
  have outcomes := listing_is_whole_and_decodable.1 files.system ⟨.crlf, true⟩ .text
  exact ⟨hasText, ((outcomes "../q" "> ").1 _ _).mpr ⟨_, tokens, hasText, lexed, rfl, by decide +kernel⟩,
    ((outcomes "q" "> ").2 _ _).mpr ⟨refused, rfl⟩,
    (listing_is_whole_and_decodable.2.2.1 _ _ tokens lexed).2 .json⟩

end QueryLexer

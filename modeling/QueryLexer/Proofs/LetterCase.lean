import Mathlib.Data.List.Forall2
import QueryLexer.Proofs.Token.Relocation

/-!
Upper and lower case. The letters `A` to `Z` are letters in either case, so case decides neither where a
token begins nor where it stops; and keywords are looked up without regard to it. Lexing a source in lower
case therefore gives the tokens of the source with their lexemes in lower case, and the same error: two
sources that differ only in case have the same tokens up to case.
-/

namespace QueryLexer

namespace Text

theorem toLower_cases (c : Char) :
    c.toLower = c ∨ isLetter c = true ∧ isLetter c.toLower = true := by
  have value := toNat_toLower c
  by_cases upper : 65 ≤ c.toNat ∧ c.toNat ≤ 90
  · rw [if_pos upper] at value
    right
    constructor
    · apply isLetter_of_ascii
      exact Or.inl upper
    · apply isLetter_of_ascii
      omega
  · rw [if_neg upper] at value
    left
    exact Char.toNat_inj.mp value

-- A class that has all letters in it, or none, does not tell upper from lower case.
theorem class_toLower (accept : Char → Bool) (common : Bool)
    (uniform : ∀ c, isLetter c = true → accept c = common) (c : Char) : accept c.toLower = accept c := by
  rcases toLower_cases c with same | ⟨here, lower⟩
  · rw [same]
  · rw [uniform c here, uniform c.toLower lower]

theorem startsName_toLower : ∀ c : Char, startsName c.toLower = startsName c :=
  class_toLower startsName true startsName_of_isLetter

theorem continuesName_toLower : ∀ c : Char, continuesName c.toLower = continuesName c :=
  class_toLower continuesName true continuesName_of_isLetter

theorem isDigit_toLower : ∀ c : Char, isDigit c.toLower = isDigit c :=
  class_toLower isDigit false fun c letter => isDigit_startsName c (startsName_of_isLetter c letter)

theorem isBlank_toLower : ∀ c : Char, isBlank c.toLower = isBlank c :=
  class_toLower isBlank false fun c letter => isBlank_startsName c (startsName_of_isLetter c letter)

theorem toLower_eq_iff (c d : Char) (other : isLetter c = false) : d.toLower = c ↔ d = c := by
  constructor
  · rintro rfl
    rcases toLower_cases d with same | ⟨_, lower⟩
    · exact same.symm
    · simp [lower] at other
  · rintro rfl
    rcases toLower_cases d with same | ⟨letter, _⟩
    · exact same
    · simp [letter] at other

theorem head?_foldCase_eq_iff (c : Char) (text : List Char) (other : isLetter c = false) :
    (foldCase text).head? = some c ↔ text.head? = some c := by
  cases text with
  | nil => rfl
  | cons d later => simp [foldCase, toLower_eq_iff c d other]

theorem foldCase_foldCase (text : List Char) : foldCase (foldCase text) = foldCase text := by
  have again : ∀ c : Char, c.toLower.toLower = c.toLower := by
    intro c
    have first := toNat_toLower c
    have second := toNat_toLower c.toLower
    apply Char.toNat_inj.mp
    split at first <;> split at second <;> omega
  simp [foldCase, again]

end Text

theorem Keyword.ofWord?_foldCase (word : List Char) :
    Keyword.ofWord? (Text.foldCase word) = Keyword.ofWord? word := by
  simp only [Keyword.ofWord?, Keyword.spelledBy, Text.foldCase_foldCase]

theorem Kind.absorbs_toLower (kind : Kind) (c : Char) : kind.absorbs c.toLower = kind.absorbs c := by
  cases kind with
  | keyword word => exact Text.continuesName_toLower c
  | identifier => exact Text.continuesName_toLower c
  | integer => exact Text.isDigit_toLower c
  | operator op =>
      have equal : (c.toLower == '=') = (c == '=') := by
        rw [Bool.eq_iff_iff, beq_iff_eq, beq_iff_eq]
        exact Text.toLower_eq_iff '=' c (Text.isLetter_operator '=' (by decide))
      rw [Kind.absorbs, Kind.absorbs, equal]
  | space => rfl

theorem Kind.StopsAt.foldCase {kind : Kind} {rest : List Char} (stops : kind.StopsAt rest) :
    kind.StopsAt (Text.foldCase rest) := by
  cases rest with
  | nil => exact stops
  | cons c later =>
      intro next first
      obtain rfl : c.toLower = next := Option.some.inj first
      rw [kind.absorbs_toLower]
      exact stops c rfl

theorem isName_foldCase (word : List Char) (named : IsName word) : IsName (Text.foldCase word) := by
  rcases named with ⟨c, later, rfl, starts, continues⟩
  refine ⟨c.toLower, Text.foldCase later, rfl, ?_, ?_⟩
  · rw [Text.startsName_toLower, starts]
  · intro d member
    rcases List.mem_map.mp member with ⟨letter, inside, rfl⟩
    rw [Text.continuesName_toLower, continues letter inside]

-- One case for each kind: operators and blanks have no case, words are looked up without it.
theorem Kind.Written.foldCase {kind : Kind} {lexeme : String} {chars : List Char}
    (written : kind.Written lexeme chars) :
    kind.Written (String.ofList (Text.foldCase lexeme.toList)) (Text.foldCase chars) := by
  cases kind with
  | space =>
      rcases written with ⟨rfl, c, rfl, blank⟩
      exact ⟨rfl, c.toLower, rfl, by rw [Text.isBlank_toLower, blank]⟩
  | operator op =>
      rcases written with ⟨rfl, rfl⟩
      exact ⟨rfl, by cases op <;> decide⟩
  | keyword spelled =>
      rcases written with ⟨rfl, found⟩
      exact ⟨by rw [String.toList_ofList], by rw [Keyword.ofWord?_foldCase, found]⟩
  | identifier =>
      rcases written with ⟨rfl, named, unreserved⟩
      exact ⟨by rw [String.toList_ofList], isName_foldCase chars named,
        by rw [Keyword.ofWord?_foldCase, unreserved]⟩
  | integer =>
      rcases written with ⟨rfl, nonempty, digits⟩
      refine ⟨by rw [String.toList_ofList], by simpa [Text.foldCase] using nonempty, ?_⟩
      intro d member
      rcases List.mem_map.mp member with ⟨digit, inside, rfl⟩
      rw [Text.isDigit_toLower, digits digit inside]

theorem tokenAt?_none_foldCase (c : Char) (later : List Char) (missed : tokenAt? (c :: later) = none) :
    c.toLower = c ∧ tokenAt? (c :: Text.foldCase later) = none := by
  rw [tokenAt?_eq_none_iff] at missed ⊢
  have other : Text.isLetter c = false := by
    cases letter : Text.isLetter c with
    | false => rfl
    | true => simp [Text.startsName_of_isLetter c letter] at missed
  constructor
  · exact (Text.toLower_eq_iff c c other).mpr rfl
  · rwa [ne_eq, Text.head?_foldCase_eq_iff c later other]

def Token.caseFolded (token : Token) : Token :=
  { token with lexeme := String.ofList (Text.foldCase token.lexeme.toList) }

/-- The transcript with all lexemes in lower case. The error stays: no letter is in it. -/
def Transcript.caseFolded (transcript : Transcript) : Transcript :=
  ⟨transcript.tokens.map Token.caseFolded, transcript.failure⟩

theorem Transcript.caseFolded_append (first second : Transcript) :
    (first.append second).caseFolded = first.caseFolded.append second.caseFolded := by
  cases first with
  | mk tokens failure => cases failure <;> simp [append, caseFolded]

theorem Transcript.withoutTrivia_caseFolded (transcript : Transcript) :
    transcript.caseFolded.withoutTrivia = transcript.withoutTrivia.caseFolded := by
  simp only [withoutTrivia, caseFolded, List.filter_map, mk.injEq, and_true]
  rfl

theorem lineTranscript_foldCase (number : UInt32) (column : Nat) (text : List Char) :
    lineTranscript number column (Text.foldCase text) =
      (lineTranscript number column text).caseFolded := by
  induction text using line_induction generalizing column with
  | nil => simp [Text.foldCase, lineTranscript_nil, Transcript.caseFolded, Transcript.finished]
  | missed c later none =>
      rcases tokenAt?_none_foldCase c later none with ⟨unchanged, still⟩
      have folded : Text.foldCase (c :: later) = c :: Text.foldCase later := by
        rw [Text.foldCase, List.map_cons, unchanged]
        rfl
      rw [folded, lineTranscript_of_none _ _ _ _ still, lineTranscript_of_none _ _ _ _ none]
      rfl
  | token kind lexeme chars rest written stops ih =>
      have folded : Text.foldCase (chars ++ rest) = Text.foldCase chars ++ Text.foldCase rest :=
        List.map_append
      have size : (Text.foldCase chars).length = chars.length := List.length_map _
      rw [folded, lineTranscript_written _ _ kind _ _ _ written.foldCase stops.foldCase, size, ih,
        lineTranscript_written _ _ kind lexeme chars rest written stops]
      rfl

theorem pageTranscript_foldCase (number : Nat) (lines : List (List Char)) :
    pageTranscript number (lines.map Text.foldCase) = (pageTranscript number lines).caseFolded := by
  induction lines generalizing number with
  | nil => rfl
  | cons text later ih =>
      rw [List.map_cons, pageTranscript, pageTranscript, Transcript.caseFolded_append,
        lineTranscript_foldCase, ih]

namespace Terminator

theorem begins_foldCase (terminator : Terminator) (text : List Char)
    (begins : terminator.Begins (Text.foldCase text)) : terminator.Begins text := by
  have feed : Text.isLetter '\n' = false := Text.isLetter_blank '\n' (by decide)
  have back : Text.isLetter '\r' = false := Text.isLetter_blank '\r' (by decide)
  cases terminator with
  | lf => exact (Text.head?_foldCase_eq_iff '\n' text feed).mp begins
  | crlf =>
      rcases begins with ⟨first, next⟩
      constructor
      · exact (Text.head?_foldCase_eq_iff '\r' text back).mp first
      · rw [Text.foldCase, List.getElem?_map, Option.map_eq_some_iff] at next
        rcases next with ⟨c, stands, same⟩
        rwa [← (Text.toLower_eq_iff '\n' c feed).mp same]

theorem lines_foldCase (terminator : Terminator) (text : List Char) :
    terminator.lines (Text.foldCase text) = (terminator.lines text).map Text.foldCase := by
  fun_induction Terminator.lines terminator text with
  | case1 => rfl
  | case2 rest ih => exact congrArg ([] :: ·) ih
  | case3 rest ih => exact congrArg ([] :: ·) ih
  | case4 terminator c rest noFeed noReturn ih =>
      have plain : ¬ terminator.Begins (c.toLower :: Text.foldCase rest) := by
        intro begins
        exact not_begins terminator c rest noFeed noReturn (begins_foldCase terminator (c :: rest) begins)
      have cut := lines_cons terminator c.toLower _ plain
      rw [ih] at cut
      refine cut.trans ?_
      cases terminator.lines rest <;> rfl

end Terminator

theorem sourceTranscript_foldCase (source : String) (mode : LexMode) :
    sourceTranscript (String.ofList (Text.foldCase source.toList)) mode =
      (sourceTranscript source mode).caseFolded := by
  simp only [sourceTranscript, String.toList_ofList, Terminator.lines_foldCase, pageTranscript_foldCase]
  cases mode.skipTrivia with
  | false => rfl
  | true => exact Transcript.withoutTrivia_caseFolded _

/-- The tokens stand on one line and say the same, up to case. -/
def Token.SameUpToCase (first second : Token) : Prop :=
  first.kind = second.kind ∧ first.line = second.line ∧
    Text.foldCase first.lexeme.toList = Text.foldCase second.lexeme.toList

theorem Token.sameUpToCase_of_caseFolded (first second : Token)
    (same : first.caseFolded = second.caseFolded) : first.SameUpToCase second := by
  rcases Token.mk.inj same with ⟨kind, lexeme, line⟩
  exact ⟨kind, line, String.ofList_inj.mp lexeme⟩

theorem Token.forall₂_of_caseFolded (tokens others : List Token)
    (same : tokens.map Token.caseFolded = others.map Token.caseFolded) :
    List.Forall₂ Token.SameUpToCase tokens others := by
  rw [← List.forall₂_eq_eq_eq, List.forall₂_map_left_iff, List.forall₂_map_right_iff] at same
  exact same.imp Token.sameUpToCase_of_caseFolded

theorem tokenize_up_to_case (source other : String) (mode : LexMode)
    (same : Text.foldCase source.toList = Text.foldCase other.toList) :
    (∃ error, tokenize source mode = .error error ∧ tokenize other mode = .error error) ∨
      ∃ tokens others, tokenize source mode = .ok tokens ∧ tokenize other mode = .ok others ∧
        List.Forall₂ Token.SameUpToCase tokens others := by
  have folded : (sourceTranscript source mode).caseFolded = (sourceTranscript other mode).caseFolded := by
    rw [← sourceTranscript_foldCase, ← sourceTranscript_foldCase, same]
  rcases Transcript.mk.inj folded with ⟨words, failures⟩
  simp only [tokenize_eq, Transcript.result_eq_error_iff, Transcript.result_eq_ok_iff]
  cases failure : (sourceTranscript source mode).failure with
  | some error => exact Or.inl ⟨error, rfl, failures.symm.trans failure⟩
  | none =>
      right
      exact ⟨_, _, ⟨rfl, rfl⟩, ⟨failures.symm.trans failure, rfl⟩, Token.forall₂_of_caseFolded _ _ words⟩

theorem tokenize_up_to_case_long_s :
    Text.foldCase "VAR ſelect\n\u212A=Where".toList = Text.foldCase "var ſELECT\n\u212A=wHERE".toList ∧
      tokenize "VAR ſelect\n\u212A=Where" ⟨.lf, true⟩ = .ok [⟨.keyword .varWord, "VAR", 1⟩,
        ⟨.identifier, "ſelect", 1⟩, ⟨.identifier, "\u212A", 2⟩, ⟨.operator .assignment, "", 2⟩,
        ⟨.keyword .whereWord, "Where", 2⟩] ∧
      ∃ others, tokenize "var ſELECT\n\u212A=wHERE" ⟨.lf, true⟩ = .ok others ∧
        List.Forall₂ Token.SameUpToCase [⟨.keyword .varWord, "VAR", 1⟩, ⟨.identifier, "ſelect", 1⟩,
          ⟨.identifier, "\u212A", 2⟩, ⟨.operator .assignment, "", 2⟩,
          ⟨.keyword .whereWord, "Where", 2⟩] others := by
  have same : Text.foldCase "VAR ſelect\n\u212A=Where".toList =
      Text.foldCase "var ſELECT\n\u212A=wHERE".toList := by
    decide +kernel
  have lexed : tokenize "VAR ſelect\n\u212A=Where" ⟨.lf, true⟩ = .ok [⟨.keyword .varWord, "VAR", 1⟩,
      ⟨.identifier, "ſelect", 1⟩, ⟨.identifier, "\u212A", 2⟩, ⟨.operator .assignment, "", 2⟩,
      ⟨.keyword .whereWord, "Where", 2⟩] := by
    rw [tokenize_eq, Transcript.result_eq_ok_iff]
    decide +kernel
  refine ⟨same, lexed, ?_⟩
  rcases tokenize_up_to_case _ _ ⟨.lf, true⟩ same with
    ⟨error, failed, _⟩ | ⟨tokens, others, found, other, agree⟩
  · cases lexed.symm.trans failed
  · obtain rfl := Except.ok.inj (lexed.symm.trans found)
    exact ⟨others, other, agree⟩

end QueryLexer

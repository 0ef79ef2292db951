import Mathlib.Data.List.Permutation
import QueryLexer.Proofs.Token.Page

/-!
The order in which the classifiers are tried. Blanks, operators, words and numbers begin with different
characters, so no two of these groups have a match at one place. Only the two classifiers of words can
both match: a keyword could be a name, too. So the classifiers may be tried in any order that has keywords
before names, and in no other, if every source is to be lexed as before.
-/

namespace QueryLexer

/-- Classifiers go together if their tokens begin with the same characters. -/
inductive ClassifierGroup where
  | trivia | operator | word | integer
  deriving DecidableEq, Repr

def Classifier.group : Classifier → ClassifierGroup
  | trivia => .trivia
  | operator => .operator
  | keyword => .word
  | identifier => .word
  | integer => .integer

/-- Keywords are tried before names. -/
def Classifier.KeywordsFirst (order : List Classifier) : Prop := [keyword, identifier].Sublist order

def ClassifierGroup.ofChar? (c : Char) : Option ClassifierGroup :=
  if Text.isBlank c then some trivia
  else if Text.startsName c then some word
  else if Text.isDigit c then some integer
  else if c ∈ Text.operatorChars then some operator
  else none

theorem first_of_wordAt? (first more : Char → Bool) (text run : List Char)
    (taken : wordAt? first more text = some run) : ∃ c later, text = c :: later ∧ first c = true := by
  cases text with
  | nil => cases taken
  | cons c later =>
      rw [wordAt?] at taken
      split at taken
      case isTrue starts => exact ⟨c, later, rfl, starts⟩
      case isFalse => cases taken

namespace ClassifierGroup

theorem ofChar?_startsName (c : Char) (starts : Text.startsName c = true) : ofChar? c = some word := by
  simp [ofChar?, Text.isBlank_startsName c starts, starts]

theorem ofChar?_digit (c : Char) (digit : Text.isDigit c = true) : ofChar? c = some integer := by
  simp [ofChar?, Text.isBlank_digit c digit, Text.startsName_digit c digit, digit]

theorem ofChar?_operator (c : Char) (member : c ∈ Text.operatorChars) : ofChar? c = some operator := by
  simp [ofChar?, Text.isBlank_operator c member, Text.startsName_operator c member,
    Text.isDigit_operator c member, member]

end ClassifierGroup

namespace Classifier

theorem group_of_matchAt? (classifier : Classifier) (text : List Char) (found : Match)
    (matched : classifier.matchAt? text = some found) :
    text.head?.bind ClassifierGroup.ofChar? = some classifier.group := by
  cases classifier with
  | trivia =>
      simp only [matchAt?] at matched
      cases text with
      | nil => cases matched
      | cons c later =>
          split at matched
          case isTrue blank =>
            have isBlank : Text.isBlank c = true := blank
            simp [ClassifierGroup.ofChar?, isBlank, group]
          case isFalse => cases matched
  | operator =>
      cases text with
      | nil => cases matched
      | cons c later =>
          apply ClassifierGroup.ofChar?_operator
          by_contra other
          cases (operatorAt?_of_not_mem c later other).symm.trans matched
  | keyword =>
      simp only [matchAt?, keywordAt?] at matched
      split at matched
      case h_1 word taken =>
        obtain ⟨c, later, rfl, letter⟩ := first_of_wordAt? _ _ text word taken
        exact ClassifierGroup.ofChar?_startsName c (Text.startsName_of_isLetter c letter)
      case h_2 => cases matched
  | identifier =>
      obtain ⟨run, taken, _⟩ := Option.map_eq_some_iff.mp matched
      obtain ⟨c, later, rfl, starts⟩ := first_of_wordAt? _ _ text run taken
      exact ClassifierGroup.ofChar?_startsName c starts
  | integer =>
      obtain ⟨run, taken, _⟩ := Option.map_eq_some_iff.mp matched
      obtain ⟨c, later, rfl, digit⟩ := first_of_wordAt? _ _ text run taken
      exact ClassifierGroup.ofChar?_digit c digit

theorem matchAt?_of_attempt (classifier : Classifier) (cursor : Cursor) :
    (classifier.attempt cursor).1 = classifier.matchAt? cursor.textAhead := by
  rw [attempt_eq]
  cases classifier.matchAt? cursor.textAhead <;> rfl

theorem group_unique (cursor : Cursor) (first second : Classifier)
    (left : (first.attempt cursor).1.isSome = true) (right : (second.attempt cursor).1.isSome = true) :
    first.group = second.group := by
  rw [matchAt?_of_attempt] at left right
  obtain ⟨found, matched⟩ := Option.isSome_iff_exists.mp left
  obtain ⟨other, matched'⟩ := Option.isSome_iff_exists.mp right
  exact Option.some.inj ((group_of_matchAt? first _ found matched).symm.trans
    (group_of_matchAt? second _ other matched'))

-- Of an order, only the classifiers of the group that has a match count.
theorem findSome?_group (order : List Classifier) (text : List Char) (group : ClassifierGroup)
    (ahead : text.head?.bind ClassifierGroup.ofChar? = some group) :
    order.findSome? (·.matchAt? text) =
      (order.filter (·.group = group)).findSome? (·.matchAt? text) := by
  induction order with
  | nil => rfl
  | cons classifier later ih =>
      by_cases same : classifier.group = group
      · rw [List.filter_cons_of_pos (by simpa using same), List.findSome?_cons, List.findSome?_cons, ih]
      · have missed : classifier.matchAt? text = none := by
          cases matched : classifier.matchAt? text with
          | none => rfl
          | some found =>
              have other := group_of_matchAt? classifier text found matched
              exact absurd (Option.some.inj (other.symm.trans ahead)) same
        rw [List.filter_cons_of_neg (by simpa using same), List.findSome?_cons, missed, ih]

theorem findSome?_no_group (order : List Classifier) (text : List Char)
    (ahead : text.head?.bind ClassifierGroup.ofChar? = none) :
    order.findSome? (·.matchAt? text) = none := by
  apply List.findSome?_eq_none_iff.mpr
  intro classifier _
  cases matched : classifier.matchAt? text with
  | none => rfl
  | some found => cases ahead.symm.trans (group_of_matchAt? classifier text found matched)

theorem filter_group (order : List Classifier) (reordered : order.Perm chain)
    (keywordsFirst : KeywordsFirst order) (group : ClassifierGroup) :
    order.filter (·.group = group) = chain.filter (·.group = group) := by
  have single : ∀ classifier ∈ chain, [classifier].Sublist order := by
    intro classifier member
    exact List.singleton_sublist.mpr (reordered.mem_iff.mpr member)
  have inOrder : (chain.filter (·.group = group)).Sublist order := by
    cases group with
    | trivia => exact single trivia (by decide)
    | operator => exact single operator (by decide)
    | word => exact keywordsFirst
    | integer => exact single integer (by decide)
  have kept := inOrder.filter (·.group = group)
  rw [List.filter_filter] at kept
  simp only [Bool.and_self] at kept
  exact (kept.eq_of_length (reordered.filter _).length_eq.symm).symm

theorem inTurn_reordered (order : List Classifier) (reordered : order.Perm chain)
    (keywordsFirst : KeywordsFirst order) (cursor : Cursor) :
    inTurn order cursor = inTurn chain cursor := by
  rw [inTurn_eq, inTurn_eq]
  cases ahead : cursor.textAhead.head?.bind ClassifierGroup.ofChar? with
  | none => rw [findSome?_no_group order _ ahead, findSome?_no_group chain _ ahead]
  | some group =>
      rw [findSome?_group order _ group ahead, filter_group order reordered keywordsFirst,
        ← findSome?_group chain _ group ahead]

-- Names first: then every word is a name.
theorem inTurn_names_first (order : List Classifier) (reordered : order.Perm chain)
    (namesFirst : ¬ KeywordsFirst order) (cursor : Cursor) (found : Match)
    (word : identifier.matchAt? cursor.textAhead = some found) :
    inTurn order cursor = (some found, cursor.settled.moved found.consumed) := by
  have words : order.filter (·.group = .word) = [identifier, keyword] := by
    rcases List.perm_pair.mp (reordered.filter (·.group = .word)) with first | second
    · refine absurd ?_ namesFirst
      rw [KeywordsFirst, ← first]
      exact List.filter_sublist
    · exact second
  rw [inTurn_eq_some_iff]
  refine ⟨?_, rfl⟩
  rw [findSome?_group order _ .word (group_of_matchAt? identifier _ found word), words,
    List.findSome?_cons, word]

-- A run is made of first matches, so two orders with the same first matches have the same run.
theorem transcript_of_inTurn (order other : List Classifier)
    (same : ∀ cursor, inTurn order cursor = inTurn other cursor) (skipTrivia : Bool)
    (cursor : Cursor) : transcript order skipTrivia cursor = transcript other skipTrivia cursor := by
  induction size : cursor.rest.length using Nat.strongRecOn generalizing cursor with
  | ind size ih =>
      rw [transcript_step order, transcript_step other, same cursor]
      cases cursor.nextLocation? with
      | none => rfl
      | some location =>
          rcases first : inTurn other cursor with ⟨_ | found, after⟩
          · rfl
          · have shorter := rest_lt_of_inTurn other cursor after found first
            simp only
            rw [ih _ (by omega) after rfl]

end Classifier

namespace TokenStream

theorem collect_reordered (order : List Classifier) (reordered : order.Perm Classifier.chain)
    (keywordsFirst : Classifier.KeywordsFirst order) (source : String) (mode : LexMode) :
    (withOrder order source mode).collect.1 = tokenize source mode := by
  rw [tokenize, collect_eq _ rfl, collect_eq _ rfl, transcript_eq, transcript_eq]
  have same := Classifier.inTurn_reordered order reordered keywordsFirst
  exact congrArg Transcript.result
    (Classifier.transcript_of_inTurn order Classifier.chain same mode.skipTrivia _)

theorem collect_names_first (order : List Classifier) (reordered : order.Perm Classifier.chain)
    (namesFirst : ¬ Classifier.KeywordsFirst order) :
    (withOrder order "var" ⟨.lf, false⟩).collect.1 ≠ tokenize "var" ⟨.lf, false⟩ := by
  have lexed : tokenize "var" ⟨.lf, false⟩ = .ok [⟨.keyword .varWord, "var", 1⟩] := by
    rw [tokenize_eq, Transcript.result_eq_ok_iff]
    decide +kernel
  have first := Classifier.inTurn_names_first order reordered namesFirst
    (Cursor.ofSource "var" .lf) ⟨.identifier, "var", 3⟩ (by decide +kernel)
  have located : (Cursor.ofSource "var" .lf).nextLocation? = some ⟨1, 1⟩ := by decide
  rw [lexed, collect_eq _ rfl, transcript_eq]
  intro same
  have tokens := ((Transcript.result_eq_ok_iff _ _).mp same).2
  change (Classifier.transcript order false (Cursor.ofSource "var" .lf)).tokens = _ at tokens
  rw [Classifier.transcript_step, located] at tokens
  simp [first] at tokens

end TokenStream

theorem order_matters_for_keywords_only :
    (∀ (cursor : Cursor) (first second : Classifier),
      (first.attempt cursor).1.isSome = true → (second.attempt cursor).1.isSome = true →
        first.group = second.group) ∧
    ∀ order : List Classifier, order.Perm Classifier.chain →
      (Classifier.KeywordsFirst order ↔ ∀ (source : String) (mode : LexMode),
        (TokenStream.withOrder order source mode).collect.1 = tokenize source mode) := by
  constructor
  · exact Classifier.group_unique
  · intro order reordered
    constructor
    · exact TokenStream.collect_reordered order reordered
    · intro same
      by_contra namesFirst
      exact TokenStream.collect_names_first order reordered namesFirst (same _ _)

-- The other way round, but for keywords and names; and a sign that has to be written twice.
theorem order_matters_for_keywords_only_reversed :
    Classifier.KeywordsFirst [.integer, .keyword, .identifier, .operator, .trivia] ∧
      (TokenStream.withOrder [.integer, .keyword, .identifier, .operator, .trivia]
        "Var\r\n7x <= &" ⟨.crlf, true⟩).collect.1 = .error (.unexpectedChar 2 7 '&') := by
  have keywordsFirst :
      Classifier.KeywordsFirst [.integer, .keyword, .identifier, .operator, .trivia] := by
    rw [Classifier.KeywordsFirst]
    decide
  have same := (order_matters_for_keywords_only.2 _ (by decide)).mp keywordsFirst
    "Var\r\n7x <= &" ⟨.crlf, true⟩
  refine ⟨keywordsFirst, same.trans ?_⟩
  rw [tokenize_eq, Transcript.result_eq_error_iff]
  decide +kernel

end QueryLexer
